import OhMyClass.Sorting.Core

/-!
# Channels merged by key

A dictionary of items by their key, where a later item replaces an earlier one
in its place, listed in a fixed order.  Merged this way, items may be written
again and in any sequence.
-/

namespace OhMyClass.Keyed

open List OhMyClass.Sorting

universe u v w

variable {α : Type u} {κ : Type v} {ο : Type w}

/-- No two items share a key. -/
def Unique (key : α → κ) (items : List α) : Prop :=
  items.Pairwise fun first second => key first ≠ key second

/-- The last item of a list with its key. -/
def IsLast (key : α → κ) (items : List α) (item : α) : Prop :=
  ∃ earlier later, items = earlier ++ item :: later ∧ ∀ other ∈ later, key other ≠ key item

section Lists

variable {key : α → κ} {items : List α} {item : α}

theorem Unique.eq_of_key (unique : Unique key items) {first second : α} (firstMem : first ∈ items)
    (secondMem : second ∈ items) (same : key first = key second) : first = second := by
  by_contra different
  have apart : Std.Symm fun first second : α => key first ≠ key second :=
    ⟨fun _ _ unequal back => unequal back.symm⟩
  exact unique.forall firstMem secondMem different same

theorem not_isLast_nil : ¬ IsLast key [] item := by
  rintro ⟨earlier, later, split, _⟩
  simp at split

theorem IsLast.mem (isLast : IsLast key items item) : item ∈ items := by
  rcases isLast with ⟨earlier, later, rfl, _⟩
  simp

theorem isLast_concat {last : α} :
    IsLast key (items ++ [last]) item ↔
      item = last ∨ (IsLast key items item ∧ key item ≠ key last) := by
  constructor
  · rintro ⟨earlier, later, split, free⟩
    rcases later.eq_nil_or_concat with rfl | ⟨init, final, rfl⟩
    · left
      exact (append_inj_right' split rfl |> singleton_inj.mp).symm
    · right
      rw [concat_eq_append, ← cons_append, ← append_assoc] at split
      have isFinal := singleton_inj.mp (append_inj_right' split rfl)
      rw [concat_eq_append] at free
      constructor
      · refine ⟨earlier, init, append_inj_left' split rfl, ?_⟩
        intro other mem
        exact free other (mem_append_left _ mem)
      · rw [isFinal]
        exact (free final (mem_append_right _ (mem_singleton_self _))).symm
  · rintro (rfl | ⟨⟨earlier, later, rfl, free⟩, different⟩)
    · exact ⟨items, [], rfl, by simp⟩
    · refine ⟨earlier, later ++ [last], by simp, ?_⟩
      intro other mem
      rcases mem_append.mp mem with mem | isLast
      · exact free other mem
      · rw [mem_singleton.mp isLast]
        exact different.symm

theorem exists_isLast (key : α → κ) (mem : item ∈ items) :
    ∃ last, IsLast key items last ∧ key last = key item := by
  induction items using List.reverseRecOn with
  | nil => cases mem
  | append_singleton init final ih =>
    by_cases same : key item = key final
    · exact ⟨final, isLast_concat.mpr (.inl rfl), same.symm⟩
    · have earlier : item ∈ init := by
        rcases mem_append.mp mem with earlier | isFinal
        · exact earlier
        · exact absurd (congrArg key (mem_singleton.mp isFinal)) same
      rcases ih earlier with ⟨last, isLast, lastKey⟩
      exact ⟨last, isLast_concat.mpr (.inr ⟨isLast, lastKey ▸ same⟩), lastKey⟩

end Lists

variable [DecidableEq κ] [LinearOrder ο]

/-- `by_key[key(item)] = item`, on the values in insertion order. -/
def put (key : α → κ) (items : List α) (item : α) : List α :=
  if items.any fun stored => key stored = key item then
    items.map fun stored => if key stored = key item then item else stored
  else
    items ++ [item]

/-- The values of a dictionary filled from two lists, sorted. -/
def stableMerge (key : α → κ) (order : α → ο) (prev new : List α) : List α :=
  sortBy order (new.foldl (put key) (prev.foldl (put key) []))

variable {key : α → κ} {order : α → ο} {items prev new : List α} {item : α}

/-! ## Putting items one by one -/

theorem any_key_iff :
    (items.any fun stored => key stored = key item) = true ↔
      ∃ stored ∈ items, key stored = key item := by
  simp

theorem mem_put {other : α} :
    other ∈ put key items item ↔ other = item ∨ (other ∈ items ∧ key other ≠ key item) := by
  unfold put
  split
  · next known =>
    rcases any_key_iff.mp known with ⟨stored, mem, same⟩
    rw [mem_map]
    constructor
    · rintro ⟨candidate, candidateMem, rfl⟩
      split
      · exact .inl rfl
      · next different => exact .inr ⟨candidateMem, different⟩
    · rintro (rfl | ⟨otherMem, different⟩)
      · exact ⟨stored, mem, if_pos same⟩
      · exact ⟨other, otherMem, if_neg different⟩
  · next unknown =>
    have free : ∀ stored ∈ items, key stored ≠ key item := by
      intro stored mem same
      exact unknown (any_key_iff.mpr ⟨stored, mem, same⟩)
    rw [mem_append, mem_singleton]
    constructor
    · rintro (mem | rfl)
      · exact .inr ⟨mem, free other mem⟩
      · exact .inl rfl
    · rintro (rfl | ⟨mem, _⟩)
      · exact .inr rfl
      · exact .inl mem

theorem Unique.put (unique : Unique key items) : Unique key (put key items item) := by
  unfold Keyed.put
  split
  · have keyEq (stored : α) :
        key (if key stored = key item then item else stored) = key stored := by
      split
      · next same => exact same.symm
      · rfl
    apply List.Pairwise.map _ _ unique
    intro first second different
    rw [keyEq, keyEq]
    exact different
  · next unknown =>
    refine pairwise_append.mpr ⟨unique, pairwise_singleton _ _, ?_⟩
    intro stored mem other isItem same
    rcases mem_singleton.mp isItem with rfl
    exact unknown (any_key_iff.mpr ⟨stored, mem, same⟩)

theorem Unique.foldl_put (unique : Unique key items) : Unique key (new.foldl (Keyed.put key) items) := by
  induction new generalizing items with
  | nil => exact unique
  | cons first rest ih => exact ih unique.put

theorem Unique.put_of_mem (unique : Unique key items) (mem : item ∈ items) :
    Keyed.put key items item = items := by
  unfold Keyed.put
  rw [if_pos (any_key_iff.mpr ⟨item, mem, rfl⟩)]
  conv_rhs => rw [← map_id items]
  apply map_congr_left
  intro stored storedMem
  split
  · next same => exact unique.eq_of_key mem storedMem same.symm
  · rfl

theorem Unique.foldl_put_of_subset (unique : Unique key items)
    (known : ∀ item ∈ new, item ∈ items) : new.foldl (Keyed.put key) items = items := by
  induction new with
  | nil => rfl
  | cons first rest ih =>
    rw [List.foldl_cons, unique.put_of_mem (known first mem_cons_self)]
    exact ih fun item mem => known item (mem_cons_of_mem _ mem)

theorem mem_foldl_put :
    item ∈ new.foldl (put key) items ↔
      IsLast key new item ∨ (item ∈ items ∧ ∀ other ∈ new, key other ≠ key item) := by
  induction new using List.reverseRecOn with
  | nil => simp [not_isLast_nil]
  | append_singleton init last ih =>
    rw [foldl_append, List.foldl_cons, foldl_nil, mem_put, ih, isLast_concat]
    simp only [mem_append, mem_singleton]
    constructor
    · rintro (rfl | ⟨isLast | ⟨stored, kept⟩, different⟩)
      · exact .inl (.inl rfl)
      · exact .inl (.inr ⟨isLast, different⟩)
      · right
        refine ⟨stored, ?_⟩
        rintro other (mem | rfl)
        · exact kept other mem
        · exact different.symm
    · rintro ((rfl | ⟨isLast, different⟩) | ⟨stored, kept⟩)
      · exact .inl rfl
      · exact .inr ⟨.inl isLast, different⟩
      · right
        exact ⟨.inr ⟨stored, fun other mem => kept other (.inl mem)⟩,
          (kept last (.inr rfl)).symm⟩

theorem Unique.foldl_put_nil (unique : Unique key items) : items.foldl (Keyed.put key) [] = items := by
  have general (stored : List α) (all : Unique key (stored ++ items)) :
      items.foldl (Keyed.put key) stored = stored ++ items := by
    induction items generalizing stored with
    | nil => simp
    | cons first rest ih =>
      have free : ¬ ((stored.any fun other => key other = key first) = true) := by
        intro known
        rcases any_key_iff.mp known with ⟨other, mem, same⟩
        exact (pairwise_append.mp all).2.2 other mem first mem_cons_self same
      have shifted : Unique key ((stored ++ [first]) ++ rest) := by
        rw [append_assoc]
        exact all
      rw [List.foldl_cons, Keyed.put, if_neg free, ih (List.Pairwise.of_cons unique) _ shifted,
        append_assoc]
      rfl
  exact general [] unique

/-- Items in the order of the channel, one for each key. -/
@[ext]
structure Channel (key : α → κ) (order : α → ο) where
  members : List α
  ascending : members.Pairwise fun first second => order first ≤ order second
  unique : Unique key members

namespace Channel

variable {channel : Channel key order}

def empty : Channel key order :=
  ⟨[], List.Pairwise.nil, List.Pairwise.nil⟩

/-- The reducer of the channel. -/
def merge (channel : Channel key order) (new : List α) : Channel key order where
  members := stableMerge key order channel.members new
  ascending := pairwise_sortBy order _
  unique := by
    have unique : Unique key (new.foldl (put key) (channel.members.foldl (put key) [])) :=
      (Unique.foldl_put List.Pairwise.nil).foldl_put
    exact (sortBy_perm order _).symm.pairwise unique fun unequal back => unequal back.symm

theorem mem_merge :
    item ∈ (channel.merge new).members ↔
      IsLast key new item ∨ (item ∈ channel.members ∧ ∀ other ∈ new, key other ≠ key item) := by
  unfold merge stableMerge
  rw [mem_sortBy, channel.unique.foldl_put_nil, mem_foldl_put]

theorem mem_merge_singleton {new : α} :
    item ∈ (channel.merge [new]).members ↔
      item = new ∨ (item ∈ channel.members ∧ key new ≠ key item) := by
  rw [mem_merge, ← nil_append [new], isLast_concat]
  simp [not_isLast_nil]

theorem mem_merge_of_mem (mem : item ∈ new)
    (alone : ∀ other ∈ new, key other = key item → other = item) :
    item ∈ (channel.merge new).members := by
  rcases exists_isLast key mem with ⟨last, isLast, same⟩
  rw [alone last isLast.mem same] at isLast
  exact mem_merge.mpr (.inl isLast)

theorem exists_mem_merge (channel : Channel key order) (new : List α)
    (mem : item ∈ new ∨ item ∈ channel.members) :
    ∃ other ∈ (channel.merge new).members, key other = key item ∧
      (other ∈ new ∨ other = item) := by
  by_cases replaced : ∃ other ∈ new, key other = key item
  · rcases replaced with ⟨other, isNew, same⟩
    rcases exists_isLast key isNew with ⟨last, isLast, lastKey⟩
    exact ⟨last, mem_merge.mpr (.inl isLast), lastKey.trans same, .inl isLast.mem⟩
  · have kept : ∀ other ∈ new, key other ≠ key item :=
      fun other isNew same => replaced ⟨other, isNew, same⟩
    rcases mem with isNew | stored
    · exact absurd rfl (kept item isNew)
    · exact ⟨item, mem_merge.mpr (.inr ⟨stored, kept⟩), rfl, .inr rfl⟩

theorem merge_of_subset (known : ∀ item ∈ new, item ∈ channel.members) :
    channel.merge new = channel := by
  apply Channel.ext
  change stableMerge key order channel.members new = channel.members
  unfold stableMerge
  rw [channel.unique.foldl_put_nil, channel.unique.foldl_put_of_subset known]
  exact List.Pairwise.insertionSort_eq channel.ascending

theorem merge_members : channel.merge channel.members = channel :=
  merge_of_subset fun _ mem => mem

/-! ### Merging one by one -/

/-- The channel after items written one after the other. -/
def mergeEach (channel : Channel key order) (written : List α) : Channel key order :=
  written.foldl (fun merged item => merged.merge [item]) channel

@[simp]
theorem mergeEach_nil : channel.mergeEach [] = channel :=
  rfl

theorem mergeEach_concat {written : List α} :
    channel.mergeEach (written ++ [item]) = (channel.mergeEach written).merge [item] := by
  simp [mergeEach]

theorem mem_mergeEach {written : List α} :
    item ∈ (channel.mergeEach written).members ↔
      IsLast key written item ∨
        (item ∈ channel.members ∧ ∀ other ∈ written, key other ≠ key item) := by
  induction written using List.reverseRecOn with
  | nil => simp [not_isLast_nil]
  | append_singleton init last ih =>
    rw [mergeEach_concat, mem_merge_singleton, ih, isLast_concat]
    simp only [mem_append, mem_singleton]
    constructor
    · rintro (rfl | ⟨isLast | ⟨stored, kept⟩, different⟩)
      · exact .inl (.inl rfl)
      · exact .inl (.inr ⟨isLast, different.symm⟩)
      · right
        refine ⟨stored, ?_⟩
        rintro other (mem | rfl)
        · exact kept other mem
        · exact different
    · rintro ((rfl | ⟨isLast, different⟩) | ⟨stored, kept⟩)
      · exact .inl rfl
      · exact .inr ⟨.inl isLast, different.symm⟩
      · exact .inr ⟨.inr ⟨stored, fun other mem => kept other (.inl mem)⟩,
          kept last (.inr rfl)⟩

theorem mem_mergeEach_of_unique {written : List α} (unique : Unique key written)
    (mem : item ∈ written) : item ∈ (channel.mergeEach written).members := by
  rcases exists_isLast key mem with ⟨last, isLast, same⟩
  rw [unique.eq_of_key isLast.mem mem same] at isLast
  exact mem_mergeEach.mpr (.inl isLast)

omit [DecidableEq κ] in
theorem le_of_reverse_find? {property : α → Bool} {last : α}
    (found : channel.members.reverse.find? property = some last) :
    last ∈ channel.members ∧ property last = true ∧
      ∀ other ∈ channel.members, property other = true → order other ≤ order last := by
  rcases List.find?_eq_some_iff_append.mp found with ⟨holds, after, before, split, none⟩
  have members : channel.members = before.reverse ++ last :: after.reverse := by
    have reversed := congrArg List.reverse split
    simpa using reversed
  have ascending := channel.ascending
  rw [members, pairwise_append] at ascending
  rw [members]
  refine ⟨mem_append_right _ mem_cons_self, holds, fun other mem isSuch => ?_⟩
  rcases mem_append.mp mem with earlier | lastOrLater
  · exact ascending.2.2 other earlier last mem_cons_self
  · rcases mem_cons.mp lastOrLater with rfl | later
    · exact le_rfl
    · have isNot := none other (mem_reverse.mp later)
      simp [isSuch] at isNot

omit [DecidableEq κ] in
/-- Where equal places mean equal keys, the last member with a property is the
one that no other exceeds. -/
theorem reverse_find?_eq_some_iff {property : α → Bool} {last : α}
    (placed : ∀ first second, order first = order second → key first = key second) :
    channel.members.reverse.find? property = some last ↔
      last ∈ channel.members ∧ property last = true ∧
        ∀ other ∈ channel.members, property other = true → order other ≤ order last := by
  refine ⟨channel.le_of_reverse_find?, fun ⟨stored, holds, greatest⟩ => ?_⟩
  cases found : channel.members.reverse.find? property with
  | none =>
    have missing := List.find?_eq_none.mp found last (mem_reverse.mpr stored)
    exact absurd holds missing
  | some other =>
    rcases channel.le_of_reverse_find? found with ⟨otherStored, otherHolds, otherGreatest⟩
    have samePlace : order other = order last :=
      le_antisymm (greatest other otherStored otherHolds) (otherGreatest last stored holds)
    rw [channel.unique.eq_of_key otherStored stored (placed _ _ samePlace)]

end Channel

end OhMyClass.Keyed
