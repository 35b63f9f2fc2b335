import OhMyClass.Keyed.Core

/-!
# Writes merged in any order

Writes to a merged list may be joined, and writes that share no key exchanged.
So it does not matter how branches are put in sequence and in batches.
-/

namespace OhMyClass.Keyed

open List OhMyClass.Sorting

universe u v w

variable {α : Type u} {κ : Type v} {ο : Type w}

/-- Two writes without a common key. -/
def Apart (key : α → κ) (first second : List α) : Prop :=
  ∀ item ∈ first, ∀ other ∈ second, key item ≠ key other

theorem Apart.symm {key : α → κ} {first second : List α} (apart : Apart key first second) :
    Apart key second first :=
  fun item mem other otherMem same => apart other otherMem item mem same.symm

/-- What a merge makes of any writes after a given start: branches without a
common key may come in any order and in any batches, a write that no later one
touches may come again, the last item of a key stays, no key is lost, none
occurs twice, and the items are in order. -/
structure Accumulates [LE ο] (key : α → κ) (order : α → ο) (merge : List α → List α → List α)
    (start : List α) : Prop where
  anyOrder : ∀ (writes : List (List α)) (batches : List (List (List α))),
    writes.Pairwise (Apart key) → batches.flatten.Perm writes → (∀ batch ∈ batches, batch ≠ []) →
      (batches.map List.flatten).foldl merge start = writes.foldl merge start
  again : ∀ earlier write later, (∀ other ∈ later, Apart key write other) →
    merge ((earlier ++ write :: later).foldl merge start) write =
      (earlier ++ write :: later).foldl merge start
  last : ∀ (writes : List (List α)) (item : α), IsLast key writes.flatten item → item ∈ writes.foldl merge start
  kept : ∀ writes : List (List α), ∀ item ∈ start ++ writes.flatten,
    ∃ stored ∈ writes.foldl merge start, key stored = key item
  once : ∀ writes : List (List α), writes ≠ [] → Unique key (writes.foldl merge start)
  ascending : ∀ writes : List (List α), writes ≠ [] →
    (writes.foldl merge start).Pairwise fun first second => order first ≤ order second

/-- One write after another is the write of both. -/
def Joins (merge : List α → List α → List α) : Prop :=
  ∀ start first second, merge (merge start first) second = merge start (first ++ second)

/-- Writes without a common key may change places. -/
def Exchanges (key : α → κ) (merge : List α → List α → List α) : Prop :=
  ∀ start first second, Apart key first second →
    merge start (first ++ second) = merge start (second ++ first)

section Laws

variable {key : α → κ} {merge : List α → List α → List α}

theorem Joins.foldl_cons (joins : Joins merge) (start write : List α) (writes : List (List α)) :
    (write :: writes).foldl merge start = merge start (write :: writes).flatten := by
  induction writes generalizing write with
  | nil => simp
  | cons next rest ih =>
    have joined := ih (write ++ next)
    rw [List.foldl_cons, ← joins start write next] at joined
    rw [List.foldl_cons, List.foldl_cons, joined]
    simp

theorem Joins.foldl (joins : Joins merge) (start : List α) {writes : List (List α)}
    (written : writes ≠ []) : writes.foldl merge start = merge start writes.flatten := by
  cases writes with
  | nil => exact absurd rfl written
  | cons write rest => exact joins.foldl_cons start write rest

theorem Joins.foldl_batches (joins : Joins merge) (start : List α)
    {batches : List (List (List α))} (full : ∀ batch ∈ batches, batch ≠ []) :
    (batches.map List.flatten).foldl merge start = batches.flatten.foldl merge start := by
  induction batches generalizing start with
  | nil => rfl
  | cons batch rest ih =>
    rcases forall_mem_cons.mp full with ⟨first, others⟩
    rw [flatten_cons, foldl_append, joins.foldl start first]
    exact ih _ others

theorem foldl_perm (joins : Joins merge) (exchanges : Exchanges key merge) (start : List α)
    {writes others : List (List α)} (apart : writes.Pairwise (Apart key))
    (permutation : others.Perm writes) :
    others.foldl merge start = writes.foldl merge start := by
  symm
  apply permutation.symm.foldl_eq'
  intro first firstMem second secondMem merged
  by_cases same : first = second
  · rw [same]
  · have apartSymm : Std.Symm (Apart key) := ⟨fun _ _ => Apart.symm⟩
    rw [joins, joins, exchanges _ _ _ (apart.forall secondMem firstMem (Ne.symm same))]

end Laws

/-! ## Merging by key -/

section Lists

variable {key : α → κ} {items : List α} {item : α}

theorem isLast_append {rest : List α} :
    IsLast key (items ++ rest) item ↔
      IsLast key rest item ∨ (IsLast key items item ∧ ∀ other ∈ rest, key other ≠ key item) := by
  induction rest using List.reverseRecOn with
  | nil => simp [not_isLast_nil]
  | append_singleton init last ih =>
    rw [← append_assoc, isLast_concat, isLast_concat, ih]
    simp only [mem_append, mem_singleton, or_imp, forall_and, forall_eq]
    constructor
    · rintro (same | ⟨isLast | ⟨isLast, free⟩, different⟩)
      · exact .inl (.inl same)
      · exact .inl (.inr ⟨isLast, different⟩)
      · exact .inr ⟨isLast, free, different.symm⟩
    · rintro ((same | ⟨isLast, different⟩) | ⟨isLast, free, different⟩)
      · exact .inl same
      · exact .inr ⟨.inl isLast, different⟩
      · exact .inr ⟨.inr ⟨isLast, free⟩, different.symm⟩

theorem isLast_again {write later : List α} (apart : Apart key write later) :
    IsLast key (items ++ write ++ later ++ write) item ↔ IsLast key (items ++ write ++ later) item := by
  rw [isLast_append]
  constructor
  · rintro (isLast | ⟨isLast, _⟩)
    · refine isLast_append.mpr (.inr ⟨isLast_append.mpr (.inl isLast), ?_⟩)
      exact fun other mem => (apart item isLast.mem other mem).symm
    · exact isLast
  · intro isLast
    by_cases free : ∀ other ∈ write, key other ≠ key item
    · exact .inr ⟨isLast, free⟩
    · left
      push Not at free
      rcases free with ⟨other, mem, same⟩
      rcases isLast_append.mp isLast with inLater | ⟨before, _⟩
      · exact absurd same (apart other mem item inLater.mem)
      · rcases isLast_append.mp before with inWrite | ⟨_, absent⟩
        · exact inWrite
        · exact absurd same (absent other mem)

theorem Unique.isLast_iff (unique : Unique key items) : IsLast key items item ↔ item ∈ items := by
  refine ⟨IsLast.mem, fun mem => ?_⟩
  rcases exists_isLast key mem with ⟨last, isLast, same⟩
  rwa [unique.eq_of_key isLast.mem mem same] at isLast

theorem Unique.nodup (unique : Unique key items) : items.Nodup :=
  unique.imp fun different same => different (congrArg key same)

end Lists

variable [DecidableEq κ] [LinearOrder ο] {key : α → κ} {order : α → ο}
  {prev new first second : List α} {item : α}

theorem mem_stableMerge : item ∈ stableMerge key order prev new ↔ IsLast key (prev ++ new) item := by
  rw [stableMerge, mem_sortBy, ← foldl_append, mem_foldl_put]
  simp

theorem unique_stableMerge : Unique key (stableMerge key order prev new) := by
  have unique : Unique key (new.foldl (put key) (prev.foldl (put key) [])) :=
    (Unique.foldl_put List.Pairwise.nil).foldl_put
  exact (sortBy_perm order _).symm.pairwise unique fun unequal back => unequal back.symm

theorem isLast_stableMerge :
    IsLast key (stableMerge key order prev new) item ↔ IsLast key (prev ++ new) item :=
  unique_stableMerge.isLast_iff.trans mem_stableMerge

theorem stableMerge_congr
    (placed : ∀ first second, order first = order second → key first = key second)
    {otherPrev otherNew : List α}
    (same : ∀ item, IsLast key (prev ++ new) item ↔ IsLast key (otherPrev ++ otherNew) item) :
    stableMerge key order prev new = stableMerge key order otherPrev otherNew := by
  have permutation : (stableMerge key order prev new).Perm
      (stableMerge key order otherPrev otherNew) := by
    refine (perm_ext_iff_of_nodup unique_stableMerge.nodup unique_stableMerge.nodup).mpr ?_
    intro item
    rw [mem_stableMerge, mem_stableMerge, same]
  refine permutation.eq_of_pairwise ?_ (pairwise_sortBy order _) (pairwise_sortBy order _)
  intro first second firstMem secondMem below above
  exact unique_stableMerge.eq_of_key firstMem (permutation.mem_iff.mpr secondMem)
    (placed first second (le_antisymm below above))

section Placed

variable (placed : ∀ first second, order first = order second → key first = key second)

include placed

theorem joins_stableMerge : Joins (stableMerge key order) := by
  intro start first second
  apply stableMerge_congr placed
  intro item
  rw [isLast_append, isLast_stableMerge, ← isLast_append, append_assoc]

theorem exchanges_stableMerge : Exchanges key (stableMerge key order) := by
  intro start first second apart
  apply stableMerge_congr placed
  intro item
  simp only [isLast_append]
  constructor
  · rintro ((isLast | ⟨isLast, free⟩) | ⟨isLast, free⟩)
    · exact .inl (.inr ⟨isLast, fun other mem => apart other mem item isLast.mem⟩)
    · exact .inl (.inl isLast)
    · refine .inr ⟨isLast, fun other mem => free other ?_⟩
      exact mem_append.mpr (mem_append.mp mem).symm
  · rintro ((isLast | ⟨isLast, free⟩) | ⟨isLast, free⟩)
    · exact .inl (.inr ⟨isLast, fun other mem => (apart item isLast.mem other mem).symm⟩)
    · exact .inl (.inl isLast)
    · refine .inr ⟨isLast, fun other mem => free other ?_⟩
      exact mem_append.mpr (mem_append.mp mem).symm

theorem mem_foldl_stableMerge {writes : List (List α)} (written : writes ≠ []) (start : List α) :
    item ∈ writes.foldl (stableMerge key order) start ↔
      IsLast key (start ++ writes.flatten) item := by
  rw [(joins_stableMerge placed).foldl start written, mem_stableMerge]

theorem stableMerge_again (start write : List α) (earlier later : List (List α))
    (apart : ∀ other ∈ later, Apart key write other) :
    stableMerge key order ((earlier ++ write :: later).foldl (stableMerge key order) start) write =
      (earlier ++ write :: later).foldl (stableMerge key order) start := by
  have joins : Joins (stableMerge key order) := joins_stableMerge placed
  have free : Apart key write later.flatten := by
    intro item mem other isLater
    rcases mem_flatten.mp isLater with ⟨otherWrite, isWrite, otherMem⟩
    exact apart otherWrite isWrite item mem other otherMem
  rw [joins.foldl start (by simp), joins]
  apply stableMerge_congr placed
  intro item
  simp only [flatten_append, flatten_cons, ← append_assoc]
  exact isLast_again free

theorem accumulates_stableMerge (start : List α) :
    Accumulates key order (stableMerge key order) start where
  anyOrder writes batches apart permutation full := by
    have joins : Joins (stableMerge key order) := joins_stableMerge placed
    rw [joins.foldl_batches start full]
    exact foldl_perm joins (exchanges_stableMerge placed) start apart permutation
  again earlier write later apart := stableMerge_again placed start write earlier later apart
  last writes item isLast := by
    have written : writes ≠ [] := by
      rintro rfl
      exact not_isLast_nil isLast
    exact (mem_foldl_stableMerge placed written start).mpr (isLast_append.mpr (.inl isLast))
  kept writes item member := by
    by_cases nothing : writes = []
    · subst nothing
      rw [flatten_nil, append_nil] at member
      exact ⟨item, member, rfl⟩
    · rcases exists_isLast key member with ⟨last, isLast, same⟩
      exact ⟨last, (mem_foldl_stableMerge placed nothing start).mpr isLast, same⟩
  once writes written := by
    rw [(joins_stableMerge placed).foldl start written]
    exact unique_stableMerge
  ascending writes written := by
    rw [(joins_stableMerge placed).foldl start written]
    exact pairwise_sortBy order _

end Placed

end OhMyClass.Keyed
