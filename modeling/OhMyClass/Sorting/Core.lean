import Mathlib.Data.List.Chain
import Mathlib.Data.List.Sort
import Mathlib.Data.List.MinMax

/-!
# Rows in the order of a key

`ORDER BY key` as a list function.  Where the key identifies the rows the
order is unique, so that the ascending and the descending order mirror each
other and a row with a new largest key comes last.
-/

namespace OhMyClass.Sorting

open List

universe u v

variable {α : Type u} {κ : Type v} [LinearOrder κ]

def sortBy (key : α → κ) (rows : List α) : List α :=
  rows.insertionSort fun first second => key first ≤ key second

def sortByDesc (key : α → κ) (rows : List α) : List α :=
  rows.insertionSort fun first second => key second ≤ key first

variable {key : α → κ} {rows : List α}

theorem sortBy_perm (key : α → κ) (rows : List α) : (sortBy key rows).Perm rows :=
  perm_insertionSort _ rows

theorem sortByDesc_perm (key : α → κ) (rows : List α) : (sortByDesc key rows).Perm rows :=
  perm_insertionSort _ rows

@[simp]
theorem mem_sortBy {row : α} : row ∈ sortBy key rows ↔ row ∈ rows :=
  (sortBy_perm key rows).mem_iff

theorem pairwise_sortBy (key : α → κ) (rows : List α) :
    (sortBy key rows).Pairwise fun first second => key first ≤ key second := by
  exact pairwise_insertionSort _ rows

theorem pairwise_sortByDesc (key : α → κ) (rows : List α) :
    (sortByDesc key rows).Pairwise fun first second => key second ≤ key first :=
  @pairwise_sortBy α κᵒᵈ _ (fun row => OrderDual.toDual (key row)) rows

theorem sublist_sortBy {first second : α} (ordered : key first ≤ key second)
    (before : List.Sublist [first, second] rows) :
    List.Sublist [first, second] (sortBy key rows) := by
  exact pair_sublist_insertionSort ordered before

/-- The key identifies the rows. -/
def Identifies (key : α → κ) (rows : List α) : Prop :=
  ∀ first ∈ rows, ∀ second ∈ rows, key first = key second → first = second

theorem eq_sortBy (identifies : Identifies key rows) {sorted : List α}
    (ascending : sorted.Pairwise fun first second => key first ≤ key second)
    (permutation : sorted.Perm rows) : sorted = sortBy key rows := by
  apply (permutation.trans (sortBy_perm key rows).symm).eq_of_pairwise _ ascending
    (pairwise_sortBy key rows)
  intro first second firstMem secondMem below above
  exact identifies first (permutation.mem_iff.mp firstMem) second (mem_sortBy.mp secondMem)
    (le_antisymm below above)

theorem reverse_sortByDesc (identifies : Identifies key rows) :
    (sortByDesc key rows).reverse = sortBy key rows := by
  apply eq_sortBy identifies
  · rw [pairwise_reverse]
    exact pairwise_sortByDesc key rows
  · exact (reverse_perm _).trans (sortByDesc_perm key rows)

theorem Identifies.concat (identifies : Identifies key rows) {row : α}
    (above : ∀ stored ∈ rows, key stored < key row) : Identifies key (rows ++ [row]) := by
  intro first firstMem second secondMem same
  simp only [mem_append, mem_singleton] at firstMem secondMem
  rcases firstMem with firstMem | rfl
  · rcases secondMem with secondMem | rfl
    · exact identifies first firstMem second secondMem same
    · exact absurd same (above first firstMem).ne
  · rcases secondMem with secondMem | rfl
    · exact absurd same.symm (above second secondMem).ne
    · rfl

theorem sortBy_concat (identifies : Identifies key rows) {row : α}
    (above : ∀ stored ∈ rows, key stored < key row) :
    sortBy key (rows ++ [row]) = sortBy key rows ++ [row] := by
  symm
  apply eq_sortBy (identifies.concat above)
  · rw [pairwise_append]
    refine ⟨pairwise_sortBy key rows, pairwise_singleton _ _, ?_⟩
    intro stored mem last isRow
    rw [mem_singleton.mp isRow]
    exact (above stored (mem_sortBy.mp mem)).le
  · exact (sortBy_perm key rows).append_right [row]

theorem sortByDesc_concat (identifies : Identifies key rows) {row : α}
    (above : ∀ stored ∈ rows, key stored < key row) :
    sortByDesc key (rows ++ [row]) = row :: sortByDesc key rows := by
  apply reverse_injective
  rw [reverse_sortByDesc (identifies.concat above), sortBy_concat identifies above,
    reverse_cons, reverse_sortByDesc identifies]

theorem filter_sortBy (identifies : Identifies key rows) (selected : α → Bool) :
    (sortBy key rows).filter selected = sortBy key (rows.filter selected) := by
  apply eq_sortBy
  · intro first firstMem second secondMem same
    exact identifies first (mem_of_mem_filter firstMem) second
      (mem_of_mem_filter secondMem) same
  · exact (pairwise_sortBy key rows).filter selected
  · exact (sortBy_perm key rows).filter selected

theorem sortBy_of_pairwise
    (ascending : rows.Pairwise fun first second => key first ≤ key second) :
    sortBy key rows = rows :=
  List.Pairwise.insertionSort_eq ascending

/-- Where rows with one key have one value, the values in the order of the key
do not depend on the order of the rows. -/
theorem map_sortBy_perm {β : Type*} {value : α → β}
    (agree : ∀ first ∈ rows, ∀ second ∈ rows, key first = key second → value first = value second)
    {others : List α} (permutation : others.Perm rows) :
    (sortBy key others).map value = (sortBy key rows).map value := by
  -- With their keys beside them, equal places have equal values.
  let withKey := fun row => (key row, value row)
  have ascending (list : List α) : ((sortBy key list).map withKey).Pairwise
      fun first second => first.1 ≤ second.1 :=
    pairwise_map.mpr (pairwise_sortBy key list)
  have reordered : (sortBy key others).Perm (sortBy key rows) :=
    (sortBy_perm key others).trans (permutation.trans (sortBy_perm key rows).symm)
  have pairs : (sortBy key others).map withKey = (sortBy key rows).map withKey := by
    refine (reordered.map withKey).eq_of_pairwise ?_ (ascending others) (ascending rows)
    intro first second firstMem secondMem below above
    obtain ⟨firstRow, firstIn, rfl⟩ := mem_map.mp firstMem
    obtain ⟨secondRow, secondIn, rfl⟩ := mem_map.mp secondMem
    have sameKey : key firstRow = key secondRow := le_antisymm below above
    have firstRowMem := permutation.mem_iff.mp (mem_sortBy.mp firstIn)
    have sameValue := agree firstRow firstRowMem secondRow (mem_sortBy.mp secondIn) sameKey
    simp only [withKey, sameKey, sameValue]
  simpa only [map_map, Function.comp_def] using congrArg (List.map Prod.snd) pairs

/-- In sorted rows two rows of one key but of different values have such
neighbours between them. -/
theorem exists_neighbours (key : α → κ) {β : Type*} {value : α → β}
    (ascending : rows.Pairwise fun first second => key first ≤ key second) {first second : α}
    (firstMem : first ∈ rows) (secondMem : second ∈ rows) (sameKey : key first = key second)
    (different : value first ≠ value second) :
    ∃ before left right after, rows = before ++ left :: right :: after ∧ key left = key right ∧
      value left ≠ value right := by
  by_contra noNeighbours
  push Not at noNeighbours
  let agrees := fun left right : α =>
    key left ≤ key right ∧ (key left = key right → value left = value right)
  have transitive : IsTrans α agrees := by
    refine ⟨fun left middle right lower upper => ⟨lower.1.trans upper.1, fun same => ?_⟩⟩
    have leftMiddle : key left = key middle := le_antisymm lower.1 (upper.1.trans same.ge)
    exact (lower.2 leftMiddle).trans (upper.2 (leftMiddle.symm.trans same))
  have neighbours : rows.IsChain agrees := by
    rw [isChain_iff_forall_rel_of_append_cons_cons]
    rintro left right before after rfl
    have ordered := (pairwise_append.mp ascending).2.1
    exact ⟨(pairwise_cons.mp ordered).1 right mem_cons_self,
      noNeighbours before left right after rfl⟩
  have pairs : rows.Pairwise fun left right => key left = key right → value left = value right :=
    (isChain_iff_pairwise.mp neighbours).imp fun both => both.2
  have symmetric : Std.Symm fun left right : α => key left = key right → value left = value right :=
    ⟨fun _ _ agree same => (agree same.symm).symm⟩
  exact different (pairs.forall_of_forall (fun _ _ _ => rfl) firstMem secondMem sameKey)

theorem pairwise_swap (key : α → κ) {before after : List α} {left right : α}
    (sameKey : key left = key right)
    (ascending : (before ++ left :: right :: after).Pairwise
      fun first second => key first ≤ key second) :
    (before ++ right :: left :: after).Pairwise fun first second => key first ≤ key second := by
  have keys : (before ++ left :: right :: after).map key =
      (before ++ right :: left :: after).map key := by
    simp only [map_append, map_cons, sameKey]
  have moved : ((before ++ left :: right :: after).map key).Pairwise (· ≤ ·) :=
    pairwise_map.mpr ascending
  rw [keys] at moved
  exact pairwise_map.mp moved

/-! ## Improvements -/

/-- The second rows are the first ones, each at its key and no worse, with some
more rows among them that are a gain. -/
inductive Improves (key : α → κ) (noWorse : α → α → Prop) (gain : α → Prop) :
    List α → List α → Prop
  | nil : Improves key noWorse gain [] []
  | cons {first second : α} {rows others : List α} (sameKey : key first = key second)
      (better : noWorse first second) (rest : Improves key noWorse gain rows others) :
      Improves key noWorse gain (first :: rows) (second :: others)
  | extra {second : α} {rows others : List α} (isGain : gain second)
      (rest : Improves key noWorse gain rows others) :
      Improves key noWorse gain rows (second :: others)

namespace Improves

variable {noWorse : α → α → Prop} {gain : α → Prop} {others : List α}

omit [LinearOrder κ] in
theorem refl (reflexive : ∀ row, noWorse row row) (rows : List α) :
    Improves key noWorse gain rows rows := by
  induction rows with
  | nil => exact .nil
  | cons row rest ih => exact .cons rfl (reflexive row) ih

omit [LinearOrder κ] in
theorem append {moreRows moreOthers : List α} (improves : Improves key noWorse gain rows others)
    (more : Improves key noWorse gain moreRows moreOthers) :
    Improves key noWorse gain (rows ++ moreRows) (others ++ moreOthers) := by
  induction improves with
  | nil => exact more
  | cons sameKey better _ ih => exact .cons sameKey better ih
  | extra isGain _ ih => exact .extra isGain ih

omit [LinearOrder κ] in
theorem of_gains (gains : ∀ row ∈ others, gain row) : Improves key noWorse gain [] others := by
  induction others with
  | nil => exact .nil
  | cons row rest ih =>
    rw [forall_mem_cons] at gains
    exact .extra gains.1 (ih gains.2)

omit [LinearOrder κ] in
theorem exists_key (improves : Improves key noWorse gain rows others) {row : α}
    (mem : row ∈ rows) : ∃ other ∈ others, key other = key row := by
  induction improves with
  | nil => exact absurd mem not_mem_nil
  | @cons first second _ _ sameKey better rest ih =>
    rcases mem_cons.mp mem with rfl | later
    · exact ⟨second, mem_cons_self, sameKey.symm⟩
    · obtain ⟨other, otherMem, same⟩ := ih later
      exact ⟨other, mem_cons_of_mem _ otherMem, same⟩
  | extra isGain rest ih =>
    obtain ⟨other, otherMem, same⟩ := ih mem
    exact ⟨other, mem_cons_of_mem _ otherMem, same⟩

theorem orderedInsert_gain (improves : Improves key noWorse gain rows others) {row : α}
    (isGain : gain row) :
    Improves key noWorse gain rows
      (others.orderedInsert (fun first second => key first ≤ key second) row) := by
  induction improves with
  | nil => exact .extra isGain .nil
  | cons sameKey better rest ih =>
    rw [orderedInsert_cons]
    split
    · exact .extra isGain (.cons sameKey better rest)
    · exact .cons sameKey better ih
  | extra otherGain rest ih =>
    rw [orderedInsert_cons]
    split
    · exact .extra isGain (.extra otherGain rest)
    · exact .extra otherGain ih

theorem orderedInsert (improves : Improves key noWorse gain rows others)
    (ascending : others.Pairwise fun first second => key first ≤ key second) {first second : α}
    (sameKey : key first = key second) (better : noWorse first second) :
    Improves key noWorse gain
      (rows.orderedInsert (fun first second => key first ≤ key second) first)
      (others.orderedInsert (fun first second => key first ≤ key second) second) := by
  induction improves with
  | nil => exact .cons sameKey better .nil
  | cons same noWorse rest ih =>
    rw [orderedInsert_cons, orderedInsert_cons, sameKey, same]
    split
    · exact .cons sameKey better (.cons same noWorse rest)
    · exact .cons same noWorse (ih (pairwise_cons.mp ascending).2)
  | @extra other rows others isGain rest ih =>
    rw [pairwise_cons] at ascending
    rw [orderedInsert_cons _ second other others]
    split
    · next below =>
      -- Every row that was there comes after the new one.
      have isFirst : rows.orderedInsert (fun first second => key first ≤ key second) first =
          first :: rows := by
        cases rows with
        | nil => rfl
        | cons row rows =>
          obtain ⟨later, laterMem, sameLater⟩ := rest.exists_key mem_cons_self
          apply orderedInsert_cons_of_le
          rw [sameKey, ← sameLater]
          exact below.trans (ascending.1 later laterMem)
      rw [isFirst]
      exact .cons sameKey better (.extra isGain rest)
    · exact .extra isGain (ih ascending.2)

theorem sortBy (improves : Improves key noWorse gain rows others) :
    Improves key noWorse gain (sortBy key rows) (Sorting.sortBy key others) := by
  induction improves with
  | nil => exact .nil
  | cons sameKey better _ ih => exact ih.orderedInsert (pairwise_sortBy _ _) sameKey better
  | extra isGain _ ih => exact ih.orderedInsert_gain isGain

end Improves

end OhMyClass.Sorting
