import OhMyClass.Graph.Kahn

/-!
# Walks of a given length

A walk takes one edge after another.  A walk longer than the list of edges goes
through some node twice, so the shortest walk between two nodes is found among
the lengths up to the number of edges.
-/

namespace OhMyClass.Graph

open Relation

universe u

variable {α : Type u}

/-- `target` is reached from `source` along `length` edges. -/
def Walk (edges : List (α × α)) : Nat → α → α → Prop
  | 0, source, target => source = target
  | length + 1, source, target =>
    ∃ edge ∈ edges, edge.1 = source ∧ Walk edges length edge.2 target

instance Walk.decidable [DecidableEq α] (edges : List (α × α)) :
    ∀ length source target, Decidable (Walk edges length source target)
  | 0, source, target => inferInstanceAs (Decidable (source = target))
  | length + 1, source, target =>
    have := Walk.decidable edges length
    inferInstanceAs (Decidable (∃ edge ∈ edges, edge.1 = source ∧ Walk edges length edge.2 target))

/-- The lengths of the walks that end in `target`. -/
def walkLengths (edges : List (α × α)) (target : α) : Set Nat :=
  {length | ∃ source, Walk edges length source target}

variable {edges : List (α × α)} {source middle target : α}

@[simp]
theorem walk_zero : Walk edges 0 source target ↔ source = target :=
  Iff.rfl

variable {length : Nat}

theorem walk_succ :
    Walk edges (length + 1) source target ↔
      ∃ next, Edge edges source next ∧ Walk edges length next target := by
  constructor
  · rintro ⟨edge, mem, rfl, rest⟩
    exact ⟨edge.2, mem, rest⟩
  · rintro ⟨next, mem, rest⟩
    exact ⟨(source, next), mem, rfl, rest⟩

theorem Walk.trans {first second : Nat} (before : Walk edges first source middle)
    (after : Walk edges second middle target) : Walk edges (first + second) source target := by
  induction first generalizing source with
  | zero =>
    rw [before, Nat.zero_add]
    exact after
  | succ first ih =>
    rcases walk_succ.mp before with ⟨next, taken, rest⟩
    rw [Nat.succ_add]
    exact walk_succ.mpr ⟨next, taken, ih rest⟩

theorem Walk.reflTransGen (walk : Walk edges length source target) :
    ReflTransGen (Edge edges) source target := by
  induction length generalizing source with
  | zero =>
    rw [walk]
  | succ length ih =>
    rcases walk_succ.mp walk with ⟨next, taken, rest⟩
    exact ReflTransGen.head taken (ih rest)

theorem reflTransGen_iff_walk :
    ReflTransGen (Edge edges) source target ↔ ∃ length, Walk edges length source target := by
  constructor
  · intro reached
    induction reached using ReflTransGen.head_induction_on with
    | refl => exact ⟨0, rfl⟩
    | head taken _ ih =>
      rcases ih with ⟨length, rest⟩
      exact ⟨length + 1, walk_succ.mpr ⟨_, taken, rest⟩⟩
  · rintro ⟨length, walk⟩
    exact walk.reflTransGen

/-- A walk stays in any set of edges that holds all edges among the nodes from
which its end is reached. -/
theorem Walk.mono {kept : List (α × α)} (walk : Walk edges length source target)
    (keeps : ∀ first second, Edge edges first second →
      ReflTransGen (Edge edges) second target → Edge kept first second) :
    Walk kept length source target := by
  induction length generalizing source with
  | zero => exact walk
  | succ length ih =>
    rcases walk_succ.mp walk with ⟨next, taken, rest⟩
    exact walk_succ.mpr ⟨next, keeps source next taken rest.reflTransGen, ih rest⟩

/-! ## Long walks go round -/

theorem Walk.nodes (walk : Walk edges length source target) :
    ∃ node : Nat → α, node 0 = source ∧ node length = target ∧
      ∀ index < length, Edge edges (node index) (node (index + 1)) := by
  induction length generalizing source with
  | zero => exact ⟨fun _ => source, rfl, walk, fun index early => absurd early (by omega)⟩
  | succ length ih =>
    rcases walk_succ.mp walk with ⟨next, taken, rest⟩
    rcases ih rest with ⟨node, starts, ends, steps⟩
    refine ⟨fun index => index.casesOn source node, rfl, ends, ?_⟩
    intro index early
    cases index with
    | zero =>
      rw [← starts] at taken
      exact taken
    | succ index => exact steps index (by omega)

theorem walk_between {node : Nat → α} (start : Nat)
    (steps : ∀ index < length, Edge edges (node (start + index)) (node (start + index + 1))) :
    Walk edges length (node start) (node (start + length)) := by
  induction length generalizing start with
  | zero => rfl
  | succ length ih =>
    have rest := ih (start + 1) fun index early => by
      have step := steps (index + 1) (by omega)
      rw [← Nat.add_assoc, Nat.add_right_comm] at step
      exact step
    rw [Nat.add_right_comm] at rest
    exact walk_succ.mpr ⟨node (start + 1), steps 0 (by omega), rest⟩

theorem Walk.goes_round [DecidableEq α] (walk : Walk edges length source target)
    (long : edges.length < length) :
    ∃ before round after node, before + round + after = length ∧ 0 < round ∧
      Walk edges before source node ∧ Walk edges round node node ∧
        Walk edges after node target := by
  rcases walk.nodes with ⟨node, starts, ends, steps⟩
  have more : edges.toFinset.card < (Finset.range length).card := by
    rw [Finset.card_range]
    exact Nat.lt_of_le_of_lt edges.toFinset_card_le long
  obtain ⟨first, firstMem, second, secondMem, different, same⟩ :=
    Finset.exists_ne_map_eq_of_card_lt_of_maps_to more
      (f := fun index => (node index, node (index + 1)))
      fun index mem => List.mem_toFinset.mpr (steps index (by simpa using mem))
  simp only [Finset.mem_range] at firstMem secondMem
  have sameNode : node first = node second := congrArg Prod.fst same
  clear same
  wlog earlier : first < second generalizing first second
  · exact this second first different.symm secondMem firstMem sameNode.symm (by omega)
  have piece (start count : Nat) (within : start + count ≤ length) :
      Walk edges count (node start) (node (start + count)) :=
    walk_between start fun index early => steps (start + index) (by omega)
  refine ⟨first, second - first, length - second, node first, by omega, by omega, ?_, ?_, ?_⟩
  · have initial := piece 0 first (by omega)
    rwa [Nat.zero_add, starts] at initial
  · have around := piece first (second - first) (by omega)
    rwa [Nat.add_sub_cancel' earlier.le, ← sameNode] at around
  · have final := piece second (length - second) (by omega)
    rwa [Nat.add_sub_cancel' secondMem.le, ends, ← sameNode] at final

variable [DecidableEq α]

/-- The length of the shortest walk; `none` where there is none. -/
def shortestWalk (edges : List (α × α)) (source target : α) : Option Nat :=
  (List.range (edges.length + 1)).find? fun length => decide (Walk edges length source target)

theorem shortestWalk_eq_some_iff :
    shortestWalk edges source target = some length ↔
      IsLeast {length | Walk edges length source target} length := by
  rw [shortestWalk, List.find?_range_eq_some]
  simp only [decide_eq_true_eq, List.mem_range, Bool.not_eq_true', decide_eq_false_iff_not]
  constructor
  · rintro ⟨walk, _, noShorter⟩
    exact ⟨walk, fun other isWalk => by_contra fun shorter => noShorter other (by omega) isWalk⟩
  · rintro ⟨walk, least⟩
    refine ⟨walk, ?_, fun other shorter isWalk => absurd (least isWalk) (by omega)⟩
    by_contra long
    rcases walk.goes_round (by omega) with
      ⟨before, round, after, _, total, positive, begins, _, ends⟩
    have shortcut := least (begins.trans ends)
    omega

theorem shortestWalk_isSome_iff :
    (shortestWalk edges source target).isSome = true ↔ ReflTransGen (Edge edges) source target := by
  rw [Option.isSome_iff_exists, reflTransGen_iff_walk]
  constructor
  · rintro ⟨length, found⟩
    exact ⟨length, (shortestWalk_eq_some_iff.mp found).1⟩
  · intro reached
    exact ⟨_, shortestWalk_eq_some_iff.mpr (isLeast_csInf reached)⟩

end OhMyClass.Graph
