import OhMyClass.Graph.Saturation
import OhMyClass.Healing.Replan
import OhMyClass.Projection.Payloads
import OhMyClass.TeachingPack.FanoutSteps

/-!
# Scoped replans and the dependency plan

A rejection regenerates what depends on a type in the dependency plan.  A
scoped replan has a table instead, which lacks some of these types.
-/

namespace OhMyClass.TeachingPack

open List OhMyClass.Contracts OhMyClass.Graph OhMyClass.Healing.Replan Relation

/-! ## Dependents by the plan -/

section Dependents

variable {dependenciesOf : String → List String} {requestedTypes affected : List String}
  {artifactType : String}

/-- One type is a direct dependency of another. -/
def IsDependency (dependenciesOf : String → List String) (dependency artifactType : String) : Prop :=
  dependency ∈ dependenciesOf artifactType

/-- A type or one that depends on it, directly or through others. -/
def Affects (dependenciesOf : String → List String) : String → String → Prop :=
  ReflTransGen (IsDependency dependenciesOf)

theorem dependsOnSome_iff : dependsOnSome dependenciesOf affected artifactType = true ↔
    ∃ dependency ∈ affected, IsDependency dependenciesOf dependency artifactType := by
  simp [dependsOnSome, IsDependency, and_comm]

theorem addDependents_concat (last : String) :
    addDependents dependenciesOf (requestedTypes ++ [last]) affected =
      if last ∉ addDependents dependenciesOf requestedTypes affected ∧
          dependsOnSome dependenciesOf (addDependents dependenciesOf requestedTypes affected) last then
        addDependents dependenciesOf requestedTypes affected ++ [last]
      else addDependents dependenciesOf requestedTypes affected := by
  rw [addDependents, foldl_append]
  rfl

theorem addDependents_spec (dependenciesOf : String → List String)
    (requestedTypes affected : List String) :
    ∃ added, addDependents dependenciesOf requestedTypes affected = affected ++ added ∧
      ∀ artifactType ∈ added, artifactType ∈ requestedTypes ∧ artifactType ∉ affected := by
  induction requestedTypes using List.reverseRecOn with
  | nil => exact ⟨[], (append_nil _).symm, forall_mem_nil _⟩
  | append_singleton init last ih =>
    rcases ih with ⟨added, isAdded, fresh⟩
    have stillFresh : ∀ artifactType ∈ added,
        artifactType ∈ init ++ [last] ∧ artifactType ∉ affected :=
      fun artifactType mem => (fresh artifactType mem).imp_left (mem_append_left _)
    rw [addDependents_concat, isAdded]
    split
    · next adds =>
      refine ⟨added ++ [last], append_assoc .., fun artifactType mem => ?_⟩
      rcases mem_append.mp mem with earlier | isLast
      · exact stillFresh artifactType earlier
      · rw [mem_singleton] at isLast
        subst isLast
        exact ⟨mem_append_right _ mem_cons_self,
          fun known => adds.1 (mem_append_left _ known)⟩
    · exact ⟨added, rfl, stillFresh⟩

theorem affected_subset_addDependents (requestedTypes affected : List String) :
    affected ⊆ addDependents dependenciesOf requestedTypes affected := by
  rcases addDependents_spec dependenciesOf requestedTypes affected with ⟨added, isAdded, _⟩
  rw [isAdded]
  exact subset_append_left _ _

theorem mem_addDependents_of_dependency {dependency : String}
    (isRequested : artifactType ∈ requestedTypes) (isAffected : dependency ∈ affected)
    (isDependency : IsDependency dependenciesOf dependency artifactType) :
    artifactType ∈ addDependents dependenciesOf requestedTypes affected := by
  induction requestedTypes using List.reverseRecOn with
  | nil => cases isRequested
  | append_singleton init last ih =>
    rw [addDependents_concat]
    rcases mem_append.mp isRequested with earlier | isLast
    · split
      · exact mem_append_left _ (ih earlier)
      · exact ih earlier
    · rw [mem_singleton] at isLast
      subst isLast
      have depends : dependsOnSome dependenciesOf (addDependents dependenciesOf init affected)
          artifactType = true :=
        dependsOnSome_iff.mpr
          ⟨dependency, affected_subset_addDependents init affected isAffected, isDependency⟩
      split
      · exact mem_append_right _ mem_cons_self
      · next refused =>
        by_contra absent
        exact refused ⟨absent, depends⟩

theorem dependents_saturating (dependenciesOf : String → List String)
    (requestedTypes : List String) :
    Saturating requestedTypes (addDependents dependenciesOf requestedTypes) where
  extensive affected := affected_subset_addDependents requestedTypes affected
  bounded affected artifactType member := by
    rcases addDependents_spec dependenciesOf requestedTypes affected with ⟨added, isAdded, fresh⟩
    rw [isAdded] at member
    exact (mem_append.mp member).imp_right fun isNew => (fresh artifactType isNew).1
  still affected nothing := by
    rcases addDependents_spec dependenciesOf requestedTypes affected with ⟨added, isAdded, fresh⟩
    have none : added = [] := by
      refine eq_nil_iff_forall_not_mem.mpr fun artifactType isNew => ?_
      rw [isAdded] at nothing
      exact (fresh artifactType isNew).2 (nothing (mem_append_right _ isNew))
    rw [isAdded, none, append_nil]

theorem forall_mem_addDependents {holds : String → Prop}
    (inherits : ∀ artifactType ∈ requestedTypes, ∀ dependency,
      IsDependency dependenciesOf dependency artifactType → holds dependency → holds artifactType)
    (before : ∀ artifactType ∈ affected, holds artifactType) :
    ∀ artifactType ∈ addDependents dependenciesOf requestedTypes affected, holds artifactType := by
  induction requestedTypes using List.reverseRecOn with
  | nil => exact before
  | append_singleton init last ih =>
    have earlier := ih fun artifactType mem => inherits artifactType (mem_append_left _ mem)
    rw [addDependents_concat]
    split
    · next adds =>
      rcases dependsOnSome_iff.mp adds.2 with ⟨dependency, isAffected, isDependency⟩
      refine forall_mem_append.mpr ⟨earlier, forall_mem_singleton.mpr ?_⟩
      exact inherits last (mem_append_right _ mem_cons_self) dependency isDependency
        (earlier dependency isAffected)
    · exact earlier

theorem forall_mem_iterate {holds : String → Prop}
    (inherits : ∀ artifactType ∈ requestedTypes, ∀ dependency,
      IsDependency dependenciesOf dependency artifactType → holds dependency → holds artifactType)
    (before : ∀ artifactType ∈ affected, holds artifactType) (rounds : Nat) :
    ∀ artifactType ∈ (addDependents dependenciesOf requestedTypes)^[rounds] affected,
      holds artifactType := by
  induction rounds with
  | zero => exact before
  | succ rounds ih =>
    rw [Function.iterate_succ_apply']
    exact forall_mem_addDependents inherits ih

/-- Where every dependency of a requested type is requested, the dependents of
some types are all that depend on one of them. -/
theorem mem_withDependents_iff {seeds : List String}
    (complete : ∀ artifactType ∈ requestedTypes, dependenciesOf artifactType ⊆ requestedTypes) :
    artifactType ∈ withDependents dependenciesOf seeds requestedTypes ↔
      artifactType ∈ requestedTypes ∧ ∃ seed ∈ seeds, Affects dependenciesOf seed artifactType := by
  have saturating := dependents_saturating dependenciesOf requestedTypes
  rw [withDependents, mem_filter, decide_eq_true_iff]
  refine and_congr_right fun isRequested => ⟨?_, ?_⟩
  · have inherits : ∀ type ∈ requestedTypes, ∀ dependency,
        IsDependency dependenciesOf dependency type →
        (∃ seed ∈ seeds, Affects dependenciesOf seed dependency) →
        ∃ seed ∈ seeds, Affects dependenciesOf seed type :=
      fun _ _ _ isDependency ⟨seed, isSeed, path⟩ => ⟨seed, isSeed, path.tail isDependency⟩
    exact forall_mem_iterate inherits (fun seed isSeed => ⟨seed, isSeed, .refl⟩) _ artifactType
  · rintro ⟨seed, isSeed, path⟩
    induction path with
    | refl => exact saturating.mem_iterate_of_mem isSeed _
    | tail _ isDependency ih =>
      rw [← saturating.iterate_saturated seeds]
      exact mem_addDependents_of_dependency isRequested (ih (complete _ isRequested isDependency))
        isDependency

/-! ## The loop -/

/-- The loop of `with_dependents`, as far as some rounds take it. -/
def withDependentsLoop (dependenciesOf : String → List String) (requestedTypes : List String) :
    Nat → List String → Option (List String)
  | 0, _ => none
  | rounds + 1, affected =>
    if addDependents dependenciesOf requestedTypes affected = affected then
      some (requestedTypes.filter fun artifactType => artifactType ∈ affected)
    else
      withDependentsLoop dependenciesOf requestedTypes rounds
        (addDependents dependenciesOf requestedTypes affected)

/-- A set with the seeds, and with every requested type that has a dependency in it. -/
structure IsClosed (dependenciesOf : String → List String) (seeds requestedTypes : List String)
    (types : Set String) : Prop where
  seeds : ∀ seed ∈ seeds, seed ∈ types
  dependents : ∀ artifactType ∈ requestedTypes, ∀ dependency ∈ dependenciesOf artifactType,
    dependency ∈ types → artifactType ∈ types

/-- The result for some seeds is the requested part of the least closed set. -/
structure LeastDependents (dependenciesOf : String → List String) (requestedTypes : List String)
    (result : List String → List String) : Prop where
  terminates : ∀ seeds rounds, requestedTypes.length < rounds →
    withDependentsLoop dependenciesOf requestedTypes rounds seeds = some (result seeds)
  least : ∀ seeds, ∃ keeps : String → Bool, result seeds = requestedTypes.filter keeps ∧
    ∀ artifactType, keeps artifactType = true ↔
      ∀ types, IsClosed dependenciesOf seeds requestedTypes types → artifactType ∈ types
  monotone : ∀ seeds others, seeds ⊆ others → result seeds ⊆ result others
  idempotent : ∀ seeds, result (result seeds) = result seeds

theorem withDependentsLoop_eq (rounds : Nat) {more : Nat} (fewer : rounds < more)
    (still : addDependents dependenciesOf requestedTypes
        ((addDependents dependenciesOf requestedTypes)^[rounds] affected) =
      (addDependents dependenciesOf requestedTypes)^[rounds] affected) :
    withDependentsLoop dependenciesOf requestedTypes more affected =
      some (requestedTypes.filter fun artifactType =>
        artifactType ∈ (addDependents dependenciesOf requestedTypes)^[rounds] affected) := by
  induction more generalizing rounds affected with
  | zero => cases fewer
  | succ more ih =>
    rw [withDependentsLoop]
    split
    · next ends => rw [Function.iterate_fixed ends]
    · next goesOn =>
      cases rounds with
      | zero => exact absurd still goesOn
      | succ rounds => exact ih rounds (Nat.lt_of_succ_lt_succ fewer) still

theorem mem_iterate_iff {seeds : List String} :
    artifactType ∈ (addDependents dependenciesOf requestedTypes)^[requestedTypes.length] seeds ↔
      ∀ types, IsClosed dependenciesOf seeds requestedTypes types → artifactType ∈ types := by
  have saturating := dependents_saturating dependenciesOf requestedTypes
  constructor
  · intro mem types closed
    exact forall_mem_iterate closed.dependents closed.seeds _ artifactType mem
  · intro inAll
    refine inAll {type | type ∈ (addDependents _ _)^[_] seeds}
      ⟨fun seed isSeed => saturating.mem_iterate_of_mem isSeed _, ?_⟩
    intro other isRequested dependency isDependency isAffected
    rw [← saturating.iterate_saturated seeds]
    exact mem_addDependents_of_dependency isRequested isAffected isDependency

/-- `with_dependents` returns the requested types of the least closed set. -/
theorem withDependents_least (dependenciesOf : String → List String)
    (requestedTypes : List String) :
    LeastDependents dependenciesOf requestedTypes fun seeds =>
      withDependents dependenciesOf seeds requestedTypes where
  terminates seeds rounds enough := withDependentsLoop_eq _ enough
    ((dependents_saturating dependenciesOf requestedTypes).iterate_saturated seeds)
  least seeds := ⟨_, rfl, fun artifactType => decide_eq_true_iff.trans mem_iterate_iff⟩
  monotone seeds others grows artifactType mem := by
    rw [withDependents, mem_filter, decide_eq_true_iff, mem_iterate_iff] at mem ⊢
    exact ⟨mem.1, fun types closed =>
      mem.2 types ⟨fun seed isSeed => closed.seeds seed (grows isSeed), closed.dependents⟩⟩
  idempotent seeds := by
    refine filter_congr fun artifactType isRequested => ?_
    rw [decide_eq_decide, mem_iterate_iff, mem_iterate_iff]
    constructor
    · intro again types closed
      refine again types ⟨fun seed isResult => ?_, closed.dependents⟩
      exact mem_iterate_iff.mp (of_decide_eq_true (mem_filter.mp isResult).2) types closed
    · intro inAll types closed
      refine closed.seeds artifactType (mem_filter.mpr ⟨isRequested, decide_eq_true ?_⟩)
      exact mem_iterate_iff.mpr inAll

end Dependents

/-! ## What a scoped replan keeps -/

section Kept

variable {clearIds : List String} {item : JsonObject} {items kept : List JsonObject}
  {value : Option Json} {json : Json}

/-- The id of an item can be looked up in a set. -/
def Hashable (item : JsonObject) : Prop :=
  ∀ value, item.get? "artifact_id" = some value → (∀ items, value ≠ .arr items) ∧
    ∀ members, value ≠ .obj members

/-- Whether the id of an item is not to be cleared. -/
def spares (clearIds : List String) (item : JsonObject) : Bool :=
  match item.get? "artifact_id" with
  | some (.str artifactId) => artifactId ∉ clearIds
  | _ => true

theorem spares_eq_false_iff : spares clearIds item = false ↔
    ∃ artifactId ∈ clearIds, item.get? "artifact_id" = some (.str artifactId) := by
  unfold spares
  split
  · next artifactId isId =>
    simp [isId]
  · next other =>
    simp only [Bool.true_eq_false, false_iff, not_exists, not_and]
    exact fun artifactId _ isId => other artifactId isId

theorem isKept_eq_ok {keeps : Bool} :
    isKept clearIds item = .ok keeps ↔ Hashable item ∧ spares clearIds item = keeps := by
  unfold isKept spares Hashable
  cases item.get? "artifact_id" with
  | none => simp
  | some value => cases value <;> simp

theorem keptItems_eq_ok : keptItems clearIds items = .ok kept ↔
    (∀ item ∈ items, Hashable item) ∧ items.filter (spares clearIds) = kept := by
  induction items generalizing kept with
  | nil => simp [keptItems]
  | cons item rest ih =>
    rw [keptItems, forall_mem_cons, filter_cons]
    cases first : isKept clearIds item with
    | error _ =>
      simp only [bind, Except.bind, reduceCtorEq, false_iff]
      rintro ⟨⟨hashable, _⟩, _⟩
      rw [isKept_eq_ok.mpr ⟨hashable, rfl⟩] at first
      cases first
    | ok keeps =>
      rcases isKept_eq_ok.mp first with ⟨hashable, rfl⟩
      cases others : keptItems clearIds rest with
      | error _ =>
        simp only [bind, Except.bind, reduceCtorEq, false_iff]
        rintro ⟨⟨_, allHashable⟩, _⟩
        rw [ih.mpr ⟨allHashable, rfl⟩] at others
        cases others
      | ok spared =>
        rcases ih.mp others with ⟨allHashable, rfl⟩
        simp only [bind, Except.bind, pure, Except.pure, Except.ok.injEq, iff_and_self]
        exact fun _ => ⟨hashable, allHashable⟩

theorem map_keptItems_eq_ok {build : List JsonObject → Json} :
    (keptItems clearIds items).map build = .ok json ↔
      (∀ item ∈ items, Hashable item) ∧ build (items.filter (spares clearIds)) = json := by
  cases kept : keptItems clearIds items with
  | error _ =>
    simp only [Except.map, reduceCtorEq, false_iff]
    rintro ⟨hashable, _⟩
    rw [keptItems_eq_ok.mpr ⟨hashable, rfl⟩] at kept
    cases kept
  | ok spared =>
    rcases keptItems_eq_ok.mp kept with ⟨hashable, rfl⟩
    simp only [Except.map, Except.ok.injEq, iff_and_self]
    exact fun _ => hashable

theorem jsonObjects_arr_map (items : List JsonObject) :
    jsonObjects (some (.arr (items.map .obj))) = items := by
  simp [jsonObjects]

theorem jsonObjects_withoutArtifacts (isJson : withoutArtifacts value clearIds = .ok json) :
    jsonObjects (some json) = (jsonObjects value).filter (spares clearIds) := by
  unfold withoutArtifacts at isJson
  cases objects : jsonObjects value with
  | nil =>
    rw [objects] at isJson
    cases isJson
    rfl
  | cons first rest =>
    rw [objects] at isJson
    rcases map_keptItems_eq_ok.mp isJson with ⟨_, rfl⟩
    exact jsonObjects_arr_map _

theorem exists_withoutArtifacts_iff : (∃ json, withoutArtifacts value clearIds = .ok json) ↔
    ∀ item ∈ jsonObjects value, Hashable item := by
  unfold withoutArtifacts
  cases jsonObjects value with
  | nil => simp
  | cons first rest =>
    simp [map_keptItems_eq_ok]

/-- The reports of quality scores. -/
def reportsOf (value : Option Json) : List JsonObject :=
  jsonObjects ((jsonObject value).get? "reports")

theorem reportsOf_withoutQualityReports
    (isJson : withoutQualityReports value clearIds = .ok json) :
    reportsOf (some json) = (reportsOf value).filter (spares clearIds) := by
  unfold withoutQualityReports at isJson
  unfold reportsOf
  cases isObject : jsonObject value with
  | nil =>
    rw [isObject] at isJson
    cases isJson
    rfl
  | cons score scores =>
    rw [isObject] at isJson
    dsimp only at isJson
    cases objects : jsonObjects (JsonObject.get? (score :: scores) "reports") with
    | nil =>
      rw [objects] at isJson
      cases isJson
      exact objects
    | cons first rest =>
      rw [objects] at isJson
      rcases map_keptItems_eq_ok.mp isJson with ⟨_, rfl⟩
      rw [jsonObject, JsonObject.get?_set_self, jsonObjects_arr_map]

theorem exists_withoutQualityReports_iff :
    (∃ json, withoutQualityReports value clearIds = .ok json) ↔
      ∀ item ∈ reportsOf value, Hashable item := by
  unfold withoutQualityReports reportsOf
  cases jsonObject value with
  | nil => simp [JsonObject.get?, jsonObjects]
  | cons score scores =>
    dsimp only
    cases jsonObjects (JsonObject.get? (score :: scores) "reports") with
    | nil => simp
    | cons first rest =>
      simp [map_keptItems_eq_ok]

end Kept

/-- Where the replan leaves artifacts: the lists and the reports of a state. -/
def places : List (JsonObject → List JsonObject) :=
  [fun state => jsonObjects (state.get? "artifact_workflow_states"),
    fun state => jsonObjects (state.get? "artifacts"),
    fun state => jsonObjects (state.get? "rendered_snapshots"),
    fun state => reportsOf (state.get? "quality_scores")]

def chunks (state : JsonObject) : List JsonObject :=
  jsonObjects (state.get? "artifact_chunks")

/-- The id of the item names an artifact whose type is, or depends on, another. -/
def Affected (state : JsonObject) (failedType : String) (item : JsonObject) : Prop :=
  ∃ artifactId type, item.get? "artifact_id" = some (.str artifactId) ∧
    (artifactId, type) ∈ artifactIdTypes state ∧ Affects dependenciesOf failedType type

/-- What is left of a list without the items of some kind. -/
def Cleared (clears : JsonObject → Prop) (before after : List JsonObject) : Prop :=
  ∃ keeps : JsonObject → Bool, (∀ item ∈ before, keeps item = false ↔ clears item) ∧
    after = before.filter keeps

/-- A replan for a failed artifact clears, everywhere, the artifacts whose types
depend on its type, and these types are those that a rejection of it affects. -/
structure ScopedReplanAgrees (state : JsonObject) (failCount : Int) (failedArtifactId : String) :
    Prop where
  cleared : ∃ result, scopedReplan state failCount failedArtifactId = .ok result ∧
    ∀ place ∈ places, Cleared (Affected state (artifactType state failedArtifactId))
      (place state) (place result)
  rejected : ∀ requestedTypes,
    (∀ type ∈ requestedTypes, dependenciesOf type ⊆ requestedTypes) →
      ∀ type ∈ requestedTypes,
        type ∈ withDependents dependenciesOf [artifactType state failedArtifactId] requestedTypes ↔
          Affects dependenciesOf (artifactType state failedArtifactId) type

/-- The types that depend on a type in the plan and not in the replan's table. -/
def missedTypes (failedType : String) : List String :=
  ([("lesson", ["flashcard_deck", "roadmap", "slide_deck", "reading_passage", "infographic",
      "exit_ticket", "answer_key"]), ("quiz", ["answer_key"])].lookup failedType).getD []

/-- No id is a list or an object, and what has a missed type has another that is
in the table as well, or is the failed artifact itself. -/
structure NothingMissed (state : JsonObject) (failedArtifactId : String) : Prop where
  hashable : ∀ place ∈ chunks :: places, ∀ item ∈ place state, Hashable item
  covered : ∀ place ∈ places, ∀ item ∈ place state, ∀ artifactId,
    item.get? "artifact_id" = some (.str artifactId) →
      (∃ type ∈ missedTypes (artifactType state failedArtifactId),
        (artifactId, type) ∈ artifactIdTypes state) →
      artifactId = failedArtifactId ∨
        ∃ type ∈ clearTypes (artifactType state failedArtifactId),
          (artifactId, type) ∈ artifactIdTypes state

/-! ### The closure of a type -/

/-- The table and what it misses. -/
def plannedTypes (failedType : String) : List String :=
  clearTypes failedType ++ missedTypes failedType

theorem plannedTypes_cases (failedType : String) :
    failedType = "lesson" ∨ failedType = "quiz" ∨ plannedTypes failedType = [failedType] := by
  by_cases isLesson : failedType = "lesson"
  · exact .inl isLesson
  · by_cases isQuiz : failedType = "quiz"
    · exact .inr (.inl isQuiz)
    · have notLesson : (failedType == "lesson") = false := beq_eq_false_iff_ne.mpr isLesson
      have notQuiz : (failedType == "quiz") = false := beq_eq_false_iff_ne.mpr isQuiz
      refine .inr (.inr ?_)
      simp only [plannedTypes, clearTypes, dependentTypes, missedTypes, List.lookup_cons, notLesson,
        notQuiz]
      rfl

theorem isDependency_cases {dependency type : String}
    (isDependency : IsDependency dependenciesOf dependency type) :
    (dependency = "lesson" ∧ type ∈ plannedTypes "lesson") ∨
      (dependency = "quiz" ∧ type ∈ plannedTypes "quiz") := by
  have table : ∀ entry ∈ defaultDependencyPlan.dependencies, ∀ dependency ∈ entry.2,
      (dependency = "lesson" ∧ entry.1 ∈ plannedTypes "lesson") ∨
        (dependency = "quiz" ∧ entry.1 ∈ plannedTypes "quiz") := by
    decide
  change dependency ∈ (defaultDependencyPlan.dependencies.lookup type).getD [] at isDependency
  cases found : defaultDependencyPlan.dependencies.lookup type with
  | none =>
    rw [found] at isDependency
    cases isDependency
  | some required =>
    rw [found] at isDependency
    rcases lookup_eq_some_iff.mp found with ⟨before, after, isEntry, _⟩
    have mem : (type, required) ∈ defaultDependencyPlan.dependencies :=
      isEntry ▸ mem_append_right _ mem_cons_self
    exact table _ mem dependency isDependency

theorem plannedTypes_quiz_subset : ∀ type ∈ plannedTypes "quiz", type ∈ plannedTypes "lesson" := by
  decide

theorem plannedTypes_closed {failedType source target : String} (isSource : source ∈ plannedTypes failedType)
    (isDependency : IsDependency dependenciesOf source target) : target ∈ plannedTypes failedType := by
  rcases plannedTypes_cases failedType with rfl | rfl | single
  · rcases isDependency_cases isDependency with ⟨_, mem⟩ | ⟨_, mem⟩
    · exact mem
    · exact plannedTypes_quiz_subset target mem
  · rcases isDependency_cases isDependency with ⟨rfl, _⟩ | ⟨_, mem⟩
    · exact absurd isSource (by decide)
    · exact mem
  · rw [single, mem_singleton] at isSource
    subst isSource
    rcases isDependency_cases isDependency with ⟨rfl, mem⟩ | ⟨rfl, mem⟩
    · exact mem
    · exact mem

theorem quiz_affects : ∀ type ∈ plannedTypes "quiz", Affects dependenciesOf "quiz" type := by
  have direct : ∀ type ∈ plannedTypes "quiz", type = "quiz" ∨ "quiz" ∈ dependenciesOf type := by
    decide
  intro type mem
  rcases direct type mem with rfl | isDependency
  · exact .refl
  · exact .single isDependency

theorem lesson_affects : ∀ type ∈ plannedTypes "lesson", Affects dependenciesOf "lesson" type := by
  have direct : ∀ type ∈ plannedTypes "lesson",
      type = "lesson" ∨ "lesson" ∈ dependenciesOf type ∨ type ∈ plannedTypes "quiz" := by
    decide
  have quiz : IsDependency dependenciesOf "lesson" "quiz" := mem_cons_self
  intro type mem
  rcases direct type mem with rfl | isDependency | ofQuiz
  · exact .refl
  · exact .single isDependency
  · exact .head quiz (quiz_affects type ofQuiz)

theorem affects_iff {failedType type : String} :
    Affects dependenciesOf failedType type ↔ type ∈ plannedTypes failedType := by
  constructor
  · intro path
    have start : failedType ∈ plannedTypes failedType := mem_cons_self
    exact mem_of_reflTransGen (fun type => type ∈ plannedTypes failedType)
      (fun _ _ => plannedTypes_closed) path start
  · intro mem
    rcases plannedTypes_cases failedType with rfl | rfl | single
    · exact lesson_affects type mem
    · exact quiz_affects type mem
    · rw [single, mem_singleton] at mem
      exact mem ▸ .refl

section Ids

variable {state : JsonObject} {failedArtifactId artifactId : String} {item : JsonObject}

theorem mem_clearArtifactIds : artifactId ∈ clearArtifactIds state failedArtifactId ↔
    ∃ type, (artifactId, type) ∈ artifactIdTypes state ∧
      (artifactId = failedArtifactId ∨
        type ∈ clearTypes (artifactType state failedArtifactId)) := by
  simp [clearArtifactIds]

theorem failed_mem (named : artifactType state failedArtifactId ≠ "") :
    (failedArtifactId, artifactType state failedArtifactId) ∈ artifactIdTypes state := by
  unfold artifactType at named ⊢
  cases found : (artifactIdTypes state).lookup failedArtifactId with
  | none =>
    rw [found] at named
    exact absurd rfl named
  | some type =>
    rcases lookup_eq_some_iff.mp found with ⟨before, after, isEntry, _⟩
    rw [isEntry]
    exact mem_append_right _ mem_cons_self

theorem affected_of_spares_eq_false (named : artifactType state failedArtifactId ≠ "")
    (cleared : spares (clearArtifactIds state failedArtifactId) item = false) :
    Affected state (artifactType state failedArtifactId) item := by
  rcases spares_eq_false_iff.mp cleared with ⟨artifactId, isCleared, isId⟩
  rcases mem_clearArtifactIds.mp isCleared with ⟨type, listed, rfl | inTable⟩
  · exact ⟨artifactId, _, isId, failed_mem named, .refl⟩
  · exact ⟨artifactId, type, isId, listed, affects_iff.mpr (mem_append_left _ inTable)⟩

theorem spares_eq_false_iff_covered
    (affected : Affected state (artifactType state failedArtifactId) item) :
    spares (clearArtifactIds state failedArtifactId) item = false ↔
      ∀ artifactId, item.get? "artifact_id" = some (.str artifactId) →
        (∃ type ∈ missedTypes (artifactType state failedArtifactId),
          (artifactId, type) ∈ artifactIdTypes state) →
        artifactId = failedArtifactId ∨
          ∃ type ∈ clearTypes (artifactType state failedArtifactId),
            (artifactId, type) ∈ artifactIdTypes state := by
  rcases affected with ⟨artifactId, type, isId, listed, depends⟩
  rw [spares_eq_false_iff, isId]
  constructor
  · rintro ⟨other, isCleared, same⟩ given isGiven _
    cases isGiven
    cases same
    rcases mem_clearArtifactIds.mp isCleared with ⟨otherType, otherListed, isFailed | inTable⟩
    · exact .inl isFailed
    · exact .inr ⟨otherType, inTable, otherListed⟩
  · intro covered
    refine ⟨artifactId, mem_clearArtifactIds.mpr ?_, rfl⟩
    rcases mem_append.mp (affects_iff.mp depends) with inTable | isMissed
    · exact ⟨type, listed, .inr inTable⟩
    · rcases covered artifactId rfl ⟨type, isMissed, listed⟩ with isFailed | ⟨other, inTable, isListed⟩
      · exact ⟨type, listed, .inl isFailed⟩
      · exact ⟨other, isListed, .inr inTable⟩

end Ids

section Result

variable {state result : JsonObject} {failCount : Int} {failedArtifactId : String}

theorem places_scopedReplan (replanned : scopedReplan state failCount failedArtifactId = .ok result) :
    ∀ place ∈ places,
      place result = (place state).filter (spares (clearArtifactIds state failedArtifactId)) := by
  simp only [scopedReplan, Raising.bind_eq_ok] at replanned
  rcases replanned with ⟨_, _, artifacts, isArtifacts, states, isStates, snapshots, isSnapshots,
    scores, isScores, ret⟩
  cases ret
  simp only [places, forall_mem_cons]
  exact ⟨jsonObjects_withoutArtifacts isStates, jsonObjects_withoutArtifacts isArtifacts,
    jsonObjects_withoutArtifacts isSnapshots, reportsOf_withoutQualityReports isScores,
    forall_mem_nil _⟩

theorem exists_scopedReplan_iff :
    (∃ result, scopedReplan state failCount failedArtifactId = .ok result) ↔
      ∀ place ∈ chunks :: places, ∀ item ∈ place state, Hashable item := by
  simp only [places, chunks, forall_mem_cons, not_mem_nil, false_implies, implies_true,
    and_true]
  rw [← exists_withoutArtifacts_iff, ← exists_withoutArtifacts_iff, ← exists_withoutArtifacts_iff,
    ← exists_withoutArtifacts_iff, ← exists_withoutQualityReports_iff]
  constructor
  · rintro ⟨result, replanned⟩
    simp only [scopedReplan, Raising.bind_eq_ok] at replanned
    rcases replanned with ⟨chunks, isChunks, artifacts, isArtifacts, states, isStates, snapshots,
      isSnapshots, scores, isScores, _⟩
    exact ⟨⟨chunks, isChunks⟩, ⟨states, isStates⟩, ⟨artifacts, isArtifacts⟩,
      ⟨snapshots, isSnapshots⟩, scores, isScores⟩
  · rintro ⟨⟨chunks, isChunks⟩, ⟨states, isStates⟩, ⟨artifacts, isArtifacts⟩,
      ⟨snapshots, isSnapshots⟩, scores, isScores⟩
    simp only [scopedReplan, Raising.bind_eq_ok]
    exact ⟨_, chunks, isChunks, artifacts, isArtifacts, states, isStates, snapshots, isSnapshots,
      scores, isScores, rfl⟩

/-- A replan clears what a rejection affects exactly where its table misses
nothing. -/
theorem scopedReplan_agrees_iff (named : artifactType state failedArtifactId ≠ "") :
    ScopedReplanAgrees state failCount failedArtifactId ↔ NothingMissed state failedArtifactId := by
  constructor
  · rintro ⟨⟨result, replanned, cleared⟩, _⟩
    refine ⟨exists_scopedReplan_iff.mp ⟨result, replanned⟩, ?_⟩
    intro place isPlace item mem artifactId isId missed
    rcases missed with ⟨type, isMissed, listed⟩
    have affected : Affected state (artifactType state failedArtifactId) item :=
      ⟨artifactId, type, isId, listed, affects_iff.mpr (mem_append_right _ isMissed)⟩
    have isCleared : spares (clearArtifactIds state failedArtifactId) item = false := by
      rcases cleared place isPlace with ⟨keeps, isKeeps, isFiltered⟩
      rw [places_scopedReplan replanned place isPlace] at isFiltered
      by_contra spared
      have isLeft : item ∈ (place state).filter (spares (clearArtifactIds state failedArtifactId)) :=
        mem_filter.mpr ⟨mem, Bool.eq_true_of_not_eq_false spared⟩
      rw [isFiltered] at isLeft
      have kept := (mem_filter.mp isLeft).2
      rw [(isKeeps item mem).mpr affected] at kept
      cases kept
    exact (spares_eq_false_iff_covered affected).mp isCleared artifactId isId
      ⟨type, isMissed, listed⟩
  · rintro ⟨hashable, covered⟩
    rcases exists_scopedReplan_iff.mpr hashable with ⟨result, replanned⟩
    constructor
    · refine ⟨result, replanned, fun place isPlace => ?_⟩
      refine ⟨spares (clearArtifactIds state failedArtifactId), fun item mem => ?_,
        places_scopedReplan replanned place isPlace⟩
      constructor
      · exact affected_of_spares_eq_false named
      · intro affected
        exact (spares_eq_false_iff_covered affected).mpr (covered place isPlace item mem)
    · intro requestedTypes complete type isRequested
      rw [mem_withDependents_iff complete]
      simp [isRequested]

end Result

def listedArtifact (artifactId type : String) : JsonObject :=
  [("artifact_id", .str artifactId), ("artifact_type", .str type)]

theorem hashable_listedArtifact (artifactId type : String) :
    Hashable (listedArtifact artifactId type) := by
  intro value isValue
  cases isValue
  exact ⟨nofun, nofun⟩

def lessonAnd (type : String) : JsonObject :=
  [("artifacts", .arr [.obj (listedArtifact "lesson-1" "lesson"),
    .obj (listedArtifact "other-1" type)])]

/-- The slide deck depends on the lesson and is kept. -/
theorem slideDeck_kept : ¬ ScopedReplanAgrees (lessonAnd "slide_deck") 3 "lesson-1" := by
  rintro ⟨⟨result, replanned, cleared⟩, _⟩
  have isPlace : (fun state : JsonObject => jsonObjects (state.get? "artifacts")) ∈ places :=
    mem_cons_of_mem _ mem_cons_self
  rcases cleared _ isPlace with ⟨keeps, isKeeps, isFiltered⟩
  rw [places_scopedReplan replanned _ isPlace] at isFiltered
  have mem : listedArtifact "other-1" "slide_deck" ∈
      jsonObjects ((lessonAnd "slide_deck").get? "artifacts") :=
    mem_cons_of_mem _ mem_cons_self
  have failedType : artifactType (lessonAnd "slide_deck") "lesson-1" = "lesson" := by
    rfl
  have affected : Affected (lessonAnd "slide_deck")
      (artifactType (lessonAnd "slide_deck") "lesson-1") (listedArtifact "other-1" "slide_deck") := by
    refine ⟨"other-1", "slide_deck", rfl, ?_, ?_⟩
    · decide
    · exact lesson_affects "slide_deck" (by decide)
  have spared : spares (clearArtifactIds (lessonAnd "slide_deck") "lesson-1")
      (listedArtifact "other-1" "slide_deck") = true := by
    decide +kernel
  have isLeft := mem_filter.mpr ⟨mem, spared⟩
  rw [isFiltered] at isLeft
  have kept := (mem_filter.mp isLeft).2
  rw [(isKeeps _ mem).mpr affected] at kept
  cases kept

theorem worksheet_cleared : ScopedReplanAgrees (lessonAnd "worksheet") 3 "lesson-1" := by
  have failedType : artifactType (lessonAnd "worksheet") "lesson-1" = "lesson" := by
    rfl
  refine (scopedReplan_agrees_iff (by rw [failedType]; decide)).mpr ⟨?_, ?_⟩
  · simp only [places, forall_mem_cons]
    have none : ∀ item ∈ ([] : List JsonObject), Hashable item := forall_mem_nil _
    refine ⟨none, none, ?_, none, none, forall_mem_nil _⟩
    intro item mem
    rcases mem_cons.mp mem with rfl | isOther
    · exact hashable_listedArtifact "lesson-1" "lesson"
    · rw [mem_singleton.mp isOther]
      exact hashable_listedArtifact "other-1" "worksheet"
  · intro place _ item _ artifactId _ missed
    rcases missed with ⟨type, isMissed, listed⟩
    rcases mem_cons.mp listed with isLesson | isOther
    · cases isLesson
      exact absurd isMissed (by decide)
    · cases mem_singleton.mp isOther
      exact absurd isMissed (by decide)

end OhMyClass.TeachingPack
