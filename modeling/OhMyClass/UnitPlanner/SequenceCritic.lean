import OhMyClass.Contracts.Plans
import OhMyClass.Gateway.Snapshots.AnswerKeys
import OhMyClass.Sorting.Core
import OhMyClass.Text.Core

/-!
# The critic of lesson sequences

The critic finds sessions below the Bloom level of an earlier one and sessions
that repeat a topic.  The repair sorts the sessions by their Bloom level,
without a look at their prerequisites.
-/

namespace OhMyClass.UnitPlanner

open List Contracts
open OhMyClass.Gateway (isSpace)
open Sorting

universe u

/-! ## Source definitions -/

inductive BloomLevel where
  | remember
  | understand
  | apply
  | analyze
  | evaluate
  | create

/-- A session plan; `details` stands for the fields that nothing here looks at. -/
structure Session (δ : Type u) extends SessionPlan where
  subTopic : String
  bloomLevelPrimary : BloomLevel
  details : δ

/-- A lesson sequence that its validator accepts. -/
structure UnitSequence (δ ε : Type u) where
  sessions : List (Session δ)
  details : ε
  sessionCount : 1 ≤ sessions.length ∧ sessions.length ≤ 20
  references : validateSequenceReferences (sessions.map (·.toSessionPlan)) = .ok ()

inductive CritiqueSeverity where
  | soft
  | hard
  deriving DecidableEq

inductive CritiqueType where
  | ordering
  | fragmentation

structure SequenceCritique where
  critiqueType : CritiqueType
  involvedSessions : List String
  severity : CritiqueSeverity
  suggestedFix : String

section

variable {δ ε : Type u}

def bloomRank (session : Session δ) : Nat :=
  match session.bloomLevelPrimary with
  | .remember => 0
  | .understand => 1
  | .apply => 2
  | .analyze => 3
  | .evaluate => 4
  | .create => 5

def orderingCritique (highestSession : String) (session : Session δ) : SequenceCritique where
  critiqueType := .ordering
  involvedSessions := [highestSession, session.sessionId]
  severity := .hard
  suggestedFix := "Move lower-Bloom prerequisite work before higher-Bloom application work."

def orderingCritiquesFrom (highestRank : Int) (highestSession : String) :
    List (Session δ) → List SequenceCritique
  | [] => []
  | session :: rest =>
    let rank := bloomRank session
    let critiques := if rank < highestRank then [orderingCritique highestSession session] else []
    if highestRank < rank then
      critiques ++ orderingCritiquesFrom rank session.sessionId rest
    else
      critiques ++ orderingCritiquesFrom highestRank highestSession rest

def orderingCritiques (sessions : List (Session δ)) : List SequenceCritique :=
  orderingCritiquesFrom (-1) "" sessions

section Critic

-- `str.casefold`.
variable (casefold : String → String)

def normalizedTopic (session : Session δ) : String :=
  String.ofList (Text.trim isSpace (casefold session.subTopic).toList)

def fragmentationCritique (earlier : String) (session : Session δ) : SequenceCritique where
  critiqueType := .fragmentation
  involvedSessions := [earlier, session.sessionId]
  severity := .soft
  suggestedFix := "Merge duplicated atomic concept coverage or make the second session a deliberate spiral review."

def fragmentationCritiquesFrom (seen : List (String × String)) :
    List (Session δ) → List SequenceCritique
  | [] => []
  | session :: rest =>
    let normalized := normalizedTopic casefold session
    match seen.lookup normalized with
    | some earlier =>
      fragmentationCritique earlier session :: fragmentationCritiquesFrom seen rest
    | none => fragmentationCritiquesFrom (seen ++ [(normalized, session.sessionId)]) rest

def fragmentationCritiques (sessions : List (Session δ)) : List SequenceCritique :=
  fragmentationCritiquesFrom casefold [] sessions

def critiqueSequence (sequence : UnitSequence δ ε) : List SequenceCritique :=
  orderingCritiques sequence.sessions ++ fragmentationCritiques casefold sequence.sessions

def hardCritiques (sequence : UnitSequence δ ε) : List SequenceCritique :=
  (critiqueSequence casefold sequence).filter (·.severity = .hard)

end Critic

/-- The sessions with their places in the list as `order_index`. -/
def renumbered (sessions : List (Session δ)) (atMost : sessions.length ≤ 20) : List (Session δ) :=
  sessions.mapFinIdx fun index session within =>
    { session with
      orderIndex := index + 1
      orderIndexRange := ⟨Nat.le_add_left 1 index, within.trans_le atMost⟩ }

/-- A session without its place. -/
def unnumbered (session : Session δ) : Session δ :=
  { session with orderIndex := 1, orderIndexRange := first_inRange }

variable {sessions : List (Session δ)} {atMost : sessions.length ≤ 20}

theorem map_unnumbered_renumbered :
    (renumbered sessions atMost).map unnumbered = sessions.map unnumbered := by
  apply ext_getElem
  · simp [renumbered]
  · intro index within _
    simp [renumbered, unnumbered]

theorem map_orderIndex_renumbered :
    (renumbered sessions atMost).map (·.orderIndex) = List.range' 1 sessions.length := by
  apply ext_getElem
  · simp [renumbered]
  · intro index within _
    simp [renumbered, Nat.add_comm]

theorem forall_references_iff :
    validateSequenceReferences (sessions.map (·.toSessionPlan)) = .ok () ↔
      ∀ session ∈ sessions, ∀ required ∈ session.prerequisiteSessions,
        required ∈ sessions.map (·.sessionId) := by
  rw [validateSequenceReferences, checkReferences_eq_ok_iff, map_map, forall_mem_map]
  rfl

variable {first second : List (Session δ)}

theorem references_of_map_unnumbered
    (references : validateSequenceReferences (first.map (·.toSessionPlan)) = .ok ())
    (permutation : (second.map unnumbered).Perm (first.map unnumbered)) :
    validateSequenceReferences (second.map (·.toSessionPlan)) = .ok () := by
  rw [forall_references_iff] at references ⊢
  have ids := permutation.map fun session => session.sessionId
  rw [map_map, map_map] at ids
  intro session mem required isRequired
  have moved : unnumbered session ∈ first.map unnumbered :=
    permutation.mem_iff.mp (mem_map_of_mem mem)
  obtain ⟨original, originalMem, same⟩ := mem_map.mp moved
  have samePrerequisites : original.prerequisiteSessions = session.prerequisiteSessions :=
    congrArg (·.prerequisiteSessions) same
  rw [← samePrerequisites] at isRequired
  exact ids.mem_iff.mpr (references original originalMem required isRequired)

theorem map_unnumbered_repaired_perm {atMost} :
    ((renumbered (sortBy bloomRank sessions) atMost).map unnumbered).Perm
      (sessions.map unnumbered) := by
  rw [map_unnumbered_renumbered]
  exact (sortBy_perm bloomRank sessions).map unnumbered

theorem length_sortBy_le (sequence : UnitSequence δ ε) :
    (sortBy bloomRank sequence.sessions).length ≤ 20 := by
  rw [(sortBy_perm bloomRank sequence.sessions).length_eq]
  exact sequence.sessionCount.2

def repairHardCritiques (casefold : String → String) (sequence : UnitSequence δ ε) :
    UnitSequence δ ε :=
  if hardCritiques casefold sequence = [] then
    sequence
  else
    { sequence with
      sessions := renumbered (sortBy bloomRank sequence.sessions) (length_sortBy_le sequence)
      sessionCount := by
        rw [renumbered, List.length_mapFinIdx, (sortBy_perm _ _).length_eq]
        exact sequence.sessionCount
      references :=
        references_of_map_unnumbered sequence.references map_unnumbered_repaired_perm }

/-- The Bloom levels do not fall. -/
def Ascending (sessions : List (Session δ)) : Prop :=
  sessions.Pairwise fun earlier later => bloomRank earlier ≤ bloomRank later

variable {highestRank : Int} {highestSession : String}

theorem orderingCritiquesFrom_eq_nil_iff :
    orderingCritiquesFrom highestRank highestSession sessions = [] ↔
      (∀ session ∈ sessions, highestRank ≤ bloomRank session) ∧ Ascending sessions := by
  induction sessions generalizing highestRank highestSession with
  | nil => simp [orderingCritiquesFrom, Ascending]
  | cons session rest ih =>
    simp only [orderingCritiquesFrom, Ascending, pairwise_cons, forall_mem_cons]
    by_cases below : (bloomRank session : Int) < highestRank
    · refine iff_of_false ?_ fun both => absurd both.1.1 (by omega)
      split <;> exact cons_ne_nil _ _
    · rw [if_neg below, nil_append, nil_append]
      split
      · next above =>
        rw [ih]
        constructor
        · rintro ⟨raised, ascending⟩
          exact ⟨⟨above.le, fun later mem => above.le.trans (raised later mem)⟩,
            fun later mem => Int.ofNat_le.mp (raised later mem), ascending⟩
        · rintro ⟨-, raised, ascending⟩
          exact ⟨fun later mem => Int.ofNat_le.mpr (raised later mem), ascending⟩
      · next notAbove =>
        have same : highestRank = bloomRank session := by omega
        rw [ih, same]
        constructor
        · rintro ⟨raised, ascending⟩
          exact ⟨⟨le_rfl, raised⟩, fun later mem => Int.ofNat_le.mp (raised later mem),
            ascending⟩
        · rintro ⟨⟨-, raised⟩, -, ascending⟩
          exact ⟨raised, ascending⟩

theorem severity_of_mem_orderingCritiquesFrom :
    ∀ critique ∈ orderingCritiquesFrom highestRank highestSession sessions,
      critique.severity = .hard := by
  induction sessions generalizing highestRank highestSession with
  | nil => exact fun _ mem => absurd mem not_mem_nil
  | cons session rest ih =>
    intro critique mem
    have here : critique ∈ (if bloomRank session < highestRank then
        [orderingCritique highestSession session] else []) → critique.severity = .hard := by
      split
      · intro isHere
        rw [mem_singleton.mp isHere]
        rfl
      · exact fun no => absurd no not_mem_nil
    simp only [orderingCritiquesFrom] at mem
    split at mem
    · exact (mem_append.mp mem).elim here (ih critique)
    · exact (mem_append.mp mem).elim here (ih critique)

variable {casefold : String → String}

theorem severity_of_mem_fragmentationCritiquesFrom {seen : List (String × String)} :
    ∀ critique ∈ fragmentationCritiquesFrom casefold seen sessions, critique.severity = .soft := by
  induction sessions generalizing seen with
  | nil => exact fun _ mem => absurd mem not_mem_nil
  | cons session rest ih =>
    intro critique mem
    simp only [fragmentationCritiquesFrom] at mem
    split at mem
    · rcases mem_cons.mp mem with rfl | later
      · rfl
      · exact ih critique later
    · exact ih critique mem

theorem hardCritiques_eq (casefold : String → String) (sequence : UnitSequence δ ε) :
    hardCritiques casefold sequence = orderingCritiques sequence.sessions := by
  rw [hardCritiques, critiqueSequence, filter_append]
  have ordering : (orderingCritiques sequence.sessions).filter (·.severity = .hard) =
      orderingCritiques sequence.sessions :=
    filter_eq_self.mpr fun critique mem =>
      decide_eq_true (severity_of_mem_orderingCritiquesFrom critique mem)
  have fragmentation :
      (fragmentationCritiques casefold sequence.sessions).filter (·.severity = .hard) = [] := by
    rw [filter_eq_nil_iff]
    intro critique mem
    rw [severity_of_mem_fragmentationCritiquesFrom critique mem]
    decide
  rw [ordering, fragmentation, append_nil]

theorem hardCritiques_eq_nil_iff {sequence : UnitSequence δ ε} :
    hardCritiques casefold sequence = [] ↔ Ascending sequence.sessions := by
  rw [hardCritiques_eq, orderingCritiques, orderingCritiquesFrom_eq_nil_iff]
  exact and_iff_right fun session _ => by omega

/-- Every session comes after the sessions it needs. -/
def PrerequisitesFirst (sessions : List (Session δ)) : Prop :=
  ∀ session ∈ sessions, ∀ required ∈ session.prerequisiteSessions,
    List.Sublist [required, session.sessionId] (sessions.map (·.sessionId))

/-- No session needs one of a higher Bloom level. -/
def PrerequisitesBelow (sessions : List (Session δ)) : Prop :=
  ∀ session ∈ sessions, ∀ earlier ∈ sessions,
    earlier.sessionId ∈ session.prerequisiteSessions → bloomRank earlier ≤ bloomRank session

theorem prerequisitesFirst_map_unnumbered :
    PrerequisitesFirst (sessions.map unnumbered) ↔ PrerequisitesFirst sessions := by
  unfold PrerequisitesFirst
  rw [forall_mem_map, map_map]
  rfl

theorem prerequisitesFirst_congr (same : first.map unnumbered = second.map unnumbered) :
    PrerequisitesFirst first ↔ PrerequisitesFirst second := by
  rw [← prerequisitesFirst_map_unnumbered, same, prerequisitesFirst_map_unnumbered]

section

variable (distinct : (sessions.map (·.sessionId)).Nodup)

include distinct

theorem sublist_sessionIds_iff {session : Session δ} (mem : session ∈ sessions)
    {required : String} :
    List.Sublist [required, session.sessionId] (sessions.map (·.sessionId)) ↔
      ∃ earlier, earlier.sessionId = required ∧ List.Sublist [earlier, session] sessions := by
  constructor
  · intro before
    obtain ⟨pair, isSublist, sameIds⟩ := sublist_map_iff.mp before
    obtain ⟨earlier, others, rfl, sameRequired, sameOthers⟩ := map_eq_cons_iff.mp sameIds.symm
    obtain ⟨later, last, rfl, sameSession, sameEnd⟩ := map_eq_cons_iff.mp sameOthers
    obtain rfl := map_eq_nil_iff.mp sameEnd
    have laterMem : later ∈ sessions :=
      isSublist.subset (mem_cons_of_mem _ mem_cons_self)
    have isSession : later = session :=
      inj_on_of_nodup_map distinct laterMem mem sameSession
    exact ⟨earlier, sameRequired, isSession ▸ isSublist⟩
  · rintro ⟨earlier, rfl, before⟩
    exact before.map fun session => session.sessionId

theorem prerequisitesBelow_of_ascending (ascending : Ascending sessions)
    (ordered : PrerequisitesFirst sessions) :
    PrerequisitesBelow sessions := by
  intro session mem earlier earlierMem isRequired
  obtain ⟨first, sameId, before⟩ :=
    (sublist_sessionIds_iff distinct mem).mp (ordered session mem _ isRequired)
  have firstMem : first ∈ sessions := before.subset mem_cons_self
  have isFirst : first = earlier := inj_on_of_nodup_map distinct firstMem earlierMem sameId
  rw [← isFirst]
  exact (pairwise_cons.mp (ascending.sublist before)).1 session mem_cons_self

/-- The sorted sessions come after what they need exactly when no session needs
one of a higher Bloom level. -/
theorem prerequisitesFirst_sortBy_iff (ordered : PrerequisitesFirst sessions) :
    PrerequisitesFirst (sortBy bloomRank sessions) ↔ PrerequisitesBelow sessions := by
  have permutation := sortBy_perm bloomRank sessions
  have sortedDistinct : ((sortBy bloomRank sessions).map (·.sessionId)).Nodup :=
    (permutation.map _).nodup_iff.mpr distinct
  constructor
  · intro sortedOrdered
    have below := prerequisitesBelow_of_ascending sortedDistinct
      (pairwise_sortBy bloomRank sessions) sortedOrdered
    intro session mem earlier earlierMem
    exact below session (mem_sortBy.mpr mem) earlier (mem_sortBy.mpr earlierMem)
  · intro below session sortedMem required isRequired
    have mem : session ∈ sessions := mem_sortBy.mp sortedMem
    obtain ⟨earlier, sameId, before⟩ :=
      (sublist_sessionIds_iff distinct mem).mp (ordered session mem required isRequired)
    have earlierMem : earlier ∈ sessions := before.subset mem_cons_self
    have lower := below session mem earlier earlierMem (sameId ▸ isRequired)
    exact (sublist_sessionIds_iff sortedDistinct sortedMem).mpr
      ⟨earlier, sameId, sublist_sortBy lower before⟩

end

/-! ## The repair -/

/-- What the repair makes of a sequence. -/
structure Repaired (casefold : String → String) (sequence result : UnitSequence δ ε) : Prop where
  permutation : (result.sessions.map unnumbered).Perm (sequence.sessions.map unnumbered)
  details : result.details = sequence.details
  noHard : hardCritiques casefold result = []
  unchanged : hardCritiques casefold sequence = [] → result = sequence
  numbered : hardCritiques casefold sequence ≠ [] →
    result.sessions.map (·.orderIndex) = List.range' 1 result.sessions.length
  prerequisites : PrerequisitesFirst sequence.sessions →
    (PrerequisitesFirst result.sessions ↔ PrerequisitesBelow sequence.sessions)

theorem ascending_renumbered (ascending : Ascending sessions) :
    Ascending (renumbered sessions atMost) := by
  have moved : ((renumbered sessions atMost).map unnumbered).Pairwise
      fun earlier later => bloomRank earlier ≤ bloomRank later := by
    rw [map_unnumbered_renumbered, pairwise_map]
    exact ascending
  rwa [pairwise_map] at moved

theorem repairHardCritiques_repaired (casefold : String → String) (sequence : UnitSequence δ ε)
    (distinct : (sequence.sessions.map (·.sessionId)).Nodup) :
    Repaired casefold sequence (repairHardCritiques casefold sequence) := by
  by_cases isFree : hardCritiques casefold sequence = []
  · have same : repairHardCritiques casefold sequence = sequence := if_pos isFree
    have ascending := hardCritiques_eq_nil_iff.mp isFree
    rw [same]
    exact
      { permutation := .refl _
        details := rfl
        noHard := isFree
        unchanged := fun _ => rfl
        numbered := fun isHard => absurd isFree isHard
        prerequisites := fun ordered =>
          iff_of_true ordered (prerequisitesBelow_of_ascending distinct ascending ordered) }
  · have repaired : (repairHardCritiques casefold sequence).sessions =
        renumbered (sortBy bloomRank sequence.sessions) (length_sortBy_le sequence) := by
      rw [repairHardCritiques, if_neg isFree]
    exact
      { permutation := by
          rw [repaired]
          exact map_unnumbered_repaired_perm
        details := by rw [repairHardCritiques, if_neg isFree]
        noHard := by
          rw [hardCritiques_eq_nil_iff, repaired]
          exact ascending_renumbered (pairwise_sortBy bloomRank sequence.sessions)
        unchanged := fun free => absurd free isFree
        numbered := fun _ => by
          rw [repaired, map_orderIndex_renumbered, renumbered, length_mapFinIdx]
        prerequisites := fun ordered => by
          rw [repaired, prerequisitesFirst_congr map_unnumbered_renumbered]
          exact prerequisitesFirst_sortBy_iff distinct ordered }

/-- A unit of two sessions, the second of which needs the first. -/
def applyBeforeRemember : UnitSequence Unit Unit where
  sessions :=
    [{ sessionId := "S01", orderIndex := 1, prerequisiteSessions := [],
       sessionIdLength := by decide, orderIndexRange := first_inRange,
       subTopic := "Fractions practice", bloomLevelPrimary := .apply, details := () },
     { sessionId := "S02", orderIndex := 2, prerequisiteSessions := ["S01"],
       sessionIdLength := by decide, orderIndexRange := second_inRange,
       subTopic := "Fraction vocabulary", bloomLevelPrimary := .remember, details := () }]
  details := ()
  sessionCount := by decide
  references := by
    rw [forall_references_iff]
    decide

theorem repairHardCritiques_applyBeforeRemember :
    Repaired id applyBeforeRemember (repairHardCritiques id applyBeforeRemember) :=
  repairHardCritiques_repaired id applyBeforeRemember (by decide)

/-- A single session that is numbered second. -/
def secondOnly : UnitSequence Unit Unit where
  sessions :=
    [{ sessionId := "S01", orderIndex := 2, prerequisiteSessions := [],
       sessionIdLength := by decide, orderIndexRange := second_inRange,
       subTopic := "Fractions practice", bloomLevelPrimary := .apply, details := () }]
  details := ()
  sessionCount := by decide
  references := by
    rw [forall_references_iff]
    decide

/-- The repair moves a session before the one it needs, and leaves the numbers
of a sequence without hard critiques alone. -/
theorem repair_moves_before_prerequisite :
    ((applyBeforeRemember.sessions.map (·.sessionId)).Nodup ∧
        PrerequisitesFirst applyBeforeRemember.sessions ∧
        ¬ PrerequisitesFirst
          (repairHardCritiques id applyBeforeRemember).sessions) ∧
      ((secondOnly.sessions.map (·.sessionId)).Nodup ∧
        (repairHardCritiques id secondOnly).sessions.map (·.orderIndex) ≠ List.range' 1 1) := by
  have ordered : PrerequisitesFirst applyBeforeRemember.sessions := by
    unfold PrerequisitesFirst
    decide
  refine ⟨⟨by decide, ordered, ?_⟩, by decide, by decide⟩
  unfold PrerequisitesFirst
  decide

end

end OhMyClass.UnitPlanner
