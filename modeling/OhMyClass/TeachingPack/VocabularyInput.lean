import Mathlib.Data.List.Nodup
import OhMyClass.Gateway.Snapshots.AnswerKeys
import OhMyClass.Raising.Core
import OhMyClass.TeachingPack.VocabularyContracts
import OhMyClass.Text.Core

/-!
# Normalization of vocabulary input

The lines of an input are titles, notes or lines of terms.  Every line of
terms is a candidate, which becomes a cluster or an ambiguous entry.
-/

namespace OhMyClass.TeachingPack.Vocabulary

open List OhMyClass.Raising OhMyClass.Text
open OhMyClass.Gateway (isSpace)

/-- The line boundaries of `str.splitlines`. -/
def isLineBreak (c : Char) : Bool :=
  ['\n', '\r', '\x0b', '\x0c', '\x1c', '\x1d', '\x1e', '\u0085', '\u2028', '\u2029'].contains c

/-- `text.splitlines()`, after the beginning of a line; a line feed right after
a carriage return belongs to the same boundary. -/
def splitLinesFrom (afterReturn : Bool) (line : List Char) : List Char → List (List Char)
  | [] => if line = [] then [] else [line]
  | c :: rest =>
    if afterReturn && c == '\n' then splitLinesFrom false line rest
    else if isLineBreak c then line :: splitLinesFrom (c == '\r') [] rest
    else splitLinesFrom false (line ++ [c]) rest

def splitLines (text : List Char) : List (List Char) :=
  splitLinesFrom false [] text

def titlePrefixes : List String :=
  ["chủ đề:", "chu de:", "title:", "topic:"]

def notePrefixes : List String :=
  ["note:", "notes:", "ghi chú:", "ghi chu:"]

def isSeparator (c : Char) : Bool :=
  ['/', ',', ';', '|'].contains c

/-- `\s*(?:[/,;|]+|\s{2,})\s*`. -/
def termSplitPattern : Regex :=
  let spaces := Regex.many true isSpace
  .seq spaces <|
  .seq (.alt (.seq (.one isSeparator) (.many true isSeparator))
    (.seq (.one isSpace) (.seq (.one isSpace) spaces))) spaces

def stripPrefixedValue (line lowered : List Char) (marks : List String) : Option String :=
  (marks.find? fun mark => mark.toList.isPrefixOf lowered).map fun mark =>
    String.ofList (trim isSpace (line.drop mark.length))

inductive LineKind where
  | title (value : String)
  | note (value : String)
  | terms (terms : List String)
  | separators
  deriving DecidableEq

structure InputLine where
  text : String
  kind : LineKind
  deriving DecidableEq

section Lines

-- `str.lower`.
variable (lower : List Char → List Char)

def termsFromLine (line : List Char) : List String :=
  let terms := if line.any isSeparator then termSplitPattern.splitAll line
    else line.splitOnP isSpace
  ((terms.map (trim isSpace)).filter fun term => term ≠ []).map fun term =>
    String.ofList (lower term)

def lineKind (line : List Char) : LineKind :=
  match stripPrefixedValue line (lower line) titlePrefixes with
  | some title => .title title
  | none =>
    match stripPrefixedValue line (lower line) notePrefixes with
    | some note => .note note
    | none =>
      match termsFromLine lower line with
      | [] => .separators
      | terms => .terms terms

/-- The lines that are not blank, stripped. -/
def inputLines (rawInput : List Char) : List InputLine :=
  (((splitLines rawInput).map (trim isSpace)).filter fun line => line ≠ []).map fun line =>
    ⟨String.ofList line, lineKind lower line⟩

end Lines

structure ClusterCandidate where
  rawInputSpan : String
  terms : List String
  titleHint : Option String
  notes : List String

structure ParseState where
  candidates : List ClusterCandidate
  currentTitle : Option String
  currentNotes : List String
  lastCandidateIndex : Option Nat

/-- The body of the loop over the lines. -/
def parseLine (state : ParseState) (line : InputLine) : ParseState :=
  match line.kind with
  | .title title => { state with currentTitle := some title }
  | .note note =>
    match state.lastCandidateIndex with
    | none => { state with currentNotes := state.currentNotes ++ [note] }
    | some index =>
      { state with candidates := state.candidates.modify index fun previous =>
          { previous with notes := previous.notes ++ [note] } }
  | .separators => state
  | .terms terms =>
    { candidates := state.candidates ++
        [⟨line.text, terms, state.currentTitle, state.currentNotes⟩]
      currentTitle := none
      currentNotes := []
      lastCandidateIndex := some state.candidates.length }

def parseCandidates (lines : List InputLine) : List ClusterCandidate :=
  (lines.foldl parseLine ⟨[], none, [], none⟩).candidates

/-! ## Normalization -/

inductive ValidationError where
  | normalizedCluster
  | ambiguousCluster

structure Normalization where
  seenTerms : List (String × String)
  readyClusters : List NormalizedVocabularyCluster
  ambiguousClusters : List AmbiguousVocabularyCluster
  clarifyingQuestions : List String

/-- `NormalizedVocabularyCluster(...)` of a candidate. -/
def normalizedCluster (clusterId : String) (candidate : ClusterCandidate)
    (confidence : FloatLiteral) : Except ValidationError NormalizedVocabularyCluster :=
  if fits : (1 ≤ clusterId.length ∧ clusterId.length ≤ 120) ∧ 2 ≤ candidate.terms.length ∧
      (1 ≤ candidate.rawInputSpan.length ∧ candidate.rawInputSpan.length ≤ 1000) ∧
      ∀ title ∈ candidate.titleHint, title.length ≤ 200 then
    .ok
      { clusterId := clusterId
        terms := candidate.terms
        rawInputSpan := candidate.rawInputSpan
        titleHint := candidate.titleHint
        notes := candidate.notes
        confidence := confidence
        clusterId_length := fits.1
        terms_length := fits.2.1
        rawInputSpan_length := fits.2.2.1
        titleHint_length := fits.2.2.2 }
  else
    .error .normalizedCluster

def ambiguous (index : Nat) (rawInputSpan : String) (terms : List String) (reason : String)
    (confidence : FloatLiteral) : Except ValidationError AmbiguousVocabularyCluster :=
  let spanId := "ambiguous-" ++ toString index
  if fits : (1 ≤ spanId.length ∧ spanId.length ≤ 120) ∧
      (1 ≤ rawInputSpan.length ∧ rawInputSpan.length ≤ 1000) ∧
      1 ≤ reason.length ∧ reason.length ≤ 500 then
    .ok
      { spanId := spanId
        rawInputSpan := rawInputSpan
        terms := terms
        reason := reason
        confidence := confidence
        spanId_length := fits.1
        rawInputSpan_length := fits.2.1
        reason_length := fits.2.2 }
  else
    .error .ambiguousCluster

/-- `seen_terms.setdefault(term, cluster_id)`. -/
def setDefault (seen : List (String × String)) (clusterId term : String) :
    List (String × String) :=
  if seen.any fun entry => entry.1 = term then seen else seen ++ [(term, clusterId)]

def duplicateTerms (terms : List String) : List String :=
  terms.filter fun term => 1 < terms.count term

/-- The entry of a candidate and the question about it. -/
def addAmbiguous (state : Normalization) (index : Nat) (rawInputSpan : String)
    (terms : List String) (reason : String) (confidence : FloatLiteral) (question : String) :
    Except ValidationError Normalization :=
  (ambiguous index rawInputSpan terms reason confidence).map fun entry =>
    { state with
      ambiguousClusters := state.ambiguousClusters ++ [entry]
      clarifyingQuestions := state.clarifyingQuestions ++ [question] }

/-- The cluster of a candidate, whose terms are seen from now on. -/
def addReady (state : Normalization) (candidate : ClusterCandidate) (confidence : FloatLiteral) :
    Except ValidationError Normalization :=
  let clusterId := "cluster-" ++ toString (state.readyClusters.length + 1)
  (normalizedCluster clusterId candidate confidence).map fun cluster =>
    { state with
      readyClusters := state.readyClusters ++ [cluster]
      seenTerms := candidate.terms.foldl (fun seen term => setDefault seen clusterId term)
        state.seenTerms }

/-- The body of the loop over the candidates. -/
def normalizeCandidate (state : Normalization) (index : Nat) (candidate : ClusterCandidate) :
    Except ValidationError Normalization :=
  let overlapping := candidate.terms.filter fun term => state.seenTerms.any fun entry =>
    entry.1 = term
  if candidate.terms.length < 2 then
    addAmbiguous state index candidate.rawInputSpan candidate.terms "Only one term was found."
      ⟨"0.35", by decide⟩
      ("For ‘" ++ candidate.rawInputSpan ++ "’, what terms should it be contrasted with?")
  else
    match duplicateTerms candidate.terms with
    | duplicate :: _ =>
      addAmbiguous state index candidate.rawInputSpan candidate.terms
        ("Duplicate term detected: " ++ duplicate) ⟨"0.45", by decide⟩
        ("Should ‘" ++ duplicate ++ "’ appear once, or did you mean a different term?")
    | [] =>
      match overlapping with
      | [] => addReady state candidate ⟨"0.94", by decide⟩
      | overlap :: _ => do
        let flagged ← addAmbiguous state index candidate.rawInputSpan overlapping
          ("Overlaps with an earlier cluster: " ++ overlap) ⟨"0.55", by decide⟩
          ("Should ‘" ++ overlap ++
            "’ stay in both clusters or be split into one contrast set?")
        addReady flagged candidate ⟨"0.82", by decide⟩

def normalizeFrom (state : Normalization) (index : Nat) :
    List ClusterCandidate → Except ValidationError Normalization
  | [] => .ok state
  | candidate :: rest => do
    let next ← normalizeCandidate state index candidate
    normalizeFrom next (index + 1) rest

def normalizeVocabularyInput (lower : List Char → List Char) (rawInput : List Char) :
    Except ValidationError InputNormalizationReport := do
  let candidates := parseCandidates (inputLines lower rawInput)
  let normalization ← normalizeFrom ⟨[], [], [], []⟩ 1 candidates
  let skippedSpans := if candidates = [] then [String.ofList (trim isSpace rawInput)] else []
  return {
    reportId := "normalization-1"
    readyClusters := normalization.readyClusters
    ambiguousClusters := normalization.ambiguousClusters
    clarifyingQuestions := normalization.clarifyingQuestions
    skippedSpans := skippedSpans.filter fun span => span ≠ ""
    reportId_length := by decide }

/-- Terms of a ready cluster: at least two, all distinct. -/
def IsReady (terms : List String) : Prop :=
  2 ≤ terms.length ∧ terms.Nodup
  deriving Decidable

/-- The notes up to the next line of terms. -/
def notesUntilTerms : List InputLine → List String
  | [] => []
  | line :: rest =>
    match line.kind with
    | .note note => note :: notesUntilTerms rest
    | .terms _ => []
    | _ => notesUntilTerms rest

/-- The candidates of lines that follow a line of terms. -/
def laterCandidates (title : Option String) : List InputLine → List ClusterCandidate
  | [] => []
  | line :: rest =>
    match line.kind with
    | .title value => laterCandidates (some value) rest
    | .terms terms =>
      ⟨line.text, terms, title, notesUntilTerms rest⟩ :: laterCandidates none rest
    | _ => laterCandidates title rest

/-- The candidates of lines before which no line of terms stands. -/
def firstCandidates (title : Option String) (notes : List String) :
    List InputLine → List ClusterCandidate
  | [] => []
  | line :: rest =>
    match line.kind with
    | .title value => firstCandidates (some value) notes rest
    | .note note => firstCandidates title (notes ++ [note]) rest
    | .separators => firstCandidates title notes rest
    | .terms terms =>
      ⟨line.text, terms, title, notes ++ notesUntilTerms rest⟩ :: laterCandidates none rest

/-- Every line of terms with its title and its notes: a title belongs to the
next line of terms, a note to the last one, or to the first one. -/
def candidatesOf (lines : List InputLine) : List ClusterCandidate :=
  firstCandidates none [] lines

theorem modify_concat {α : Type} (change : α → α) (items : List α) (last : α) :
    (items ++ [last]).modify items.length change = items ++ [change last] := by
  induction items with
  | nil => rfl
  | cons item rest ih => exact congrArg (item :: ·) ih

theorem candidates_foldl (earlier : List ClusterCandidate) (last : ClusterCandidate)
    (title : Option String) (lines : List InputLine) :
    (lines.foldl parseLine ⟨earlier ++ [last], title, [], some earlier.length⟩).candidates =
      earlier ++ { last with notes := last.notes ++ notesUntilTerms lines } ::
        laterCandidates title lines := by
  induction lines generalizing earlier last title with
  | nil => simp [notesUntilTerms, laterCandidates]
  | cons line rest ih =>
    rcases line with ⟨text, kind⟩
    cases kind with
    | title value => exact ih earlier last (some value)
    | separators => exact ih earlier last title
    | note note =>
      rw [List.foldl_cons]
      simp only [parseLine, modify_concat]
      rw [ih earlier { last with notes := last.notes ++ [note] } title]
      simp [notesUntilTerms, laterCandidates]
    | terms terms =>
      rw [List.foldl_cons]
      have reached := ih (earlier ++ [last]) ⟨text, terms, title, []⟩ none
      rw [length_append, length_singleton] at reached
      simp only [parseLine, length_append, length_singleton]
      rw [reached]
      simp [notesUntilTerms, laterCandidates]

theorem candidates_foldl_first (title : Option String) (notes : List String)
    (lines : List InputLine) :
    (lines.foldl parseLine ⟨[], title, notes, none⟩).candidates =
      firstCandidates title notes lines := by
  induction lines generalizing title notes with
  | nil => rfl
  | cons line rest ih =>
    rcases line with ⟨text, kind⟩
    cases kind with
    | title value => exact ih (some value) notes
    | separators => exact ih title notes
    | note note => exact ih title (notes ++ [note])
    | terms terms => exact candidates_foldl [] ⟨text, terms, title, notes⟩ none rest

theorem parseCandidates_eq (lines : List InputLine) : parseCandidates lines = candidatesOf lines :=
  candidates_foldl_first none [] lines

/-- The terms of the ready clusters among the candidates. -/
def termsSeen (earlier : List ClusterCandidate) : List String :=
  (earlier.filter fun candidate => IsReady candidate.terms).flatMap (·.terms)

/-- Why a candidate has an entry in the ambiguous list, if it has one. -/
def entryReason (earlier : List ClusterCandidate) (candidate : ClusterCandidate) :
    Option String :=
  if candidate.terms.length < 2 then
    some "Only one term was found."
  else
    match duplicateTerms candidate.terms with
    | duplicate :: _ => some ("Duplicate term detected: " ++ duplicate)
    | [] => (candidate.terms.find? fun term => term ∈ termsSeen earlier).map fun overlap =>
        "Overlaps with an earlier cluster: " ++ overlap

def clusterIdAt (number : Nat) : String :=
  "cluster-" ++ toString number

def spanIdAt (number : Nat) : String :=
  "ambiguous-" ++ toString number

/-- The records of a candidate have the lengths their contracts allow. -/
structure CandidateFits (earlier : List ClusterCandidate) (candidate : ClusterCandidate) :
    Prop where
  span : candidate.rawInputSpan.length ≤ 1000
  ready : IsReady candidate.terms → (∀ title ∈ candidate.titleHint, title.length ≤ 200) ∧
    (clusterIdAt ((earlier.filter fun other => IsReady other.terms).length + 1)).length ≤ 120
  entry : ∀ reason ∈ entryReason earlier candidate, reason.length ≤ 500 ∧
    (spanIdAt (earlier.length + 1)).length ≤ 120

/-- The candidates with an entry, each after the candidates before it. -/
def flaggedFrom (earlier : List ClusterCandidate) :
    List ClusterCandidate → List (List ClusterCandidate × ClusterCandidate)
  | [] => []
  | candidate :: rest =>
    (if (entryReason earlier candidate).isSome then [(earlier, candidate)] else []) ++
      flaggedFrom (earlier ++ [candidate]) rest

theorem flaggedFrom_concat (earlier candidates : List ClusterCandidate)
    (candidate : ClusterCandidate) :
    flaggedFrom earlier (candidates ++ [candidate]) = flaggedFrom earlier candidates ++
      if (entryReason (earlier ++ candidates) candidate).isSome then
        [(earlier ++ candidates, candidate)] else [] := by
  induction candidates generalizing earlier with
  | nil => simp [flaggedFrom]
  | cons first rest ih =>
    rw [cons_append, flaggedFrom, ih, flaggedFrom]
    simp

/-- An entry is about its candidate, and lists the terms a ready one repeats. -/
structure EntryOf (entry : AmbiguousVocabularyCluster)
    (place : List ClusterCandidate × ClusterCandidate) : Prop where
  spanId : entry.spanId = spanIdAt (place.1.length + 1)
  rawInputSpan : entry.rawInputSpan = place.2.rawInputSpan
  repeated : IsReady place.2.terms → ∀ term ∈ place.2.terms, term ∈ termsSeen place.1 →
    term ∈ entry.terms

/-- The candidate that a cluster was made of. -/
def candidateOf (cluster : NormalizedVocabularyCluster) : ClusterCandidate :=
  ⟨cluster.rawInputSpan, cluster.terms, cluster.titleHint, cluster.notes⟩

/-- The state of the loop after the candidates. -/
structure Describes (candidates : List ClusterCandidate) (state : Normalization) : Prop where
  seen : ∀ term, (state.seenTerms.any fun entry => entry.1 = term) = true ↔
    term ∈ termsSeen candidates
  ready : state.readyClusters.map candidateOf =
    candidates.filter fun candidate => IsReady candidate.terms
  ids : state.readyClusters.map (·.clusterId) =
    (List.range state.readyClusters.length).map fun place => clusterIdAt (place + 1)
  entries : List.Forall₂ EntryOf state.ambiguousClusters (flaggedFrom [] candidates)
  questions : state.clarifyingQuestions.length = state.ambiguousClusters.length

variable {terms : List String}

theorem duplicateTerms_eq_nil_iff : duplicateTerms terms = [] ↔ terms.Nodup := by
  rw [duplicateTerms, filter_eq_nil_iff, nodup_iff_count_le_one]
  constructor
  · intro none term
    by_cases mem : term ∈ terms
    · simpa using none term mem
    · rw [count_eq_zero_of_not_mem mem]
      exact Nat.zero_le 1
  · intro unique term _
    simpa using unique term

variable {seen : List (String × String)} {clusterId other : String}

theorem any_setDefault {term : String} :
    ((setDefault seen clusterId term).any fun entry => entry.1 = other) = true ↔
      (seen.any fun entry => entry.1 = other) = true ∨ other = term := by
  unfold setDefault
  split
  · next known =>
    refine ⟨.inl, ?_⟩
    rintro (isSeen | rfl)
    · exact isSeen
    · exact known
  · rw [any_append, Bool.or_eq_true, any_cons, any_nil, Bool.or_false,
      decide_eq_true_iff, eq_comm (a := term)]

theorem any_foldl_setDefault (terms : List String) :
    ((terms.foldl (fun seen term => setDefault seen clusterId term) seen).any fun entry =>
        entry.1 = other) = true ↔
      (seen.any fun entry => entry.1 = other) = true ∨ other ∈ terms := by
  induction terms generalizing seen with
  | nil => simp
  | cons term rest ih => rw [List.foldl_cons, ih, any_setDefault, mem_cons, or_assoc]

theorem one_le_length_append {start : String} (nonempty : 1 ≤ start.length) (rest : String) :
    1 ≤ (start ++ rest).length := by
  rw [String.length_append]
  exact Nat.le_add_right_of_le nonempty

/-! ## The loop over the candidates -/

section Loop

variable {earlier : List ClusterCandidate} {candidate : ClusterCandidate}
  {state next : Normalization} {index : Nat} {rawInputSpan reason question : String}
  {terms : List String} {confidence : FloatLiteral}

theorem addAmbiguous_of_fits (span : 1 ≤ rawInputSpan.length ∧ rawInputSpan.length ≤ 1000)
    (reasons : 1 ≤ reason.length ∧ reason.length ≤ 500) (short : (spanIdAt index).length ≤ 120) :
    ∃ next, addAmbiguous state index rawInputSpan terms reason confidence question = .ok next ∧
      next.readyClusters = state.readyClusters := by
  unfold addAmbiguous ambiguous
  rw [dif_pos ⟨⟨one_le_length_append (by decide) _, short⟩, span, reasons⟩]
  exact ⟨_, rfl, rfl⟩

theorem of_addAmbiguous
    (added : addAmbiguous state index rawInputSpan terms reason confidence question = .ok next) :
    (rawInputSpan.length ≤ 1000 ∧ reason.length ≤ 500 ∧ (spanIdAt index).length ≤ 120) ∧
      ∃ entry : AmbiguousVocabularyCluster, next =
          { state with
            ambiguousClusters := state.ambiguousClusters ++ [entry]
            clarifyingQuestions := state.clarifyingQuestions ++ [question] } ∧
        entry.spanId = spanIdAt index ∧ entry.rawInputSpan = rawInputSpan ∧
        entry.terms = terms := by
  unfold addAmbiguous ambiguous at added
  dsimp only at added
  split at added
  · next fits =>
    cases added
    exact ⟨⟨fits.2.1.2, fits.2.2.2, fits.1.2⟩, _, rfl, rfl, rfl, rfl⟩
  · cases added

theorem addReady_of_fits (short : (clusterIdAt (state.readyClusters.length + 1)).length ≤ 120)
    (two : 2 ≤ candidate.terms.length)
    (span : 1 ≤ candidate.rawInputSpan.length ∧ candidate.rawInputSpan.length ≤ 1000)
    (titles : ∀ title ∈ candidate.titleHint, title.length ≤ 200) :
    ∃ next, addReady state candidate confidence = .ok next := by
  unfold addReady normalizedCluster
  dsimp only
  rw [dif_pos ⟨⟨one_le_length_append (by decide) _, short⟩, two, span, titles⟩]
  exact ⟨_, rfl⟩

theorem of_addReady (added : addReady state candidate confidence = .ok next) :
    ((clusterIdAt (state.readyClusters.length + 1)).length ≤ 120 ∧
        candidate.rawInputSpan.length ≤ 1000 ∧
        ∀ title ∈ candidate.titleHint, title.length ≤ 200) ∧
      ∃ cluster, candidateOf cluster = candidate ∧
        cluster.clusterId = clusterIdAt (state.readyClusters.length + 1) ∧ next =
          { state with
            readyClusters := state.readyClusters ++ [cluster]
            seenTerms := candidate.terms.foldl (fun seen term =>
              setDefault seen (clusterIdAt (state.readyClusters.length + 1)) term)
              state.seenTerms } := by
  unfold addReady normalizedCluster at added
  dsimp only at added
  split at added
  · next fits =>
    cases added
    exact ⟨⟨fits.1.2, fits.2.2.1.2, fits.2.2.2⟩, _, rfl, rfl, rfl⟩
  · cases added

theorem termsSeen_concat_of_not_ready (unready : ¬ IsReady candidate.terms) :
    termsSeen (earlier ++ [candidate]) = termsSeen earlier := by
  rw [termsSeen, termsSeen]
  simp [unready]

theorem termsSeen_concat_of_ready (ready : IsReady candidate.terms) :
    termsSeen (earlier ++ [candidate]) = termsSeen earlier ++ candidate.terms := by
  rw [termsSeen, termsSeen]
  simp [ready]

theorem isReady_iff : IsReady terms ↔ ¬ terms.length < 2 ∧ duplicateTerms terms = [] := by
  rw [duplicateTerms_eq_nil_iff, not_lt]
  rfl

section

variable (describes : Describes earlier state)

include describes

theorem Describes.overlapping :
    (candidate.terms.filter fun term => state.seenTerms.any fun entry => entry.1 = term) =
      candidate.terms.filter fun term => term ∈ termsSeen earlier := by
  refine filter_congr fun term _ => ?_
  rw [Bool.eq_iff_iff, describes.seen, decide_eq_true_iff]

theorem Describes.addEntry {entry : AmbiguousVocabularyCluster}
    (unready : ¬ IsReady candidate.terms) (flagged : (entryReason earlier candidate).isSome = true)
    (spanId : entry.spanId = spanIdAt (earlier.length + 1))
    (span : entry.rawInputSpan = candidate.rawInputSpan) :
    Describes (earlier ++ [candidate])
      { state with
        ambiguousClusters := state.ambiguousClusters ++ [entry]
        clarifyingQuestions := state.clarifyingQuestions ++ [question] } where
  seen := by
    rw [termsSeen_concat_of_not_ready unready]
    exact describes.seen
  ready := by
    rw [filter_append, ← describes.ready]
    simp [unready]
  ids := describes.ids
  entries := by
    rw [flaggedFrom_concat, nil_append, if_pos flagged]
    exact rel_append describes.entries
      (.cons ⟨spanId, span, fun ready => absurd ready unready⟩ .nil)
  questions := by
    rw [length_append, length_append, describes.questions]
    rfl

theorem Describes.addCluster {cluster : NormalizedVocabularyCluster}
    {entries : List AmbiguousVocabularyCluster} {questions : List String}
    (ready : IsReady candidate.terms) (made : candidateOf cluster = candidate)
    (clusterId : cluster.clusterId = clusterIdAt (state.readyClusters.length + 1))
    (flagged : List.Forall₂ EntryOf entries
      (if (entryReason earlier candidate).isSome then [(earlier, candidate)] else []))
    (asked : questions.length = entries.length) :
    Describes (earlier ++ [candidate])
      { readyClusters := state.readyClusters ++ [cluster]
        seenTerms := candidate.terms.foldl (fun seen term =>
          setDefault seen (clusterIdAt (state.readyClusters.length + 1)) term) state.seenTerms
        ambiguousClusters := state.ambiguousClusters ++ entries
        clarifyingQuestions := state.clarifyingQuestions ++ questions } where
  seen term := by
    rw [any_foldl_setDefault, describes.seen, termsSeen_concat_of_ready ready, mem_append]
  ready := by
    rw [filter_append, ← describes.ready]
    simp [ready, made]
  ids := by
    rw [map_append, describes.ids, length_append, length_singleton,
      range_succ, map_append, map_singleton, map_singleton, clusterId]
  entries := by
    rw [flaggedFrom_concat]
    exact rel_append describes.entries flagged
  questions := by
    rw [length_append, length_append, describes.questions, asked]

theorem Describes.length_ready :
    (earlier.filter fun other => IsReady other.terms).length = state.readyClusters.length := by
  rw [← describes.ready, length_map]

end

theorem entryReason_of_few (few : candidate.terms.length < 2) :
    entryReason earlier candidate = some "Only one term was found." :=
  if_pos few

theorem entryReason_of_duplicate {duplicate : String} {others : List String}
    (many : ¬ candidate.terms.length < 2)
    (repeated : duplicateTerms candidate.terms = duplicate :: others) :
    entryReason earlier candidate = some ("Duplicate term detected: " ++ duplicate) := by
  rw [entryReason, if_neg many, repeated]

theorem entryReason_of_ready (ready : IsReady candidate.terms) :
    entryReason earlier candidate =
      (candidate.terms.filter fun term => term ∈ termsSeen earlier).head?.map fun overlap =>
        "Overlaps with an earlier cluster: " ++ overlap := by
  rw [isReady_iff] at ready
  rw [entryReason, if_neg ready.1, ready.2, List.head?_filter]

section

variable (describes : Describes earlier state)

include describes

theorem of_addAmbiguous_unready (unready : ¬ IsReady candidate.terms)
    (isReason : entryReason earlier candidate = some reason)
    (added : addAmbiguous state (earlier.length + 1) candidate.rawInputSpan terms reason
      confidence question = .ok next) :
    CandidateFits earlier candidate ∧ Describes (earlier ++ [candidate]) next := by
  obtain ⟨⟨span, lengths⟩, entry, rfl, spanId, isSpan, _⟩ := of_addAmbiguous added
  refine ⟨⟨span, fun ready => absurd ready unready, ?_⟩,
    describes.addEntry unready (by rw [isReason]; rfl) spanId isSpan⟩
  rw [isReason]
  rintro _ ⟨⟩
  exact lengths

theorem of_normalizeCandidate
    (normalized : normalizeCandidate state (earlier.length + 1) candidate = .ok next) :
    CandidateFits earlier candidate ∧ Describes (earlier ++ [candidate]) next := by
  unfold normalizeCandidate at normalized
  simp only [describes.overlapping] at normalized
  split at normalized
  · next few =>
    exact of_addAmbiguous_unready describes (fun ready => (isReady_iff.mp ready).1 few)
      (entryReason_of_few few) normalized
  next many =>
    split at normalized
    · next duplicate others repeated =>
      have unready : ¬ IsReady candidate.terms := by
        rw [isReady_iff, repeated]
        simp
      exact of_addAmbiguous_unready describes unready (entryReason_of_duplicate many repeated)
        normalized
    · next unique =>
      have ready : IsReady candidate.terms := isReady_iff.mpr ⟨many, unique⟩
      have reason : entryReason earlier candidate = _ := entryReason_of_ready ready
      split at normalized
      · next fresh =>
        rw [fresh] at reason
        have noEntry : List.Forall₂ EntryOf []
            (if (entryReason earlier candidate).isSome then [(earlier, candidate)] else []) := by
          rw [reason]
          exact .nil
        have noQuestion : ([] : List String).length = ([] : List AmbiguousVocabularyCluster).length :=
          rfl
        obtain ⟨⟨short, span, titles⟩, cluster, made, clusterId, rfl⟩ := of_addReady normalized
        refine ⟨⟨span, fun _ => ⟨titles, by rwa [describes.length_ready]⟩, ?_⟩, ?_⟩
        · rw [reason]
          nofun
        · have added := describes.addCluster ready made clusterId noEntry noQuestion
          rwa [append_nil, append_nil] at added
      · next overlap others overlaps =>
        rw [overlaps, List.head?_cons, Option.map_some] at reason
        obtain ⟨between, flagged, normalized⟩ := bind_eq_ok.mp normalized
        obtain ⟨⟨_, lengths⟩, entry, rfl, spanId, isSpan, terms⟩ := of_addAmbiguous flagged
        obtain ⟨⟨short, span, titles⟩, cluster, made, clusterId, rfl⟩ := of_addReady normalized
        refine ⟨⟨span, fun _ => ⟨titles, by rwa [describes.length_ready]⟩, ?_⟩, ?_⟩
        · rw [reason]
          rintro _ ⟨⟩
          exact lengths
        · refine describes.addCluster ready made clusterId ?_ rfl
          rw [reason, Option.isSome_some]
          refine .cons ⟨spanId, isSpan, fun _ term mem isSeen => ?_⟩ .nil
          rw [terms]
          exact mem_filter.mpr ⟨mem, decide_eq_true isSeen⟩

theorem normalizeCandidate_of_fits (nonblank : 1 ≤ candidate.rawInputSpan.length)
    (fits : CandidateFits earlier candidate) :
    ∃ next, normalizeCandidate state (earlier.length + 1) candidate = .ok next := by
  unfold normalizeCandidate
  simp only [describes.overlapping]
  split
  · next few =>
    have lengths := fits.entry _ (entryReason_of_few few)
    exact (addAmbiguous_of_fits ⟨nonblank, fits.span⟩ ⟨by decide, lengths.1⟩ lengths.2).imp
      fun _ => And.left
  next many =>
    split
    · next duplicate others repeated =>
      have lengths := fits.entry _ (entryReason_of_duplicate many repeated)
      exact (addAmbiguous_of_fits ⟨nonblank, fits.span⟩
        ⟨one_le_length_append (by decide) _, lengths.1⟩ lengths.2).imp fun _ => And.left
    · next unique =>
      have ready : IsReady candidate.terms := isReady_iff.mpr ⟨many, unique⟩
      have reason : entryReason earlier candidate = _ := entryReason_of_ready ready
      have ids := (fits.ready ready).2
      rw [describes.length_ready] at ids
      split
      · exact addReady_of_fits ids ready.1 ⟨nonblank, fits.span⟩ (fits.ready ready).1
      · next overlap others overlaps =>
        rw [overlaps] at reason
        have lengths := fits.entry _ reason
        obtain ⟨between, flagged, kept⟩ := addAmbiguous_of_fits
          ⟨nonblank, fits.span⟩ ⟨one_le_length_append (by decide) _, lengths.1⟩ lengths.2
        rw [flagged]
        rw [← kept] at ids
        exact addReady_of_fits ids ready.1 ⟨nonblank, fits.span⟩ (fits.ready ready).1

theorem normalizeFrom_ok_iff (later : List ClusterCandidate)
    (nonblank : ∀ other ∈ later, 1 ≤ other.rawInputSpan.length) :
    (∃ last, normalizeFrom state (earlier.length + 1) later = .ok last) ↔
      ∀ before other after, later = before ++ other :: after →
        CandidateFits (earlier ++ before) other := by
  induction later generalizing earlier state with
  | nil =>
    refine iff_of_true ⟨state, rfl⟩ fun before other after split => ?_
    exact absurd split.symm (append_ne_nil_of_right_ne_nil _ (cons_ne_nil _ _))
  | cons candidate rest ih =>
    have tail {between : Normalization} (described : Describes (earlier ++ [candidate]) between) :
        (∃ last, normalizeFrom between (earlier.length + 1 + 1) rest = .ok last) ↔
          ∀ before other after, rest = before ++ other :: after →
            CandidateFits (earlier ++ candidate :: before) other := by
      have reached := ih described fun other mem => nonblank other (mem_cons_of_mem _ mem)
      simpa using reached
    constructor
    · rintro ⟨last, normalized⟩ before other after split
      obtain ⟨between, first, normalized⟩ := bind_eq_ok.mp normalized
      obtain ⟨fits, described⟩ := of_normalizeCandidate describes first
      cases before with
      | nil =>
        cases split
        rwa [append_nil]
      | cons head before =>
        cases split
        exact (tail described).mp ⟨last, normalized⟩ before other after rfl
    · intro fits
      have headFits := fits [] candidate rest rfl
      rw [append_nil] at headFits
      obtain ⟨between, first⟩ :=
        normalizeCandidate_of_fits describes (nonblank candidate mem_cons_self) headFits
      obtain ⟨last, normalized⟩ := (tail (of_normalizeCandidate describes first).2).mpr
        fun before other after split => fits (candidate :: before) other after (by rw [split]; rfl)
      refine ⟨last, ?_⟩
      rw [normalizeFrom, first]
      exact normalized

theorem of_normalizeFrom (later : List ClusterCandidate)
    (normalized : normalizeFrom state (earlier.length + 1) later = .ok next) :
    Describes (earlier ++ later) next := by
  induction later generalizing earlier state with
  | nil =>
    cases normalized
    rwa [append_nil]
  | cons candidate rest ih =>
    obtain ⟨between, first, normalized⟩ := bind_eq_ok.mp normalized
    have described := (of_normalizeCandidate describes first).2
    have reached := ih described (by rw [length_append]; exact normalized)
    rwa [append_assoc] at reached

end

end Loop

/-- The line and its terms, if it makes a ready cluster. -/
def readyLine (line : InputLine) : Option (String × List String) :=
  match line.kind with
  | .terms terms => if IsReady terms then some (line.text, terms) else none
  | _ => none

/-- A line is found in the report: a title at the next cluster, a note at a
cluster, the text itself as a span, or within a span that was skipped. -/
def Accounted (report : InputNormalizationReport) (before : List InputLine) (line : InputLine) :
    Prop :=
  (∃ title cluster, line.kind = .title title ∧
      report.readyClusters[(before.filterMap readyLine).length]? = some cluster ∧
      cluster.titleHint = some title) ∨
  (∃ note cluster, line.kind = .note note ∧ cluster ∈ report.readyClusters ∧
      note ∈ cluster.notes) ∨
  (∃ cluster ∈ report.readyClusters, cluster.rawInputSpan = line.text) ∨
  (∃ entry ∈ report.ambiguousClusters, entry.rawInputSpan = line.text) ∨
  ∃ span ∈ report.skippedSpans, line.text.toList <:+: span.toList

/-- The report has every line, one ready cluster or one entry for every line of
terms, and an entry for every repetition. -/
structure AccountsForInput (lines : List InputLine) (report : InputNormalizationReport) :
    Prop where
  accounted : ∀ before line after, lines = before ++ line :: after →
    Accounted report before line
  ready : (report.readyClusters.map fun cluster => (cluster.rawInputSpan, cluster.terms)) =
    lines.filterMap readyLine
  entries : List.Forall₂ EntryOf report.ambiguousClusters (flaggedFrom [] (candidatesOf lines))
  questions : report.clarifyingQuestions.length = report.ambiguousClusters.length
  ids : (report.readyClusters.map (·.clusterId)).Nodup
  overlaps : ∀ earlier second later, report.readyClusters = earlier ++ second :: later →
    ∀ first ∈ earlier, ∀ term ∈ first.terms, term ∈ second.terms →
      ∃ entry ∈ report.ambiguousClusters, entry.rawInputSpan = second.rawInputSpan ∧
        term ∈ entry.terms

/-- The title hint of the next ready cluster, if there is one. -/
def hintFor (title : Option String) : List InputLine → Option (Option String)
  | [] => none
  | line :: rest =>
    match line.kind with
    | .title value => hintFor (some value) rest
    | .terms terms => if IsReady terms then some title else hintFor none rest
    | _ => hintFor title rest

/-- No line has terms; or none has only separators, every title is the hint of
the next ready line, and every note is one of a ready line. -/
def KeepsLines (lines : List InputLine) : Prop :=
  candidatesOf lines = [] ∨
    (∀ before text title after, lines = before ++ ⟨text, .title title⟩ :: after →
      hintFor (some title) after = some (some title)) ∧
    (∀ text note, ⟨text, .note note⟩ ∈ lines → ∃ candidate ∈ candidatesOf lines,
      IsReady candidate.terms ∧ note ∈ candidate.notes) ∧
    ∀ text, ⟨text, .separators⟩ ∉ lines

/-- The records of all candidates have the lengths their contracts allow. -/
def FitsContracts (lines : List InputLine) : Prop :=
  ∀ earlier candidate later, candidatesOf lines = earlier ++ candidate :: later →
    CandidateFits earlier candidate

/-! ## Candidates and lines -/

def termsLine (line : InputLine) : Option (String × List String) :=
  match line.kind with
  | .terms terms => some (line.text, terms)
  | _ => none

theorem map_laterCandidates (title : Option String) (lines : List InputLine) :
    (laterCandidates title lines).map (fun candidate => (candidate.rawInputSpan, candidate.terms)) =
      lines.filterMap termsLine := by
  induction lines generalizing title with
  | nil => rfl
  | cons line rest ih =>
    rcases line with ⟨text, kind⟩
    cases kind with
    | title value => exact ih (some value)
    | note | separators => exact ih title
    | terms terms => exact congrArg ((text, terms) :: ·) (ih none)

theorem map_firstCandidates {α : Type} {f : ClusterCandidate → α}
    (same : ∀ candidate notes, f { candidate with notes := notes } = f candidate)
    (title : Option String) (notes : List String) (lines : List InputLine) :
    (firstCandidates title notes lines).map f = (laterCandidates title lines).map f := by
  induction lines generalizing title notes with
  | nil => rfl
  | cons line rest ih =>
    rcases line with ⟨text, kind⟩
    cases kind with
    | title value => exact ih (some value) notes
    | note note => exact ih title (notes ++ [note])
    | separators => exact ih title notes
    | terms terms => exact congrArg (· :: _) (same ⟨text, terms, title, _⟩ _)

theorem map_candidatesOf (lines : List InputLine) :
    (candidatesOf lines).map (fun candidate => (candidate.rawInputSpan, candidate.terms)) =
      lines.filterMap termsLine :=
  (map_firstCandidates (fun _ _ => rfl) none [] lines).trans (map_laterCandidates none lines)

theorem filterMap_readyLine (lines : List InputLine) :
    lines.filterMap readyLine =
      (lines.filterMap termsLine).filter fun line => IsReady line.2 := by
  induction lines with
  | nil => rfl
  | cons line rest ih =>
    rcases line with ⟨text, kind⟩
    cases kind with
    | title | note | separators => exact ih
    | terms terms =>
      by_cases ready : IsReady terms
      · simp [readyLine, termsLine, ready, ih]
      · simp [readyLine, termsLine, ready, ih]

theorem mem_termsLine_iff {lines : List InputLine} {text : String} :
    (text, terms) ∈ lines.filterMap termsLine ↔ ⟨text, .terms terms⟩ ∈ lines := by
  rw [mem_filterMap]
  constructor
  · rintro ⟨⟨other, kind⟩, mem, isTerms⟩
    cases kind with
    | title | note | separators => cases isTerms
    | terms others =>
      cases isTerms
      exact mem
  · intro mem
    exact ⟨_, mem, rfl⟩

def readyHints (title : Option String) : List InputLine → List (Option String)
  | [] => []
  | line :: rest =>
    match line.kind with
    | .title value => readyHints (some value) rest
    | .terms terms =>
      if IsReady terms then title :: readyHints none rest else readyHints none rest
    | _ => readyHints title rest

theorem head?_readyHints (title : Option String) (lines : List InputLine) :
    (readyHints title lines).head? = hintFor title lines := by
  induction lines generalizing title with
  | nil => rfl
  | cons line rest ih =>
    rcases line with ⟨text, kind⟩
    cases kind with
    | title value => exact ih (some value)
    | note | separators => exact ih title
    | terms terms =>
      by_cases ready : IsReady terms
      · simp [readyHints, hintFor, ready]
      · simp [readyHints, hintFor, ready, ih]

theorem readyHints_laterCandidates (title : Option String) (lines : List InputLine) :
    ((laterCandidates title lines).filter fun candidate => IsReady candidate.terms).map
      (·.titleHint) = readyHints title lines := by
  induction lines generalizing title with
  | nil => rfl
  | cons line rest ih =>
    rcases line with ⟨text, kind⟩
    cases kind with
    | title value => exact ih (some value)
    | note | separators => exact ih title
    | terms terms =>
      by_cases ready : IsReady terms
      · simp [readyHints, laterCandidates, ready, ih]
      · simp [readyHints, laterCandidates, ready, ih]

theorem readyHints_candidatesOf (lines : List InputLine) :
    ((candidatesOf lines).filter fun candidate => IsReady candidate.terms).map (·.titleHint) =
      readyHints none lines := by
  have same := congrArg (fun pairs => (pairs.filter fun pair => IsReady pair.1).map Prod.snd)
    (map_firstCandidates (f := fun candidate => (candidate.terms, candidate.titleHint))
      (fun _ _ => rfl) none [] lines)
  simp only [filter_map, map_map] at same
  exact same.trans (readyHints_laterCandidates none lines)

theorem getElem?_readyHints (title : Option String) (before : List InputLine) (text value : String)
    (after : List InputLine) :
    (readyHints title (before ++ ⟨text, .title value⟩ :: after))[
      (before.filterMap readyLine).length]? = hintFor (some value) after := by
  induction before generalizing title with
  | nil => exact List.head?_eq_getElem?.symm.trans (head?_readyHints (some value) after)
  | cons line rest ih =>
    rcases line with ⟨other, kind⟩
    cases kind with
    | title first => exact ih (some first)
    | note | separators => exact ih title
    | terms terms =>
      by_cases ready : IsReady terms
      · simpa [readyHints, readyLine, ready] using ih none
      · simpa [readyHints, readyLine, ready] using ih none

theorem infix_of_mem_splitLinesFrom {afterReturn : Bool} {line text piece : List Char}
    (begun : afterReturn = true → line = [])
    (mem : piece ∈ splitLinesFrom afterReturn line text) : piece <:+: line ++ text := by
  induction text generalizing afterReturn line with
  | nil =>
    rw [splitLinesFrom] at mem
    split at mem
    · cases mem
    · rw [mem_singleton.mp mem, append_nil]
  | cons c rest ih =>
    rw [splitLinesFrom] at mem
    split at mem
    · next afterBoth =>
      rw [begun (Bool.and_eq_true_iff.mp afterBoth).1] at mem ⊢
      exact (ih (fun no => absurd no Bool.false_ne_true) mem).trans (suffix_cons c rest).isInfix
    split at mem
    · rcases mem_cons.mp mem with rfl | later
      · exact (prefix_append _ _).isInfix
      · refine (ih (fun _ => rfl) later).trans (List.IsSuffix.isInfix ?_)
        exact (suffix_cons c rest).trans (suffix_append line _)
    · have inside := ih (fun no => absurd no Bool.false_ne_true) mem
      rwa [append_assoc] at inside

section Input

variable {lower : List Char → List Char} {rawInput : List Char} {line : InputLine}

theorem exists_of_mem_inputLines (mem : line ∈ inputLines lower rawInput) :
    ∃ piece, piece <:+: rawInput ∧ trim isSpace piece ≠ [] ∧
      line = ⟨String.ofList (trim isSpace piece), lineKind lower (trim isSpace piece)⟩ := by
  obtain ⟨stripped, isLine, rfl⟩ := mem_map.mp mem
  obtain ⟨isStripped, notNil⟩ := mem_filter.mp isLine
  obtain ⟨piece, isPiece, rfl⟩ := mem_map.mp isStripped
  have inside := infix_of_mem_splitLinesFrom (fun no => absurd no Bool.false_ne_true) isPiece
  exact ⟨piece, inside, of_decide_eq_true notNil, rfl⟩

theorem kind_eq_of_mem_inputLines {first second : InputLine}
    (firstMem : first ∈ inputLines lower rawInput) (secondMem : second ∈ inputLines lower rawInput)
    (same : first.text = second.text) : first.kind = second.kind := by
  obtain ⟨firstPiece, _, _, rfl⟩ := exists_of_mem_inputLines firstMem
  obtain ⟨secondPiece, _, _, rfl⟩ := exists_of_mem_inputLines secondMem
  rw [String.ofList_injective same]

theorem length_text_of_mem_inputLines (mem : line ∈ inputLines lower rawInput) :
    1 ≤ line.text.length := by
  obtain ⟨piece, _, notNil, rfl⟩ := exists_of_mem_inputLines mem
  rw [String.length_ofList]
  exact length_pos_iff.mpr notNil

theorem text_infix_of_mem_inputLines (mem : line ∈ inputLines lower rawInput) :
    line.text.toList <:+: trim isSpace rawInput := by
  obtain ⟨piece, inside, notNil, rfl⟩ := exists_of_mem_inputLines mem
  rw [String.toList_ofList]
  exact (trimmed_trim piece).infix_trim notNil ((trim_isInfix piece).trans inside)

variable {candidate : ClusterCandidate}

theorem mem_candidates_span {lines : List InputLine} (mem : candidate ∈ candidatesOf lines) :
    ⟨candidate.rawInputSpan, .terms candidate.terms⟩ ∈ lines := by
  have isTerms := mem_map_of_mem (f := fun candidate : ClusterCandidate =>
    (candidate.rawInputSpan, candidate.terms)) mem
  rw [map_candidatesOf] at isTerms
  exact mem_termsLine_iff.mp isTerms

theorem describes_nil : Describes [] ⟨[], [], [], []⟩ where
  seen term := by simp [termsSeen]
  ready := rfl
  ids := rfl
  entries := .nil
  questions := rfl

theorem length_span_of_candidate (mem : candidate ∈ candidatesOf (inputLines lower rawInput)) :
    1 ≤ candidate.rawInputSpan.length :=
  length_text_of_mem_inputLines (mem_candidates_span mem)

theorem exists_report_iff :
    (∃ report, normalizeVocabularyInput lower rawInput = .ok report) ↔
      FitsContracts (inputLines lower rawInput) := by
  have loop := normalizeFrom_ok_iff describes_nil (candidatesOf (inputLines lower rawInput))
    fun _ => length_span_of_candidate
  refine Iff.trans ?_ loop
  unfold normalizeVocabularyInput
  rw [parseCandidates_eq]
  constructor
  · rintro ⟨report, normalized⟩
    exact (bind_eq_ok.mp normalized).imp fun _ => And.left
  · rintro ⟨last, looped⟩
    exact ⟨_, bind_eq_ok.mpr ⟨last, looped, rfl⟩⟩

/-- What a report says of the input: the loop's last state, and the whole input
if there is no candidate. -/
theorem of_normalizeVocabularyInput {report : InputNormalizationReport}
    (normalized : normalizeVocabularyInput lower rawInput = .ok report) :
    (∃ seenTerms, Describes (candidatesOf (inputLines lower rawInput))
        ⟨seenTerms, report.readyClusters, report.ambiguousClusters,
          report.clarifyingQuestions⟩) ∧
      report.skippedSpans = (if candidatesOf (inputLines lower rawInput) = [] then
        [String.ofList (trim isSpace rawInput)] else []).filter fun span => span ≠ "" := by
  unfold normalizeVocabularyInput at normalized
  rw [parseCandidates_eq] at normalized
  obtain ⟨last, looped, normalized⟩ := bind_eq_ok.mp normalized
  cases normalized
  exact ⟨⟨last.seenTerms, of_normalizeFrom describes_nil _ looped⟩, rfl⟩

/-! ## The account -/

section Account

variable {candidates : List ClusterCandidate} {candidate : ClusterCandidate}

theorem mem_flaggedFrom {earlier before after : List ClusterCandidate}
    (split : candidates = before ++ candidate :: after)
    (flagged : (entryReason (earlier ++ before) candidate).isSome = true) :
    (earlier ++ before, candidate) ∈ flaggedFrom earlier candidates := by
  induction before generalizing earlier candidates with
  | nil =>
    rw [append_nil] at flagged ⊢
    rw [split, nil_append, flaggedFrom, if_pos flagged]
    exact mem_cons_self
  | cons first before ih =>
    rw [split]
    have reassociated : earlier ++ first :: before = earlier ++ [first] ++ before := by
      rw [append_assoc, singleton_append]
    rw [reassociated] at flagged ⊢
    exact mem_append_right _ (ih rfl flagged)

variable {place : List ClusterCandidate × ClusterCandidate}

theorem mem_of_mem_flaggedFrom {earlier : List ClusterCandidate}
    (mem : place ∈ flaggedFrom earlier candidates) : place.2 ∈ candidates := by
  induction candidates generalizing earlier with
  | nil => cases mem
  | cons candidate rest ih =>
    rcases mem_append.mp mem with here | later
    · split at here
      · rw [mem_singleton.mp here]
        exact mem_cons_self
      · cases here
    · exact mem_cons_of_mem _ (ih later)

variable {state : Normalization}

section

variable (describes : Describes candidates state)

include describes

theorem Describes.exists_entry (flagged : place ∈ flaggedFrom [] candidates) :
    ∃ entry ∈ state.ambiguousClusters, EntryOf entry place := by
  obtain ⟨index, inRange, rfl⟩ := mem_iff_getElem.mp flagged
  have inEntries := describes.entries.length_eq ▸ inRange
  exact ⟨_, getElem_mem inEntries,
    (forall₂_iff_get.mp describes.entries).2 index inEntries inRange⟩

theorem Describes.exists_candidate_of_entry {entry : AmbiguousVocabularyCluster}
    (mem : entry ∈ state.ambiguousClusters) :
    ∃ candidate ∈ candidates, entry.rawInputSpan = candidate.rawInputSpan := by
  obtain ⟨index, inEntries, rfl⟩ := mem_iff_getElem.mp mem
  have inRange := describes.entries.length_eq ▸ inEntries
  have isEntry := (forall₂_iff_get.mp describes.entries).2 index inEntries inRange
  exact ⟨_, mem_of_mem_flaggedFrom (getElem_mem inRange), isEntry.rawInputSpan⟩

theorem Describes.mem_ready_iff :
    (∃ cluster ∈ state.readyClusters, candidateOf cluster = candidate) ↔
      candidate ∈ candidates ∧ IsReady candidate.terms := by
  rw [← mem_map, describes.ready, mem_filter, decide_eq_true_iff]

theorem Describes.exists_span (mem : candidate ∈ candidates) :
    (∃ cluster ∈ state.readyClusters, cluster.rawInputSpan = candidate.rawInputSpan) ∨
      ∃ entry ∈ state.ambiguousClusters, entry.rawInputSpan = candidate.rawInputSpan := by
  by_cases ready : IsReady candidate.terms
  · obtain ⟨cluster, isCluster, rfl⟩ := describes.mem_ready_iff.mpr ⟨mem, ready⟩
    exact .inl ⟨cluster, isCluster, rfl⟩
  · obtain ⟨before, after, split⟩ := append_of_mem mem
    have flagged : (entryReason ([] ++ before) candidate).isSome = true := by
      unfold entryReason
      rw [isReady_iff, not_and_or, not_not] at ready
      split
      · rfl
      next many =>
        split
        · rfl
        · next unique => exact absurd unique (ready.resolve_left many)
    obtain ⟨entry, isEntry, entryOf⟩ := describes.exists_entry (mem_flaggedFrom split flagged)
    exact .inr ⟨entry, isEntry, entryOf.rawInputSpan⟩

end

theorem clusterIdAt_injective : Function.Injective clusterIdAt := by
  intro first second same
  exact toDigits_injective (String.ofList_injective ((String.append_right_inj _).mp same))

theorem Describes.nodup_ids (describes : Describes candidates state) :
    (state.readyClusters.map (·.clusterId)).Nodup := by
  rw [describes.ids]
  exact nodup_range.map fun first second same => Nat.succ_injective (clusterIdAt_injective same)

theorem Describes.exists_overlap (describes : Describes candidates state)
    {earlier later : List NormalizedVocabularyCluster} {first second : NormalizedVocabularyCluster}
    (split : state.readyClusters = earlier ++ second :: later) (isEarlier : first ∈ earlier)
    {term : String} (inFirst : term ∈ first.terms) (inSecond : term ∈ second.terms) :
    ∃ entry ∈ state.ambiguousClusters, entry.rawInputSpan = second.rawInputSpan ∧
      term ∈ entry.terms := by
  have filtered := describes.ready
  rw [split, map_append, eq_comm, filter_eq_append_iff] at filtered
  obtain ⟨before, rest, rfl, beforeReady, restReady⟩ := filtered
  obtain ⟨between, after, rfl, _, secondReady, _⟩ := filter_eq_cons_iff.mp restReady
  have secondReady := of_decide_eq_true secondReady
  have seen : term ∈ termsSeen (before ++ between) := by
    rw [termsSeen, filter_append, beforeReady, flatMap_append, mem_append]
    exact .inl (mem_flatMap.mpr ⟨candidateOf first, mem_map_of_mem isEarlier, inFirst⟩)
  have flagged : (entryReason ([] ++ (before ++ between)) (candidateOf second)).isSome = true := by
    rw [entryReason_of_ready secondReady, Option.isSome_map, isSome_head?]
    exact ne_nil_of_mem (mem_filter.mpr ⟨inSecond, decide_eq_true seen⟩)
  obtain ⟨entry, isEntry, entryOf⟩ := describes.exists_entry
    (mem_flaggedFrom (by rw [append_assoc]) flagged)
  exact ⟨entry, isEntry, entryOf.rawInputSpan, entryOf.repeated secondReady term inSecond seen⟩

end Account

/-! ## Lines in the report -/

section Lines

variable {report : InputNormalizationReport} {seenTerms : List (String × String)}
  {lines : List InputLine}

section

variable (describes : Describes (candidatesOf lines) ⟨seenTerms, report.readyClusters,
  report.ambiguousClusters, report.clarifyingQuestions⟩)

include describes

theorem title_at_next_iff {before after : List InputLine} {text title : String}
    (split : lines = before ++ ⟨text, .title title⟩ :: after) :
    (∃ cluster, report.readyClusters[(before.filterMap readyLine).length]? = some cluster ∧
        cluster.titleHint = some title) ↔ hintFor (some title) after = some (some title) := by
  have hints : report.readyClusters.map (·.titleHint) = readyHints none lines := by
    rw [← readyHints_candidatesOf, ← describes.ready, map_map]
    rfl
  rw [← getElem?_readyHints none before text, ← split, ← hints, List.getElem?_map,
    Option.map_eq_some_iff]

theorem note_at_cluster_iff {note : String} :
    (∃ cluster ∈ report.readyClusters, note ∈ cluster.notes) ↔
      ∃ candidate ∈ candidatesOf lines, IsReady candidate.terms ∧ note ∈ candidate.notes := by
  constructor
  · rintro ⟨cluster, isCluster, isNote⟩
    obtain ⟨mem, ready⟩ := describes.mem_ready_iff.mp ⟨cluster, isCluster, rfl⟩
    exact ⟨_, mem, ready, isNote⟩
  · rintro ⟨candidate, mem, ready, isNote⟩
    obtain ⟨cluster, isCluster, rfl⟩ := describes.mem_ready_iff.mpr ⟨mem, ready⟩
    exact ⟨cluster, isCluster, isNote⟩

end

theorem kind_of_span {line : InputLine} (mem : line ∈ inputLines lower rawInput)
    (describes : Describes (candidatesOf (inputLines lower rawInput)) ⟨seenTerms,
      report.readyClusters, report.ambiguousClusters, report.clarifyingQuestions⟩)
    (isSpan : (∃ cluster ∈ report.readyClusters, cluster.rawInputSpan = line.text) ∨
      ∃ entry ∈ report.ambiguousClusters, entry.rawInputSpan = line.text) :
    ∃ terms, line.kind = .terms terms := by
  have ofCandidate {candidate : ClusterCandidate}
      (isCandidate : candidate ∈ candidatesOf (inputLines lower rawInput))
      (same : candidate.rawInputSpan = line.text) : ∃ terms, line.kind = .terms terms :=
    ⟨candidate.terms, kind_eq_of_mem_inputLines mem (mem_candidates_span isCandidate) same.symm⟩
  rcases isSpan with ⟨cluster, isCluster, same⟩ | ⟨entry, isEntry, same⟩
  · exact ofCandidate (describes.mem_ready_iff.mp ⟨cluster, isCluster, rfl⟩).1 same
  · obtain ⟨candidate, isCandidate, isSpan⟩ := describes.exists_candidate_of_entry isEntry
    exact ofCandidate isCandidate (isSpan.symm.trans same)

theorem accountsForInput_iff (normalized : normalizeVocabularyInput lower rawInput = .ok report) :
    AccountsForInput (inputLines lower rawInput) report ↔ KeepsLines (inputLines lower rawInput) := by
  obtain ⟨⟨seenTerms, describes⟩, skipped⟩ := of_normalizeVocabularyInput normalized
  constructor
  · intro accounts
    by_cases noCandidate : candidatesOf (inputLines lower rawInput) = []
    · exact .inl noCandidate
    rw [if_neg noCandidate] at skipped
    -- A line without terms is found as a title or a note.
    have found {before : List InputLine} {line : InputLine} {after : List InputLine}
        (split : inputLines lower rawInput = before ++ line :: after)
        (noTerms : ∀ terms, line.kind ≠ .terms terms) :
        (∃ title cluster, line.kind = .title title ∧
          report.readyClusters[(before.filterMap readyLine).length]? = some cluster ∧
          cluster.titleHint = some title) ∨
        ∃ note cluster, line.kind = .note note ∧ cluster ∈ report.readyClusters ∧
          note ∈ cluster.notes := by
      have mem : line ∈ inputLines lower rawInput := split ▸ mem_append_cons_self
      rcases accounts.accounted before line after split with
        title | note | cluster | entry | ⟨span, isSkipped, _⟩
      · exact .inl title
      · exact .inr note
      · obtain ⟨terms, isTerms⟩ := kind_of_span mem describes (.inl cluster)
        exact absurd isTerms (noTerms terms)
      · obtain ⟨terms, isTerms⟩ := kind_of_span mem describes (.inr entry)
        exact absurd isTerms (noTerms terms)
      · rw [skipped] at isSkipped
        cases isSkipped
    refine .inr ⟨fun before text title after split => ?_, fun text note mem => ?_,
      fun text mem => ?_⟩
    · rcases found split nofun with ⟨_, cluster, ⟨⟩, at_, hint⟩ | ⟨_, _, ⟨⟩, _⟩
      exact (title_at_next_iff describes split).mp ⟨cluster, at_, hint⟩
    · obtain ⟨before, after, split⟩ := append_of_mem mem
      rcases found split nofun with ⟨_, _, ⟨⟩, _⟩ | ⟨_, cluster, ⟨⟩, isCluster, isNote⟩
      exact (note_at_cluster_iff describes).mp ⟨cluster, isCluster, isNote⟩
    · obtain ⟨before, after, split⟩ := append_of_mem mem
      rcases found split nofun with ⟨_, _, ⟨⟩, _⟩ | ⟨_, _, ⟨⟩, _⟩
  · intro keeps
    constructor
    case ready =>
      have spans := congrArg (List.map fun candidate : ClusterCandidate =>
        (candidate.rawInputSpan, candidate.terms)) describes.ready
      rw [map_map] at spans
      rw [filterMap_readyLine, ← map_candidatesOf, filter_map]
      exact spans
    case entries => exact describes.entries
    case questions => exact describes.questions
    case ids => exact describes.nodup_ids
    case overlaps =>
      intro earlier second later split first isEarlier term inFirst inSecond
      exact describes.exists_overlap split isEarlier inFirst inSecond
    case accounted =>
      intro before line after split
      have mem : line ∈ inputLines lower rawInput := split ▸ mem_append_cons_self
      rcases keeps with noCandidate | ⟨titles, notes, noSeparators⟩
      · have inside := text_infix_of_mem_inputLines mem
        have notNil : trim isSpace rawInput ≠ [] := by
          intro isNil
          have short := inside.length_le
          rw [isNil] at short
          exact absurd (length_text_of_mem_inputLines mem) (by simpa using short)
        refine .inr (.inr (.inr (.inr ⟨String.ofList (trim isSpace rawInput), ?_, ?_⟩)))
        · rw [skipped, if_pos noCandidate]
          simpa using notNil
        · rwa [String.toList_ofList]
      · rcases line with ⟨text, kind⟩
        cases kind with
        | title title =>
          obtain ⟨cluster, at_, hint⟩ := (title_at_next_iff describes split).mpr
            (titles before text title after split)
          exact .inl ⟨title, cluster, rfl, at_, hint⟩
        | note note =>
          obtain ⟨cluster, isCluster, isNote⟩ := (note_at_cluster_iff describes).mpr
            (notes text note mem)
          exact .inr (.inl ⟨note, cluster, rfl, isCluster, isNote⟩)
        | separators => exact absurd mem (noSeparators text)
        | terms terms =>
          have isTerms := mem_termsLine_iff.mpr mem
          rw [← map_candidatesOf] at isTerms
          obtain ⟨candidate, isCandidate, same⟩ := mem_map.mp isTerms
          cases same
          rcases describes.exists_span isCandidate with cluster | entry
          · exact .inr (.inr (.inl cluster))
          · exact .inr (.inr (.inr (.inl entry)))

/-- Normalization returns a report that accounts for its input exactly if its
records fit and the input keeps its lines. -/
theorem normalizeVocabularyInput_accounts_iff (lower : List Char → List Char)
    (rawInput : List Char) :
    (∃ report, normalizeVocabularyInput lower rawInput = .ok report ∧
        AccountsForInput (inputLines lower rawInput) report) ↔
      FitsContracts (inputLines lower rawInput) ∧ KeepsLines (inputLines lower rawInput) := by
  constructor
  · rintro ⟨report, normalized, accounts⟩
    exact ⟨exists_report_iff.mp ⟨report, normalized⟩, (accountsForInput_iff normalized).mp accounts⟩
  · rintro ⟨fits, keeps⟩
    obtain ⟨report, normalized⟩ := exists_report_iff.mpr fits
    exact ⟨report, normalized, (accountsForInput_iff normalized).mpr keeps⟩

end Lines

end Input

def termsAndSeparators : List Char :=
  ['a', ' ', 'b', '\n', '/', '/']

theorem inputLines_termsAndSeparators :
    inputLines id termsAndSeparators = [⟨"a b", .terms ["a", "b"]⟩, ⟨"//", .separators⟩] := by
  decide +kernel

/-- After a line of terms, a line of separators is lost. -/
theorem separators_lost :
    ¬ ∃ report, normalizeVocabularyInput id termsAndSeparators = .ok report ∧
      AccountsForInput (inputLines id termsAndSeparators) report := by
  rintro ⟨report, normalized, accounts⟩
  have keeps := (accountsForInput_iff normalized).mp accounts
  rw [inputLines_termsAndSeparators] at keeps
  rcases keeps with noCandidate | ⟨_, _, noSeparators⟩
  · cases noCandidate
  · exact noSeparators "//" (by simp)

end OhMyClass.TeachingPack.Vocabulary
