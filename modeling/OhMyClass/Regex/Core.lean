import Mathlib.Data.List.Forall2
import Mathlib.Data.List.Infix

/-!
# Backtracking regular expressions

Patterns whose repetitions range over single characters, greedy or lazy.  A
match is described by the texts left after it, in the order a backtracking
matcher tries them; the first one is the match the matcher reports.
-/

namespace OhMyClass

/-- A pattern over characters. -/
inductive Regex where
  | empty
  | one (accepts : Char → Bool)
  | seq (first second : Regex)
  | alt (first second : Regex)
  | many (greedy : Bool) (accepts : Char → Bool)

namespace Regex

/-- What a repetition leaves, the shortest repetition first. -/
def manyRests (accepts : Char → Bool) : List Char → List (List Char)
  | [] => [[]]
  | c :: text => if accepts c then (c :: text) :: manyRests accepts text else [c :: text]

/-- What a pattern leaves of a text, the preferred match first. -/
def rests : Regex → List Char → List (List Char)
  | empty, text => [text]
  | one _, [] => []
  | one accepts, c :: text => if accepts c then [text] else []
  | seq first second, text => (first.rests text).flatMap second.rests
  | alt first second, text => first.rests text ++ second.rests text
  | many greedy accepts, text =>
    if greedy then (manyRests accepts text).reverse else manyRests accepts text

/-- The given characters one after the other, compared by `same`. -/
def word (same : Char → Char → Bool) (chars : List Char) : Regex :=
  chars.foldr (fun c pattern => seq (one (same c)) pattern) empty

/-- `re.search` finds a match. -/
def search (pattern : Regex) (text : List Char) : Bool :=
  text.tails.any fun rest => !(pattern.rests rest).isEmpty

/-- Delete the matches; the number counts the characters the last match still
covers. -/
def removeFrom (pattern : Regex) : Nat → List Char → List Char
  | _, [] => []
  | covered + 1, _ :: text => removeFrom pattern covered text
  | 0, c :: text =>
    match pattern.rests (c :: text) with
    | [] => c :: removeFrom pattern 0 text
    | rest :: _ =>
      if rest.length ≤ text.length then removeFrom pattern (text.length - rest.length) text
      else c :: removeFrom pattern 0 text

/-- `re.sub(pattern, "", text)`. -/
def removeAll (pattern : Regex) (text : List Char) : List Char :=
  removeFrom pattern 0 text

/-- The pieces between the matches that are not empty, the current one last. -/
def splitFrom (pattern : Regex) : Nat → List Char → List Char → List (List Char)
  | _, piece, [] => [piece]
  | covered + 1, piece, _ :: text => splitFrom pattern covered piece text
  | 0, piece, c :: text =>
    match pattern.rests (c :: text) with
    | [] => splitFrom pattern 0 (piece ++ [c]) text
    | rest :: _ =>
      if rest.length ≤ text.length then
        piece :: splitFrom pattern (text.length - rest.length) [] text
      else splitFrom pattern 0 (piece ++ [c]) text

/-- `re.split(pattern, text)`, for a pattern without empty matches. -/
def splitAll (pattern : Regex) (text : List Char) : List (List Char) :=
  splitFrom pattern 0 [] text

end Regex

end OhMyClass

/-!
## Matches of regular expressions

The words a pattern matches, and that a backtracking matcher leaves exactly
what follows one of them.
-/

namespace OhMyClass.Regex

/-- The pattern reads the whole word. -/
def Matches : Regex → List Char → Prop
  | empty, read => read = []
  | one accepts, read => ∃ c, accepts c = true ∧ read = [c]
  | seq first second, read =>
    ∃ begun ended, read = begun ++ ended ∧ first.Matches begun ∧ second.Matches ended
  | alt first second, read => first.Matches read ∨ second.Matches read
  | many _ accepts, read => ∀ c ∈ read, accepts c = true

/-- The characters of a word, up to `same`. -/
def Reads (same : Char → Char → Bool) : List Char → List Char → Prop :=
  List.Forall₂ fun c d => same c d = true

variable {first second third pattern : Regex} {same : Char → Char → Bool} {accepts : Char → Bool}
  {greedy : Bool} {chars text rest read : List Char}

theorem matches_seq_assoc :
    (seq (seq first second) third).Matches read ↔ (seq first (seq second third)).Matches read := by
  constructor
  · rintro ⟨_, ended, rfl, ⟨begun, middle, rfl, isFirst, isSecond⟩, isThird⟩
    exact ⟨begun, middle ++ ended, List.append_assoc begun middle ended, isFirst, middle, ended,
      rfl, isSecond, isThird⟩
  · rintro ⟨begun, _, rfl, isFirst, middle, ended, rfl, isSecond, isThird⟩
    exact ⟨begun ++ middle, ended, (List.append_assoc begun middle ended).symm,
      ⟨begun, middle, rfl, isFirst, isSecond⟩, isThird⟩

theorem matches_word : (word same chars).Matches read ↔ Reads same chars read := by
  induction chars generalizing read with
  | nil =>
    constructor
    · rintro rfl
      exact .nil
    · rintro ⟨⟩
      rfl
  | cons c others ih =>
    constructor
    · rintro ⟨_, ended, rfl, ⟨d, accepted, rfl⟩, isWord⟩
      exact .cons accepted (ih.mp isWord)
    · intro reads
      cases reads with
      | cons accepted reads =>
        exact ⟨[_], _, rfl, ⟨_, accepted, rfl⟩, ih.mpr reads⟩

theorem Reads.exists_of_mem (reads : Reads same chars read) {d : Char} (mem : d ∈ read) :
    ∃ c ∈ chars, same c d = true := by
  induction reads with
  | nil => cases mem
  | cons accepted _ ih =>
    rcases List.mem_cons.mp mem with rfl | later
    · exact ⟨_, List.mem_cons_self, accepted⟩
    · rcases ih later with ⟨c, isChar, others⟩
      exact ⟨c, List.mem_cons_of_mem _ isChar, others⟩

theorem mem_manyRests : rest ∈ manyRests accepts text ↔
    ∃ run, (∀ c ∈ run, accepts c = true) ∧ text = run ++ rest := by
  induction text with
  | nil =>
    rw [manyRests, List.mem_singleton]
    constructor
    · rintro rfl
      exact ⟨[], List.forall_mem_nil _, rfl⟩
    · rintro ⟨run, _, split⟩
      exact (List.append_eq_nil_iff.mp split.symm).2
  | cons c others ih =>
    rw [manyRests]
    constructor
    · intro mem
      split at mem
      · next accepted =>
        rcases List.mem_cons.mp mem with rfl | later
        · exact ⟨[], List.forall_mem_nil _, rfl⟩
        · rcases ih.mp later with ⟨run, all, rfl⟩
          exact ⟨c :: run, List.forall_mem_cons.mpr ⟨accepted, all⟩, rfl⟩
      · rw [List.mem_singleton.mp mem]
        exact ⟨[], List.forall_mem_nil _, rfl⟩
    · rintro ⟨run, all, split⟩
      cases run with
      | nil =>
        rw [List.nil_append] at split
        rw [← split]
        split <;> exact List.mem_cons_self
      | cons d run =>
        rw [List.cons_append, List.cons.injEq] at split
        rw [← split.1] at all
        rcases List.forall_mem_cons.mp all with ⟨accepted, others⟩
        rw [if_pos accepted]
        exact List.mem_cons_of_mem _ (ih.mpr ⟨run, others, split.2⟩)

theorem mem_rests_iff : rest ∈ pattern.rests text ↔
    ∃ read, pattern.Matches read ∧ text = read ++ rest := by
  induction pattern generalizing text rest with
  | empty =>
    rw [rests, List.mem_singleton]
    constructor
    · rintro rfl
      exact ⟨[], rfl, rfl⟩
    · rintro ⟨_, rfl, rfl⟩
      rfl
  | one accepts =>
    constructor
    · intro mem
      cases text with
      | nil => cases mem
      | cons c others =>
        rw [rests] at mem
        split at mem
        · next accepted =>
          rw [List.mem_singleton.mp mem]
          exact ⟨[c], ⟨c, accepted, rfl⟩, rfl⟩
        · cases mem
    · rintro ⟨_, ⟨c, accepted, rfl⟩, rfl⟩
      rw [List.singleton_append, rests, if_pos accepted]
      exact List.mem_singleton_self rest
  | seq first second isFirst isSecond =>
    rw [rests, List.mem_flatMap]
    constructor
    · rintro ⟨middle, begins, ends⟩
      rcases isFirst.mp begins with ⟨begun, matchesFirst, rfl⟩
      rcases isSecond.mp ends with ⟨ended, matchesSecond, rfl⟩
      exact ⟨begun ++ ended, ⟨begun, ended, rfl, matchesFirst, matchesSecond⟩,
        (List.append_assoc begun ended rest).symm⟩
    · rintro ⟨_, ⟨begun, ended, rfl, matchesFirst, matchesSecond⟩, rfl⟩
      exact ⟨ended ++ rest,
        isFirst.mpr ⟨begun, matchesFirst, List.append_assoc begun ended rest⟩,
        isSecond.mpr ⟨ended, matchesSecond, rfl⟩⟩
  | alt first second isFirst isSecond =>
    rw [rests, List.mem_append, isFirst, isSecond]
    constructor
    · rintro (⟨read, isRead, split⟩ | ⟨read, isRead, split⟩)
      · exact ⟨read, Or.inl isRead, split⟩
      · exact ⟨read, Or.inr isRead, split⟩
    · rintro ⟨read, isRead | isRead, split⟩
      · exact Or.inl ⟨read, isRead, split⟩
      · exact Or.inr ⟨read, isRead, split⟩
  | many greedy accepts =>
    rw [rests]
    split
    · rw [List.mem_reverse, mem_manyRests]
      rfl
    · exact mem_manyRests

theorem not_matches_nil (missed : pattern.rests [] = []) : ¬ pattern.Matches [] := by
  intro isNil
  have mem : [] ∈ pattern.rests [] := mem_rests_iff.mpr ⟨[], isNil, rfl⟩
  rw [missed] at mem
  cases mem

theorem rests_ne_nil_iff : pattern.rests text ≠ [] ↔
    ∃ read rest, pattern.Matches read ∧ text = read ++ rest := by
  constructor
  · intro found
    rcases List.exists_mem_of_ne_nil _ found with ⟨rest, mem⟩
    rcases mem_rests_iff.mp mem with ⟨read, isRead, split⟩
    exact ⟨read, rest, isRead, split⟩
  · rintro ⟨read, rest, isRead, split⟩
    exact List.ne_nil_of_mem (mem_rests_iff.mpr ⟨read, isRead, split⟩)

theorem search_iff : pattern.search text = true ↔
    ∃ before read after, pattern.Matches read ∧ text = before ++ (read ++ after) := by
  rw [search, List.any_eq_true]
  constructor
  · rintro ⟨later, isTail, found⟩
    rcases (List.mem_tails later text).mp isTail with ⟨before, rfl⟩
    rw [Bool.not_eq_true', List.isEmpty_eq_false_iff, rests_ne_nil_iff] at found
    rcases found with ⟨read, after, isRead, rfl⟩
    exact ⟨before, read, after, isRead, rfl⟩
  · rintro ⟨before, read, after, isRead, rfl⟩
    refine ⟨read ++ after, (List.mem_tails _ _).mpr (List.suffix_append before _), ?_⟩
    rw [Bool.not_eq_true', List.isEmpty_eq_false_iff, rests_ne_nil_iff]
    exact ⟨read, after, isRead, rfl⟩

end OhMyClass.Regex
