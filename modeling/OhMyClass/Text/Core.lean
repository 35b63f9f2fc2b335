import Mathlib.Data.List.DropRight
import Mathlib.Data.List.Infix

/-!
# Texts

Texts that are read back, and texts cut into blocks.
-/

namespace OhMyClass.Text

open List

/-!
## Blocks of text

A text is cut into blocks at its blank lines.  Whether a text has blank lines
is decided by a scan, which is what composes along concatenations.
-/

section

universe u

variable {α : Type u} (blank : α → Bool)

/-! ## Trimming -/

/-- A text without the blanks at its ends. -/
def trim (text : List α) : List α := (text.dropWhile blank).rdropWhile blank

/-- Neither end of the text is blank. -/
structure Trimmed (text : List α) : Prop where
  head : ∀ c, text.head? = some c → blank c = false
  last : ∀ c, text.getLast? = some c → blank c = false

variable {blank} {text before after : List α}

theorem Trimmed.nil : Trimmed blank ([] : List α) := ⟨nofun, nofun⟩

theorem trim_isInfix (text : List α) : trim blank text <:+: text :=
  ( rdropWhile_prefix _ _).isInfix.trans (dropWhile_suffix _).isInfix

theorem length_trim_le (text : List α) : (trim blank text).length ≤ text.length :=
  (trim_isInfix text).length_le

theorem trimmed_trim (text : List α) : Trimmed blank (trim blank text) where
  last c isLast := by
    unfold trim at isLast
    cases rest : (text.dropWhile blank).rdropWhile blank with
    | nil =>
      rw [rest] at isLast
      cases isLast
    | cons first others =>
      have notBlank := rdropWhile_last_not blank (text.dropWhile blank) (by simp [rest])
      rw [List.getLast?_eq_getLast_of_ne_nil (by simp [rest])] at isLast
      rw [Option.some.inj isLast] at notBlank
      exact Bool.eq_false_iff.mpr notBlank
  head c isHead := by
    rcases rdropWhile_prefix blank (text.dropWhile blank) with ⟨cut, isCut⟩
    have headOf : (text.dropWhile blank).head? = some c := by
      rw [← isCut, List.head?_append]
      unfold trim at isHead
      rw [isHead]
      rfl
    have notBlank := List.head?_dropWhile_not blank text
    rw [headOf] at notBlank
    exact notBlank

theorem trim_of_trimmed (trimmed : Trimmed blank text) : trim blank text = text := by
  cases text with
  | nil => rfl
  | cons first rest =>
    have keeps : (first :: rest).dropWhile blank = first :: rest := by
      rw [dropWhile_cons_of_neg]
      rw [trimmed.head first rfl]
      exact Bool.false_ne_true
    unfold trim
    rw [keeps, rdropWhile_eq_self_iff]
    intro notNil
    rw [trimmed.last _ (List.getLast?_eq_getLast_of_ne_nil notNil)]
    exact Bool.false_ne_true

theorem trim_eq_nil_iff : trim blank text = [] ↔ ∀ c ∈ text, blank c = true := by
  unfold trim
  rw [rdropWhile_eq_nil_iff]
  constructor
  · intro blanks
    cases rest : text.dropWhile blank with
    | nil => exact dropWhile_eq_nil_iff.mp rest
    | cons c others =>
      have notBlank := List.head?_dropWhile_not blank text
      rw [rest] at notBlank
      have isBlank := blanks c (by simp [rest])
      simp [isBlank] at notBlank
  · intro blanks
    rw [dropWhile_eq_nil_iff.mpr blanks]
    simp

theorem Trimmed.append (trimmedBefore : Trimmed blank before) (trimmedAfter : Trimmed blank after)
    {middle : List α} (someMiddle : middle ≠ []) (trimmedMiddle : Trimmed blank middle) :
    Trimmed blank (before ++ middle ++ after) where
  head c isHead := by
    cases before with
    | nil =>
      cases middle with
      | nil => exact absurd rfl someMiddle
      | cons d middle => exact trimmedMiddle.head c isHead
    | cons d before => exact trimmedBefore.head c isHead
  last c isLast := by
    rcases eq_nil_or_concat after with rfl | ⟨front, d, rfl⟩
    · rcases eq_nil_or_concat middle with rfl | ⟨front, d, rfl⟩
      · exact absurd rfl someMiddle
      · apply trimmedMiddle.last c
        simpa [← append_assoc] using isLast
    · apply trimmedAfter.last c
      simpa [← append_assoc] using isLast

theorem trim_append_blank (blanks : ∀ c ∈ after, blank c = true) :
    trim blank (text ++ after) = trim blank text := by
  unfold trim
  rw [dropWhile_append]
  split
  · next isBlank =>
    rw [isEmpty_iff.mp isBlank, dropWhile_eq_nil_iff.mpr blanks]
  · rw [List.rdropWhile, List.rdropWhile, reverse_append, dropWhile_append_of_pos]
    intro c mem
    exact blanks c (mem_reverse.mp mem)

theorem infix_dropWhile (inside : before <:+: text) (notNil : before ≠ [])
    (head : ∀ c, before.head? = some c → blank c = false) : before <:+: text.dropWhile blank := by
  induction text with
  | nil => exact inside
  | cons c rest ih =>
    by_cases isBlank : blank c = true
    · rw [dropWhile_cons_of_pos isBlank]
      rcases infix_cons_iff.mp inside with isPrefix | inRest
      · cases before with
        | nil => exact absurd rfl notNil
        | cons first others =>
          obtain ⟨rfl, _⟩ := cons_prefix_cons.mp isPrefix
          rw [head first rfl] at isBlank
          cases isBlank
      · exact ih inRest
    · rwa [dropWhile_cons_of_neg isBlank]

theorem Trimmed.infix_trim (trimmed : Trimmed blank before) (notNil : before ≠ [])
    (inside : before <:+: text) : before <:+: trim blank text := by
  have fromLeft := infix_dropWhile inside notNil trimmed.head
  have fromRight := infix_dropWhile ( reverse_infix.mpr fromLeft)
    (reverse_ne_nil_iff.mpr notNil) fun c isHead =>
      trimmed.last c (List.head?_reverse.symm.trans isHead)
  exact reverse_infix.mp (by rwa [trim, List.rdropWhile, reverse_reverse])

section Pairs

variable [DecidableEq α] {first second : α} {text before after : List α}

/-- What stands before the first occurrence of a pair, and what stands after it. -/
def splitAtPair (first second : α) : List α → Option (List α × List α)
  | [] => none
  | c :: text =>
    if c = first ∧ text.head? = some second then some ([], text.tail)
    else (splitAtPair first second text).map fun (before, after) => (c :: before, after)

omit [DecidableEq α] in
theorem pair_infix_cons {c : α} :
    [first, second] <:+: c :: text ↔
      (c = first ∧ text.head? = some second) ∨ [first, second] <:+: text := by
  rw [infix_cons_iff, cons_prefix_cons, eq_comm (a := first)]
  cases text with
  | nil => simp
  | cons d text => simp [eq_comm]

theorem splitAtPair_eq_none_iff :
    splitAtPair first second text = none ↔ ¬ [first, second] <:+: text := by
  induction text with
  | nil => simp [splitAtPair]
  | cons c text ih =>
    rw [splitAtPair, pair_infix_cons]
    split
    · next found => simp [found]
    · next notFound => simp [notFound, ih]

theorem splitAtPair_eq_some_iff :
    splitAtPair first second text = some (before, after) ↔
      text = before ++ first :: second :: after ∧ ¬ [first, second] <:+: before ++ [first] := by
  induction text generalizing before with
  | nil => simp [splitAtPair]
  | cons c text ih =>
    rw [splitAtPair]
    split
    · next found =>
      rcases found with ⟨rfl, isSecond⟩
      rcases List.head?_eq_some_iff.mp isSecond with ⟨rest, rfl⟩
      cases before with
      | nil =>
        have free : ¬ [c, second] <:+: [c] := fun found => by
          have length := found.length_le
          simp at length
        simp [free]
      | cons d before =>
        simp only [tail_cons, Option.some.injEq, Prod.mk.injEq, cons_append,
          List.cons.injEq, pair_infix_cons, not_or, reduceCtorEq, false_and, false_iff, not_and]
        rintro ⟨rfl, isRest⟩ notFound
        have isHead : (before ++ [c]).head? = some second := by
          cases before with
          | nil => exact congrArg (fun l => l.head?) isRest.symm
          | cons e before => exact congrArg (fun l => l.head?) isRest.symm
        exact absurd isHead (notFound rfl)
    · next notFound =>
      cases before with
      | nil =>
        simp only [nil_append, List.cons.injEq, Option.map_eq_some_iff, Prod.mk.injEq,
          reduceCtorEq, false_and, and_false, exists_false, false_iff, not_and, not_not]
        rintro ⟨rfl, rfl⟩
        simp at notFound
      | cons d before =>
        simp only [Option.map_eq_some_iff, Prod.exists, Prod.mk.injEq, List.cons.injEq,
          cons_append, pair_infix_cons, not_or]
        constructor
        · rintro ⟨rest, _, isSome, ⟨rfl, rfl⟩, rfl⟩
          rcases ih.mp isSome with ⟨rfl, free⟩
          refine ⟨⟨rfl, rfl⟩, fun found => notFound ⟨found.1, ?_⟩, free⟩
          rw [← found.2]
          cases rest <;> rfl
        · rintro ⟨⟨rfl, rfl⟩, _, free⟩
          exact ⟨before, after, ih.mpr ⟨rfl, free⟩, ⟨rfl, rfl⟩, rfl⟩

theorem splitAtPair_of_length_le {early late : List α}
    (found : splitAtPair first second (before ++ first :: second :: after) = some (early, late))
    (notEarly : before.length ≤ early.length) :
    early = before ∧ late = after ∧ ¬ [first, second] <:+: before ++ [first] := by
  rcases splitAtPair_eq_some_iff.mp found with ⟨same, free⟩
  rcases append_eq_append_iff.mp same with ⟨more, rfl, isMore⟩ | ⟨less, rfl, isLess⟩
  · cases more with
    | nil =>
      rw [append_nil] at free ⊢
      injection isMore with _ isRest
      injection isRest with _ isAfter
      exact ⟨rfl, isAfter.symm, free⟩
    | cons c more =>
      injection isMore with isFirst isRest
      subst isFirst
      refine absurd ?_ free
      cases more with
      | nil =>
        injection isRest with isSecond _
        subst isSecond
        exact ⟨before, [], by simp⟩
      | cons d more =>
        injection isRest with isSecond _
        subst isSecond
        exact ⟨before, more ++ [first], by simp⟩
  · have isEmpty : less = [] := by
      rw [length_append] at notEarly
      exact eq_nil_of_length_eq_zero (by omega)
    subst isEmpty
    rw [append_nil]
    injection isLess with _ isRest
    injection isRest with _ isAfter
    exact ⟨rfl, isAfter, free⟩

end Pairs

section Scan

variable [DecidableEq α] (newline : α) (blank : α → Bool)

/-- The scan fails at a blank line.  Until then it knows whether the current
line is blank so far. -/
def scanStep : Option Bool → α → Option Bool
  | none, _ => none
  | some blankSoFar, c =>
    if c = newline then if blankSoFar then none else some true
    else if blank c then some blankSoFar
    else some false

def scan (start : Option Bool) (text : List α) : Option Bool :=
  text.foldl (scanStep newline blank) start

variable {newline blank}

@[simp]
theorem scan_nil (start : Option Bool) : scan newline blank start [] = start := rfl

theorem scan_cons (start : Option Bool) (c : α) (text : List α) :
    scan newline blank start (c :: text) =
      scan newline blank (scanStep newline blank start c) text := rfl

@[simp]
theorem scan_append (start : Option Bool) (before after : List α) :
    scan newline blank start (before ++ after) =
      scan newline blank (scan newline blank start before) after :=
  foldl_append

@[simp]
theorem scan_none (text : List α) : scan newline blank none text = none := by
  induction text with
  | nil => rfl
  | cons c text ih => exact ih

theorem scanStep_visible {c : α} (notNewline : c ≠ newline) (visible : blank c = false)
    (blankSoFar : Bool) : scanStep newline blank (some blankSoFar) c = some false := by
  simp [scanStep, notNewline, visible]

/-- No line inside of the text is blank. -/
def Unbroken (newline : α) (blank : α → Bool) (text : List α) : Prop :=
  scan newline blank (some false) text ≠ none

/-- No line of the text is blank. -/
def Solid (newline : α) (blank : α → Bool) (text : List α) : Prop :=
  scan newline blank (some true) text = some false

/-- A scan that begins within a line reaches as far as one that begins with it. -/
theorem unbroken_of_scan (start : Option Bool) (scanned : scan newline blank start text ≠ none) :
    Unbroken newline blank text := by
  induction text generalizing start with
  | nil => exact nofun
  | cons c text ih =>
    cases start with
    | none => exact absurd (scan_none _) scanned
    | some blankSoFar =>
      cases blankSoFar with
      | false => exact scanned
      | true =>
        rw [scan_cons] at scanned
        by_cases isNewline : c = newline
        · simp [scanStep, isNewline] at scanned
        · by_cases isBlank : blank c = true
          · have inLine := ih _ scanned
            unfold Unbroken at inLine ⊢
            rw [scan_cons]
            simpa [scanStep, isNewline, isBlank] using inLine
          · unfold Unbroken
            rw [scan_cons]
            simpa [scanStep, isNewline, isBlank] using scanned

theorem Unbroken.ofPart {part : List α} (unbroken : Unbroken newline blank text)
    (within : part <:+: text) : Unbroken newline blank part := by
  rcases within with ⟨before, after, rfl⟩
  unfold Unbroken at unbroken
  rw [scan_append, scan_append] at unbroken
  apply unbroken_of_scan (scan newline blank (some false) before)
  intro failed
  rw [failed, scan_none] at unbroken
  exact unbroken rfl

theorem Solid.unbroken (solid : Solid newline blank text) : Unbroken newline blank text := by
  apply unbroken_of_scan (some true)
  rw [solid]
  exact nofun

theorem scan_of_trimmed (trimmed : Trimmed blank text) (unbroken : Unbroken newline blank text)
    (newlineBlank : blank newline = true) :
    scan newline blank (some false) text = some false := by
  rcases eq_nil_or_concat text with rfl | ⟨front, last, rfl⟩
  · rfl
  · have visible : blank last = false := trimmed.last last (by simp)
    have notNewline : last ≠ newline := by
      rintro rfl
      rw [newlineBlank] at visible
      cases visible
    unfold Unbroken at unbroken
    rw [concat_eq_append, scan_append] at unbroken ⊢
    cases scanned : scan newline blank (some false) front with
    | none =>
      rw [scanned] at unbroken
      exact absurd rfl unbroken
    | some blankSoFar => exact scanStep_visible notNewline visible blankSoFar

/-! ## Blocks -/

/-- The maximal runs of lines that are not blank. -/
def blocks (newline : α) (blank : α → Bool) (text : List α) : List (List α) :=
  (((text.splitOn newline).splitOnP fun line => line.all blank).filter (· ≠ [])).map
    [newline].intercalate

theorem blocks_append (before after : List α) :
    blocks newline blank (before ++ newline :: newline :: after) =
      blocks newline blank before ++ blocks newline blank after := by
  unfold blocks
  rw [splitOn_append_cons_self, splitOn_cons_eq_if_modifyHead, if_pos (beq_self_eq_true _),
    splitOnP_append_cons _ _ rfl, filter_append, map_append]

theorem blocks_append_newline (text : List α) :
    blocks newline blank (text ++ [newline]) = blocks newline blank text := by
  unfold blocks
  rw [splitOn_append_cons_self, splitOn_nil, splitOnP_append_cons _ _ rfl]
  simp

theorem solid_iff {text : List α} :
    Solid newline blank text ↔ ∀ line ∈ text.splitOn newline, ¬ line.all blank := by
  have general (text start : List α) :
      scan newline blank (some (start.all blank)) text = some false ↔
        ∀ line ∈ (text.splitOn newline).modifyHead (start ++ ·), ¬ line.all blank := by
    induction text generalizing start with
    | nil => simp
    | cons c text ih =>
      rw [scan_cons, splitOn_cons_eq_if_modifyHead]
      by_cases isNewline : c = newline
      · subst isNewline
        have rest := ih []
        simp only [all_nil, nil_append] at rest
        rw [if_pos (beq_self_eq_true _), modifyHead_cons, append_nil,
          forall_mem_cons]
        cases isBlank : start.all blank with
        | true => simp [scanStep]
        | false =>
          simp only [scanStep, if_true, Bool.false_eq_true, if_false, not_false_eq_true, true_and]
          rw [rest]
          rw [show (fun x : List α => x) = id from rfl, modifyHead_id]
          rfl
      · have next := ih (start ++ [c])
        rw [if_neg (by simpa using isNewline), modifyHead_modifyHead]
        have sameFun : (fun line => start ++ line) ∘ List.cons c =
            fun line => start ++ [c] ++ line := by
          funext line
          simp
        rw [sameFun, ← next]
        cases isBlank : blank c <;> simp [scanStep, isNewline, isBlank]
  have whole := general text []
  rw [show (fun line : List α => [] ++ line) = id from rfl, modifyHead_id] at whole
  exact whole

theorem blocks_of_solid (solid : Solid newline blank text) :
    blocks newline blank text = [text] := by
  unfold blocks
  rw [splitOnP_eq_singleton fun line mem =>
    Bool.eq_false_iff.mpr (solid_iff.mp solid line mem)]
  simp

theorem notBlank_of_mem_splitOnP {β : Type u} {separates : β → Bool} {items group : List β}
    (member : group ∈ items.splitOnP separates) : ∀ item ∈ group, separates item = false := by
  induction items generalizing group with
  | nil =>
    rw [splitOnP_nil, mem_singleton] at member
    simp [member]
  | cons item items ih =>
    rw [splitOnP_cons_eq_if_modifyHead] at member
    split at member
    · rcases mem_cons.mp member with rfl | member
      · simp
      · exact ih member
    · next notSeparates =>
      cases groups : items.splitOnP separates with
      | nil => exact absurd groups (splitOnP_ne_nil _ _)
      | cons first rest =>
        rw [groups] at member ih
        rcases mem_cons.mp member with rfl | member
        · rw [forall_mem_cons]
          exact ⟨Bool.eq_false_iff.mpr notSeparates, ih mem_cons_self⟩
        · exact ih (mem_cons_of_mem _ member)

theorem mem_of_mem_splitOnP {β : Type u} {separates : β → Bool} {items group : List β}
    (member : group ∈ items.splitOnP separates) : group ⊆ items := by
  induction items generalizing group with
  | nil =>
    rw [splitOnP_nil, mem_singleton] at member
    simp [member]
  | cons item items ih =>
    rw [splitOnP_cons_eq_if_modifyHead] at member
    split at member
    · rcases mem_cons.mp member with rfl | member
      · simp
      · exact List.Subset.trans (ih member) (subset_cons_self _ _)
    · cases groups : items.splitOnP separates with
      | nil => exact absurd groups (splitOnP_ne_nil _ _)
      | cons first rest =>
        rw [groups] at member ih
        rcases mem_cons.mp member with rfl | member
        · exact cons_subset_cons _ (ih mem_cons_self)
        · exact List.Subset.trans (ih (mem_cons_of_mem _ member)) (subset_cons_self _ _)

theorem solid_of_mem_blocks {block : List α} (mem : block ∈ blocks newline blank text) :
    Solid newline blank block := by
  rcases mem_map.mp mem with ⟨group, kept, rfl⟩
  rw [mem_filter, decide_eq_true_eq] at kept
  rcases kept with ⟨inGroups, notNil⟩
  have inLines : ∀ line ∈ group, newline ∉ line := by
    intro line isLine isIn
    have isSplit := mem_of_mem_splitOnP inGroups isLine
    have notSplit := notBlank_of_mem_splitOnP isSplit newline isIn
    simp at notSplit
  rw [solid_iff, splitOn_intercalate newline inLines notNil]
  intro line isLine
  rw [notBlank_of_mem_splitOnP inGroups line isLine]
  exact Bool.false_ne_true

end Scan

end

/-!
## Reading back concatenated text

A concatenation is read back without ambiguity where a separator does not
occur in the part before it, or where a decimal number ends.
-/

section

universe u

theorem split_at_first {α : Type u} {separator : α} {before before' after after' : List α}
    (free : separator ∉ before) (free' : separator ∉ before')
    (same : before ++ separator :: after = before' ++ separator :: after') :
    before = before' ∧ after = after' := by
  induction before generalizing before' with
  | nil =>
    cases before' with
    | nil => exact ⟨rfl, (List.cons.inj same).2⟩
    | cons head _ =>
      rcases List.cons.inj same with ⟨isHead, _⟩
      exact absurd (isHead ▸ mem_cons_self) free'
  | cons head tail ih =>
    cases before' with
    | nil =>
      rcases List.cons.inj same with ⟨isHead, _⟩
      exact absurd (isHead ▸ mem_cons_self) free
    | cons head' tail' =>
      rcases List.cons.inj same with ⟨headEq, tailEq⟩
      obtain ⟨beforeEq, afterEq⟩ := ih (fun mem => free (mem_cons_of_mem _ mem))
        (fun mem => free' (mem_cons_of_mem _ mem)) tailEq
      exact ⟨by rw [headEq, beforeEq], afterEq⟩

theorem split_at_last {α : Type u} {separator : α} {before before' after after' : List α}
    (free : separator ∉ after) (free' : separator ∉ after')
    (same : before ++ separator :: after = before' ++ separator :: after') :
    before = before' ∧ after = after' := by
  have reversed := congrArg List.reverse same
  simp only [reverse_append, reverse_cons, append_assoc, singleton_append]
    at reversed
  obtain ⟨afterEq, beforeEq⟩ := split_at_first (fun mem => free (mem_reverse.mp mem))
    (fun mem => free' (mem_reverse.mp mem)) reversed
  exact ⟨reverse_injective beforeEq, reverse_injective afterEq⟩

theorem toDigits_injective {first second : Nat}
    (same : Nat.toDigits 10 first = Nat.toDigits 10 second) : first = second := by
  have digits (n : Nat) : Nat.ofDigitChars 10 (Nat.toDigits 10 n) 0 = n :=
    Nat.ofDigitChars_toDigits (by decide) (by decide)
  rw [← digits first, same, digits second]

theorem isDigit_of_mem_toDigits {c : Char} {n : Nat} (mem : c ∈ Nat.toDigits 10 n) :
    c.isDigit = true :=
  Nat.isDigit_of_mem_toDigits (by decide) (by decide) mem

end

end OhMyClass.Text
