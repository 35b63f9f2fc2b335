import Mathlib.Algebra.BigOperators.Group.List.Basic
import Mathlib.Tactic.NormNum
import OhMyClass.Exporters.GiftItems

/-!
# Bodies of an export

For each kind of body, exactly when its answers are read back.
-/

namespace OhMyClass.Gift

open List OhMyClass.Text MCOption

/-! ## Signed bodies -/

theorem noSign_literal (text : Text) : ∀ token ∈ literal text,
    token ≠ .mark '~' ∧ token ≠ .mark '=' ∧ token ≠ .mark '#' := by
  intro token mem
  exact ⟨not_mark_of_mem_literal (by decide) token mem,
    not_mark_of_mem_literal (by decide) token mem,
    not_mark_of_mem_literal (by decide) token mem⟩

def optionEntry (option : Bool × Text) : Entry where
  sign := if option.1 then '=' else '~'
  read := literal option.2
  isSign := by cases option.1 <;> simp
  noSign := noSign_literal option.2

theorem tokens_writeSigned (option : Bool × Text) (rest : Text) :
    tokens (writeSigned option.1 option.2 ++ rest) =
      [.plain ' ', .plain ' ', .mark (optionEntry option).sign] ++ literal option.2 ++
        tokens rest := by
  rcases option with ⟨correct, text⟩
  unfold writeSigned optionEntry
  rw [append_assoc, append_assoc]
  cases correct <;>
    · simp only [Bool.false_eq_true, if_false, if_true, cons_append, nil_append]
      rw [show "  ".toList = [' ', ' '] from rfl, cons_append, cons_append,
        nil_append, tokens_cons (by decide), tokens_cons (by decide), tokens_cons (by decide)]
      simp [specials]

def pairEntry (pair : Text × Text) : Entry where
  sign := '='
  read := literal pair.1 ++ [.plain '-', .plain '>'] ++ literal pair.2
  isSign := .inr rfl
  noSign token member := by
    rw [List.mem_append, List.mem_append] at member
    rcases member with (member | member) | member
    · exact noSign_literal _ token member
    · have arrow : ∀ token ∈ [Token.plain '-', .plain '>'],
          token ≠ .mark '~' ∧ token ≠ .mark '=' ∧ token ≠ .mark '#' := by decide
      exact arrow token member
    · exact noSign_literal _ token member

theorem tokens_writePair (pair : Text × Text) (rest : Text) :
    tokens (writePair pair.1 pair.2 ++ rest) =
      [.plain ' ', .plain ' ', .mark '='] ++ (pairEntry pair).read ++ tokens rest := by
  unfold writePair pairEntry
  rw [show "  =".toList = [' ', ' ', '='] from rfl, show "->".toList = ['-', '>'] from rfl]
  simp only [cons_append, nil_append, append_assoc]
  rw [tokens_cons (by decide), tokens_cons (by decide), tokens_cons (by decide), tokens_escapeGift,
    tokens_cons (by decide), tokens_cons (by decide)]
  simp [specials]

theorem tokens_entryLines {β : Type} {line : β → Text} {entry : β → Entry}
    (isRead : ∀ item rest, tokens (line item ++ rest) =
      [.plain ' ', .plain ' ', .mark (entry item).sign] ++ (entry item).read ++ tokens rest)
    {items : List β} (someLine : items ≠ []) (rest : Text) :
    tokens ('\n' :: joinLines (items.map line) ++ '\n' :: rest) =
      entryTokens (items.map entry) ++ tokens rest := by
  rw [tokens_lines isRead someLine]
  unfold entryTokens
  rw [flatMap_map, append_assoc]
  rfl

theorem optionEntry_text {option : Bool × Text} (trimmed : Trimmed isBlank option.2) :
    (optionEntry option).text = option.2 := by
  change trim isBlank (chars (literal option.2)) = option.2
  rw [chars_literal, trim_of_trimmed trimmed]

theorem chars_append (before after : List Token) :
    chars (before ++ after) = chars before ++ chars after :=
  map_append

theorem pairEntry_text {pair : Text × Text} (trimmedLeft : Trimmed isBlank pair.1)
    (trimmedRight : Trimmed isBlank pair.2) :
    (pairEntry pair).text = pair.1 ++ '-' :: '>' :: pair.2 := by
  have isChars : chars (pairEntry pair).read = pair.1 ++ ['-', '>'] ++ pair.2 := by
    change chars (literal pair.1 ++ [.plain '-', .plain '>'] ++ literal pair.2) = _
    rw [chars_append, chars_append, chars_literal, chars_literal]
    rfl
  have arrow : Trimmed isBlank ['-', '>'] :=
    ⟨fun c isHead => by cases isHead; decide, fun c isLast => by cases isLast; decide⟩
  rw [Entry.text, isChars, trim_of_trimmed (trimmedLeft.append trimmedRight (by simp) arrow)]
  simp

theorem someWrong_options (offered : List (Bool × Text)) :
    SomeWrong (offered.map optionEntry) = true ↔ ∃ other ∈ offered, other.1 = false := by
  have isWrong (option : Bool × Text) : (optionEntry option).sign = '~' ↔ option.1 = false := by
    rcases option with ⟨correct, text⟩
    cases correct <;> simp [optionEntry]
  simp [SomeWrong, isWrong]

variable {someWrong : Bool}

theorem readsOption_entry {option : Bool × Text} (trimmed : Trimmed isBlank option.2) :
    ReadsOption option ((optionEntry option).answer someWrong) ↔
      NoWeight option.2 ∧ (someWrong = true ∨ NoArrow option.2) := by
  rw [Entry.answer, optionEntry_text trimmed]
  apply readsOption_iff
  rcases option with ⟨correct, text⟩
  cases correct
  · simp [optionEntry]
  · norm_num [optionEntry]

theorem options_reads_iff {offered : List (Bool × Text)}
    (trimmed : ∀ option ∈ offered, Trimmed isBlank option.2) :
    (Body.options offered).Reads (readAnswers (entryTokens (offered.map optionEntry))) ↔
      ∀ option ∈ offered, NoWeight option.2 ∧
        ((∃ other ∈ offered, other.1 = false) ∨ NoArrow option.2) := by
  rw [readAnswers_entryTokens]
  change List.Forall₂ ReadsOption offered _ ↔ _
  rw [map_map, forall₂_map_right_iff, forall₂_same]
  apply forall₂_congr
  intro option mem
  rw [Function.comp_apply, readsOption_entry (trimmed option mem), someWrong_options]

theorem pairs_reads_iff {matched : List (Text × Text)}
    (trimmed : ∀ pair ∈ matched, Trimmed isBlank pair.1 ∧ Trimmed isBlank pair.2) :
    (Body.pairs matched).Reads (readAnswers (entryTokens (matched.map pairEntry))) ↔
      ∀ pair ∈ matched, NoArrow pair.1 := by
  have noWrong : SomeWrong (matched.map pairEntry) = false := by
    simp [SomeWrong, pairEntry]
  rw [readAnswers_entryTokens, noWrong]
  change List.map _ _ = List.map _ _ ↔ _
  rw [map_map, map_inj_left]
  apply forall₂_congr
  intro pair mem
  rcases trimmed pair mem with ⟨trimmedLeft, trimmedRight⟩
  rw [Function.comp_apply, Entry.answer, pairEntry_text trimmedLeft trimmedRight,
    readAnswer_pair_iff trimmedLeft trimmedRight]

/-! ## Weighted bodies -/

theorem tokens_digits {digits : Text} (areDigits : ∀ c ∈ digits, c.isDigit = true) (rest : Text) :
    tokens (digits ++ rest) = digits.map Token.plain ++ tokens rest := by
  induction digits with
  | nil => rfl
  | cons c digits ih =>
    have notSpecial : c ∉ specials := by
      intro isSpecial
      have none : ∀ d ∈ specials, ¬ d.isDigit := by simp [specials, Char.isDigit]
      exact none c isSpecial (areDigits c mem_cons_self)
    have notBackslash : c ≠ '\\' := by
      rintro rfl
      exact notSpecial (by decide)
    rw [cons_append, tokens_cons notBackslash,
      ih fun d mem => areDigits d (mem_cons_of_mem _ mem)]
    simp [notSpecial]

/-- A weight and what is written after it. -/
def percentTokens (pct : Nat) : List Token :=
  .plain '%' :: (Nat.toDigits 10 pct).map Token.plain ++ [.plain '%']

def weightedTokens (pct : Nat) (option : MCOption) : List Token :=
  [.plain ' ', .plain ' '] ++ (if option.isCorrect then percentTokens pct else [.mark '~']) ++
    literal option.text

theorem tokens_writeWeighted (pct : Nat) (option : MCOption) (rest : Text) :
    tokens (writeWeighted pct option ++ rest) = weightedTokens pct option ++ tokens rest := by
  unfold writeWeighted weightedTokens
  rw [show "  ".toList = [' ', ' '] from rfl]
  simp only [cons_append, nil_append, append_assoc]
  rw [tokens_cons (by decide), tokens_cons (by decide)]
  cases option.isCorrect with
  | false =>
    simp only [Bool.false_eq_true, if_false, cons_append, nil_append]
    rw [tokens_cons (by decide)]
    simp [specials]
  | true =>
    simp only [if_true, cons_append, nil_append, percentTokens, append_assoc]
    rw [tokens_cons (by decide), tokens_digits fun c mem => isDigit_of_mem_toDigits mem,
      tokens_cons (by decide)]
    simp [specials]

def isSign (token : Token) : Bool := token = .mark '~' || token = .mark '='

theorem length_splitSigns (read : List Token) :
    (splitSigns read).2.length = read.countP isSign := by
  induction read with
  | nil => rfl
  | cons token read ih =>
    rw [splitSigns, countP_cons]
    by_cases sign : token = .mark '~' ∨ token = .mark '='
    · simp [sign, isSign, ih]
    · simp [sign, isSign, ih]

/-- There is an answer for each sign, and one more if there is text before
the first of them. -/
theorem length_readAnswers (read : List Token) :
    (readAnswers read).length =
      read.countP isSign + if answerText (splitSigns read).1 = [] then 0 else 1 := by
  rw [← length_splitSigns]
  unfold readAnswers
  simp only
  split
  · simp
  · cases isSigned : (splitSigns read).2 with
    | nil => cases truthOf (answerText (splitSigns read).1) <;> rfl
    | cons first rest => simp

theorem countP_literal (text : Text) : (literal text).countP isSign = 0 := by
  rw [countP_eq_zero]
  intro token mem
  rcases noSign_literal text token mem with ⟨notWrong, notRight, _⟩
  simp [isSign, notWrong, notRight]

theorem noSign_percentTokens (pct : Nat) : ∀ token ∈ percentTokens pct,
    token ≠ .mark '~' ∧ token ≠ .mark '=' ∧ token ≠ .mark '#' := by
  intro token mem
  simp only [percentTokens, cons_append, mem_cons, mem_append, mem_map,
    not_mem_nil, or_false] at mem
  rcases mem with rfl | ⟨c, _, rfl⟩ | rfl <;> simp

theorem countP_percentTokens (pct : Nat) : (percentTokens pct).countP isSign = 0 := by
  rw [countP_eq_zero]
  intro token mem
  rcases noSign_percentTokens pct token mem with ⟨notWrong, notRight, _⟩
  simp [isSign, notWrong, notRight]

theorem countP_weightedTokens (pct : Nat) (option : MCOption) :
    (weightedTokens pct option).countP isSign = if option.isCorrect then 0 else 1 := by
  unfold weightedTokens
  rw [countP_append, countP_literal]
  cases option.isCorrect
  · rfl
  · simp [countP_percentTokens, isSign]

def weightedBody (pct : Nat) (offered : List MCOption) : List Token :=
  offered.flatMap (fun option => .plain '\n' :: weightedTokens pct option) ++ [.plain '\n']

theorem countP_weightedBody (pct : Nat) (offered : List MCOption) :
    (weightedBody pct offered).countP isSign =
      offered.countP fun option => !option.isCorrect := by
  unfold weightedBody
  induction offered with
  | nil => rfl
  | cons option offered ih =>
    rw [flatMap_cons, append_assoc, countP_append, ih, countP_cons,
      countP_cons, countP_weightedTokens]
    cases option.isCorrect <;> simp [isSign, Nat.add_comm]

theorem lead_of_wrong {option : MCOption} (wrong : option.isCorrect = false) (pct : Nat)
    (others : List MCOption) :
    answerText (splitSigns (weightedBody pct (option :: others))).1 = [] := by
  have isLead : (splitSigns (weightedBody pct (option :: others))).1 = gap := by
    unfold weightedBody
    rw [flatMap_cons, weightedTokens, wrong]
    change (splitSigns (gap ++ .mark '~' :: (literal option.text ++ _ ++ _))).1 = gap
    rw [splitSigns_append noSign_gap]
    simp [splitSigns]
  rw [isLead]
  exact @answerText_append [] _ (forall_mem_nil _) (by decide)

theorem lead_of_correct {option : MCOption} (correct : option.isCorrect = true) (pct : Nat)
    (others : List MCOption) :
    answerText (splitSigns (weightedBody pct (option :: others))).1 ≠ [] := by
  have noSign : ∀ token ∈ gap ++ [Token.plain '%'],
      token ≠ .mark '~' ∧ token ≠ .mark '=' ∧ token ≠ .mark '#' := by decide
  have isLead : ∃ more, (splitSigns (weightedBody pct (option :: others))).1 =
      gap ++ [.plain '%'] ++ more := by
    unfold weightedBody
    rw [flatMap_cons, weightedTokens, correct]
    exact ⟨_, rfl⟩
  rcases isLead with ⟨more, isLead⟩
  rw [isLead]
  unfold answerText
  rw [takeWhile_append_of_pos fun token mem => decide_eq_true (noSign token mem).2.2]
  intro isNil
  have blanks := trim_eq_nil_iff.mp isNil
  have visible := blanks '%' (by simp [chars])
  revert visible
  decide

theorem positiveWeights_of_wrong {offered : List (Bool × Text)} {answers : List Answer}
    (each : List.Forall₂ ReadsOption offered answers)
    (wrong : ∀ option ∈ offered, option.1 = false) : answers.filterMap positiveWeight = [] := by
  induction each with
  | nil => rfl
  | @cons option answer _ _ reads _ ih =>
    rcases reads with ⟨weight, rfl, sign⟩
    have notPositive : ¬ 0 < weight := by
      rw [← sign, wrong option mem_cons_self]
      exact Bool.false_ne_true
    have isNone : positiveWeight (.choice weight option.2) = none := if_neg notPositive
    rw [filterMap_cons_none isNone]
    exact ih fun other mem => wrong other (mem_cons_of_mem _ mem)

/-- Only the first option can be a correct one: what stands before the first
sign is one answer, and later texts without a sign are none. -/
theorem weighted_shape {offered : List MCOption} {pct : Nat} (someLine : offered ≠ [])
    (reads : (Body.weighted offered).Reads (readAnswers (weightedBody pct offered))) :
    ∃ correct wrong, offered = correct :: wrong ∧ correct.isCorrect = true ∧
      ∀ option ∈ wrong, option.isCorrect = false := by
  rcases reads with ⟨each, sum⟩
  have length := each.length_eq
  rw [length_readAnswers, countP_weightedBody] at length
  cases offered with
  | nil => exact absurd rfl someLine
  | cons first others =>
    rw [countP_cons] at length
    cases isCorrect : first.isCorrect with
    | true =>
      rw [isCorrect, if_neg (lead_of_correct isCorrect pct others)] at length
      have allWrong : others.countP (fun option => !option.isCorrect) = others.length := by
        simpa using length.symm
      refine ⟨first, others, rfl, isCorrect, fun option member => ?_⟩
      simpa using countP_eq_length.mp allWrong option member
    | false =>
      rw [isCorrect, if_pos (lead_of_wrong isCorrect pct others)] at length
      have allWrong : others.countP (fun option => !option.isCorrect) = others.length := by
        simpa using length.symm
      have noneCorrect : ∀ option ∈ first :: others, option.isCorrect = false := by
        intro option member
        rcases mem_cons.mp member with rfl | member
        · exact isCorrect
        · simpa using countP_eq_length.mp allWrong option member
      rw [positiveWeights_of_wrong each] at sum
      · norm_num at sum
      · simpa [toPair] using noneCorrect

def fullWeight (text : Text) : List Token :=
  gap ++ percentTokens 100 ++ literal text

theorem chars_fullWeight (text : Text) :
    chars (fullWeight text) = ['\n', ' ', ' '] ++ (['%', '1', '0', '0', '%'] ++ text) := by
  unfold fullWeight
  rw [chars_append, chars_literal]
  rfl

variable {text : Text}

theorem trim_fullWeight (trimmed : Trimmed isBlank text) :
    trim isBlank (chars (fullWeight text)) = ['%', '1', '0', '0', '%'] ++ text := by
  have sign : Trimmed isBlank ['%', '1', '0', '0', '%'] :=
    ⟨fun c isHead => by cases isHead; decide, fun c isLast => by cases isLast; decide⟩
  rw [chars_fullWeight]
  exact trim_of_trimmed (Trimmed.nil.append trimmed (by simp) sign)

theorem noSign_fullWeight (text : Text) : ∀ token ∈ fullWeight text,
    token ≠ .mark '~' ∧ token ≠ .mark '=' ∧ token ≠ .mark '#' := by
  intro token member
  rw [fullWeight, mem_append, mem_append] at member
  rcases member with (member | member) | member
  · have each : ∀ token ∈ gap, token ≠ .mark '~' ∧ token ≠ .mark '=' ∧ token ≠ .mark '#' := by decide
    exact each token member
  · exact noSign_percentTokens 100 token member
  · exact noSign_literal text token member

theorem takeWeight_full (text : Text) :
    takeWeight (['%', '1', '0', '0', '%'] ++ text) = some (100, text) := by
  have isNumber : readNumber ['1', '0', '0'] = some 100 := by decide +kernel
  simp [takeWeight, isNumber]

theorem noArrow_full (text : Text) : NoArrow (['%', '1', '0', '0', '%'] ++ text) ↔ NoArrow text := by
  unfold NoArrow
  simp [pair_infix_cons]

variable {weight : ℚ}

theorem readAnswer_full (trimmed : Trimmed isBlank text)
    (noPair : someWrong = true ∨ NoArrow text) :
    readAnswer someWrong weight (['%', '1', '0', '0', '%'] ++ text) = .choice 100 text := by
  have isNone : (if someWrong then none else splitArrow (['%', '1', '0', '0', '%'] ++ text)) =
      none := by
    rcases noPair with isWrong | noArrow
    · rw [if_pos isWrong]
    · cases someWrong with
      | true => rfl
      | false => exact splitAtPair_eq_none_iff.mpr ((noArrow_full text).mpr noArrow)
  unfold readAnswer
  rw [isNone, takeWeight_full]
  simp only [trim_of_trimmed trimmed]

theorem noPair_of_readsOption {correct : Bool} {written : Text}
    (reads : ReadsOption (correct, text) (readAnswer someWrong weight written)) :
    someWrong = true ∨ NoArrow written := by
  by_contra isPair
  rcases not_or.mp isPair with ⟨noWrong, arrow⟩
  rw [Bool.not_eq_true] at noWrong
  cases split : splitArrow written with
  | none => exact arrow (splitAtPair_eq_none_iff.mp split)
  | some parts =>
    rcases reads with ⟨_, isChoice, _⟩
    unfold readAnswer at isChoice
    rw [noWrong] at isChoice
    simp only [Bool.false_eq_true, if_false, split] at isChoice
    cases isChoice

theorem full_reads_iff (trimmed : Trimmed isBlank text) {offered : List (Bool × Text)}
    (wrong : ∀ option ∈ offered, option.1 = false) (answers : List Answer) :
    (List.Forall₂ ReadsOption ((true, text) :: offered)
        (readAnswer someWrong weight (['%', '1', '0', '0', '%'] ++ text) :: answers) ∧
      ((readAnswer someWrong weight (['%', '1', '0', '0', '%'] ++ text) ::
        answers).filterMap positiveWeight).sum = 100) ↔
      (someWrong = true ∨ NoArrow text) ∧ List.Forall₂ ReadsOption offered answers := by
  rw [forall₂_cons]
  constructor
  · rintro ⟨⟨isFirst, others⟩, _⟩
    exact ⟨(noPair_of_readsOption isFirst).imp_right (noArrow_full text).mp, others⟩
  · rintro ⟨noPair, others⟩
    rw [readAnswer_full trimmed noPair]
    have positive : positiveWeight (.choice 100 text) = some 100 := by norm_num [positiveWeight]
    refine ⟨⟨⟨100, rfl, ?_⟩, others⟩, ?_⟩
    · norm_num
    · rw [filterMap_cons_some positive, positiveWeights_of_wrong others wrong]
      norm_num

theorem weightedBody_eq {correct : MCOption} {wrong : List MCOption}
    (isCorrect : correct.isCorrect = true) (areWrong : ∀ option ∈ wrong, option.isCorrect = false) :
    weightedBody (percentage (correctCount (correct :: wrong))) (correct :: wrong) =
      fullWeight correct.text ++ entryTokens ((wrong.map toPair).map optionEntry) := by
  have noCorrect : wrong.countP MCOption.isCorrect = 0 := by
    rw [countP_eq_zero]
    exact fun option mem => by simp [areWrong option mem]
  have full : percentage (correctCount (correct :: wrong)) = 100 := by
    rw [correctCount, countP_cons, noCorrect, isCorrect]
    rfl
  have each : wrong.flatMap (fun option => Token.plain '\n' :: weightedTokens 100 option) =
      wrong.flatMap fun option => (optionEntry option.toPair).line := by
    apply flatMap_congr
    intro option mem
    unfold weightedTokens Entry.line optionEntry toPair
    rw [areWrong option mem]
    rfl
  rw [full]
  unfold weightedBody entryTokens
  rw [flatMap_cons, each, map_map, flatMap_map]
  unfold weightedTokens fullWeight
  rw [isCorrect]
  simp [gap]

theorem weighted_reads_of_shape {correct : MCOption} {wrong : List MCOption}
    (trimmed : ∀ option ∈ correct :: wrong, Trimmed isBlank option.text)
    (isCorrect : correct.isCorrect = true) (areWrong : ∀ option ∈ wrong, option.isCorrect = false) :
    (Body.weighted (correct :: wrong)).Reads (readAnswers
        (weightedBody (percentage (correctCount (correct :: wrong))) (correct :: wrong))) ↔
      (∀ option ∈ wrong, NoWeight option.text) ∧ (wrong = [] → NoArrow correct.text) := by
  have trimmedCorrect := trimmed correct mem_cons_self
  have pairsWrong : ∀ option ∈ wrong.map toPair, option.1 = false := by
    simpa [toPair] using areWrong
  have someWrong : SomeWrong ((wrong.map toPair).map optionEntry) = true ↔
      wrong ≠ [] := by
    rw [someWrong_options]
    cases wrong with
    | nil => simp
    | cons first others =>
      exact iff_of_true ⟨first.toPair, by simp, areWrong first mem_cons_self⟩ (by simp)
  have wrongRead : List.Forall₂ ReadsOption (wrong.map toPair)
      (((wrong.map toPair).map optionEntry).map (Entry.answer
        (SomeWrong ((wrong.map toPair).map optionEntry)))) ↔
      ∀ option ∈ wrong, NoWeight option.text := by
    rw [map_map, map_map, forall₂_map_left_iff, forall₂_map_right_iff,
      forall₂_same]
    apply forall₂_congr
    intro option mem
    change ReadsOption option.toPair ((optionEntry option.toPair).answer _) ↔ _
    rw [readsOption_entry (trimmed option (mem_cons_of_mem _ mem)), someWrong,
      and_iff_left (.inl (ne_nil_of_mem mem))]
    rfl
  have noTruth : truthOf (['%', '1', '0', '0', '%'] ++ correct.text) = none := by
    simp [truthOf]
  rw [weightedBody_eq isCorrect areWrong, readAnswers_lead (noSign_fullWeight correct.text)
    (by rw [trim_fullWeight trimmedCorrect]; simp)
    (by rw [trim_fullWeight trimmedCorrect]; exact noTruth), trim_fullWeight trimmedCorrect]
  change List.Forall₂ ReadsOption (correct.toPair :: wrong.map toPair) _ ∧ _ ↔ _
  rw [toPair, isCorrect, full_reads_iff trimmedCorrect pairsWrong, wrongRead, someWrong,
    and_comm, or_iff_not_imp_left, not_not]

/-- The tokens between the braces. -/
def Body.tokens : Body → List Token
  | options offered => entryTokens (offered.map optionEntry)
  | weighted offered => weightedBody (percentage (correctCount offered)) offered
  | pairs matched => entryTokens (matched.map pairEntry)
  | truth value => Gift.tokens (Body.truth value).inner
  | empty => [.plain ' ']

theorem Body.tokens_inner {body : Body} (someLine : body.SomeLine) (rest : Text) :
    Gift.tokens (body.inner ++ '}' :: rest) = body.tokens ++ .mark '}' :: Gift.tokens rest := by
  have brace : Gift.tokens ('}' :: rest) = .mark '}' :: Gift.tokens rest :=
    tokens_cons (by decide) rest
  cases body with
  | options offered =>
    change Gift.tokens ('\n' :: joinLines (offered.map fun option =>
      writeSigned option.1 option.2) ++ ['\n'] ++ '}' :: rest) = _
    rw [append_assoc, singleton_append, tokens_entryLines tokens_writeSigned someLine]
    rfl
  | weighted offered =>
    change Gift.tokens ('\n' :: joinLines (offered.map
      (writeWeighted (percentage (correctCount offered)))) ++ ['\n'] ++ '}' :: rest) = _
    rw [append_assoc, singleton_append,
      tokens_lines (tokens_writeWeighted _) someLine, brace]
    simp [tokens, weightedBody]
  | pairs matched =>
    change Gift.tokens ('\n' :: joinLines (matched.map fun pair =>
      writePair pair.1 pair.2) ++ ['\n'] ++ '}' :: rest) = _
    have isRead := @tokens_entryLines (Text × Text) (fun pair => writePair pair.1 pair.2)
      pairEntry tokens_writePair _ someLine
    rw [append_assoc, singleton_append, isRead]
    rfl
  | truth value => cases value <;> rfl
  | empty => rfl

theorem Body.reads_iff {body : Body} (someLine : body.SomeLine)
    (trimmed : ∀ text ∈ body.texts, Trimmed isBlank text) :
    body.Reads (readAnswers body.tokens) ↔ body.Readable := by
  cases body with
  | options offered =>
    rw [tokens, options_reads_iff fun option mem => trimmed _ (mem_map_of_mem mem)]
    exact (and_iff_right someLine).symm
  | weighted offered =>
    have trimmedOptions : ∀ option ∈ offered, Trimmed isBlank option.text :=
      fun option mem => trimmed _ (mem_map_of_mem mem)
    constructor
    · intro reads
      rcases weighted_shape someLine reads with ⟨correct, wrong, rfl, isCorrect, areWrong⟩
      rcases (weighted_reads_of_shape trimmedOptions isCorrect areWrong).mp reads with
        ⟨noWeights, noArrow⟩
      exact ⟨correct, wrong, rfl, isCorrect,
        fun option mem => ⟨areWrong option mem, noWeights option mem⟩, noArrow⟩
    · rintro ⟨correct, wrong, rfl, isCorrect, others, noArrow⟩
      exact (weighted_reads_of_shape trimmedOptions isCorrect
        fun option mem => (others option mem).1).mpr
          ⟨fun option mem => (others option mem).2, noArrow⟩
  | pairs matched =>
    rw [tokens, pairs_reads_iff fun pair mem => ?_]
    · exact (and_iff_right someLine).symm
    · constructor <;> exact trimmed _ (mem_flatMap.mpr ⟨pair, mem, by simp⟩)
  | truth value => cases value <;> exact iff_of_true rfl trivial
  | empty => exact iff_of_true rfl trivial

end OhMyClass.Gift
