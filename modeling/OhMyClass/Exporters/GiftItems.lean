import Mathlib.Algebra.Ring.Rat
import Mathlib.Data.List.Forall2
import OhMyClass.Exporters.Gift

/-!
# Tokens of an export

What a reader takes from escaped texts, and from names, which one of the
writers leaves as they are.
-/

namespace OhMyClass.Gift

open List OhMyClass.Text

/-- The tokens of an escaped text: only its colons are marks. -/
def literal (text : Text) : List Token := text.map fun c => ⟨c, decide (c = ':')⟩

@[simp]
theorem chars_literal (text : Text) : chars (literal text) = text := by
  simp [chars, literal, Function.comp_def]

theorem tokens_cons {c : Char} (notBackslash : c ≠ '\\') (text : Text) :
    tokens (c :: text) = ⟨c, decide (c ∈ specials)⟩ :: tokens text := by
  simp [tokensFrom, notBackslash]

theorem tokens_escaped {c : Char} (isSpecial : c ∈ specials) (text : Text) :
    tokens ('\\' :: c :: text) = .plain c :: tokens text := by
  simp [tokensFrom, isSpecial]

theorem tokens_backslash {c : Char} (notSpecial : c ∉ specials) (text : Text) :
    tokens ('\\' :: c :: text) = .plain '\\' :: .plain c :: tokens text := by
  simp [tokensFrom, notSpecial]

theorem tokens_escapeChar (c : Char) (text : Text) :
    tokens (escapeChar c ++ text) = ⟨c, decide (c = ':')⟩ :: tokens text := by
  unfold escapeChar
  split
  · next escaped =>
    have isSpecial : ∀ c ∈ ['\\', '~', '=', '{', '}', '#'], c ∈ specials ∧ c ≠ ':' := by
      simp [specials]
    rw [cons_append, cons_append, nil_append,
      tokens_escaped (isSpecial c escaped).1, decide_eq_false (isSpecial c escaped).2]
  · next notEscaped =>
    simp only [mem_cons, not_mem_nil, or_false, not_or] at notEscaped
    rw [singleton_append, tokens_cons notEscaped.1]
    simp [specials, notEscaped]

@[simp]
theorem tokens_escapeGift (text rest : Text) :
    tokens (escapeGift text ++ rest) = literal text ++ tokens rest := by
  induction text with
  | nil => rfl
  | cons c text ih =>
    rw [escapeGift_cons, append_assoc, tokens_escapeChar, ih]
    rfl

theorem isMark_literal {text : Text} {token : Token} (mem : token ∈ literal text)
    {c : Char} (isMark : token = .mark c) : c = ':' := by
  rcases mem_map.mp mem with ⟨d, _, rfl⟩
  injection isMark with same isColon
  rw [← same]
  exact of_decide_eq_true isColon

theorem not_mark_of_mem_literal {text : Text} {c : Char} (notColon : c ≠ ':') :
    ∀ token ∈ literal text, token ≠ .mark c :=
  fun _ mem isMark => notColon (isMark_literal mem isMark)

/-! ## Names -/

/-- A name that ends where the next double colon begins. -/
def EndsAtColons (name : Text) : Prop := ¬ [':', ':'] <:+: name ++ [':']

/-- A name that is read as it stands in the text. -/
structure PlainName (name : Text) : Prop where
  endsAtColons : EndsAtColons name
  noEscape : ∀ c ∈ specials, ¬ ['\\', c] <:+: name ++ [':']

/-- The tokens of a text without escapes. -/
def unescaped (text : Text) : List Token :=
  text.map fun c => ⟨c, decide (c ∈ specials ∧ c ≠ '\\')⟩

@[simp]
theorem chars_unescaped (text : Text) : chars (unescaped text) = text := by
  simp [chars, unescaped, Function.comp_def]

/-- Whether tokens hold two colons is seen from their characters, where each
colon is a mark. -/
theorem colons_infix_iff {read : List Token}
    (marks : ∀ token ∈ read, token.char = ':' → token = .mark ':') :
    [Token.mark ':', .mark ':'] <:+: read ↔ [':', ':'] <:+: chars read := by
  induction read with
  | nil => simp [chars]
  | cons token read ih =>
    have rest := ih fun other mem => marks other (mem_cons_of_mem _ mem)
    rw [pair_infix_cons, rest]
    change _ ↔ [':', ':'] <:+: token.char :: chars read
    rw [pair_infix_cons]
    have first : token = .mark ':' ↔ token.char = ':' :=
      ⟨fun isMark => isMark ▸ rfl, marks token mem_cons_self⟩
    have second : read.head? = some (.mark ':') ↔ (chars read).head? = some ':' := by
      cases read with
      | nil => simp [chars]
      | cons next read =>
        have isColon := marks next (mem_cons_of_mem _ mem_cons_self)
        simp only [List.head?_cons, Option.some.injEq, chars, map_cons]
        exact ⟨fun isMark => isMark ▸ rfl, isColon⟩
    rw [first, second]

theorem marks_literal (text : Text) :
    ∀ token ∈ literal text ++ [.mark ':'], token.char = ':' → token = .mark ':' := by
  intro token member isColon
  rcases mem_append.mp member with member | member
  · rcases mem_map.mp member with ⟨c, _, rfl⟩
    simp only at isColon
    simp [isColon]
  · exact mem_singleton.mp member

theorem marks_unescaped (text : Text) :
    ∀ token ∈ unescaped text ++ [.mark ':'], token.char = ':' → token = .mark ':' := by
  intro token member isColon
  rcases mem_append.mp member with member | member
  · rcases mem_map.mp member with ⟨c, _, rfl⟩
    subst isColon
    rfl
  · exact mem_singleton.mp member

theorem takeName_iff {name : List Token}
    (marks : ∀ token ∈ name ++ [.mark ':'], token.char = ':' → token = .mark ':')
    (rest : List Token) :
    takeName (name ++ .mark ':' :: .mark ':' :: rest) = some (name, rest) ↔
      EndsAtColons (chars name) := by
  unfold takeName EndsAtColons
  rw [splitAtPair_eq_some_iff, colons_infix_iff marks]
  simp [chars]

/-- A name that is read from them is no proper beginning of what is meant
exactly if it ends at the colons. -/
theorem endsAtColons_of_takeName {name read after rest : List Token} {more : Text}
    (marks : ∀ token ∈ name ++ [.mark ':'], token.char = ':' → token = .mark ':')
    (taken : takeName (name ++ .mark ':' :: .mark ':' :: rest) = some (read, after))
    (isName : chars read = chars name ++ more) : EndsAtColons (chars name) := by
  have notEarly : name.length ≤ read.length := by
    have length := congrArg List.length isName
    simp only [chars, length_append, length_map] at length
    omega
  have isEnd := (splitAtPair_of_length_le taken notEarly).2.2
  rw [colons_infix_iff marks] at isEnd
  simpa [EndsAtColons, chars] using isEnd

theorem tokens_of_noEscape {name : Text}
    (noEscape : ∀ c ∈ specials, ¬ ['\\', c] <:+: name ++ [':']) (rest : Text) :
    tokens (name ++ ':' :: rest) = unescaped name ++ tokens (':' :: rest) := by
  induction name with
  | nil => rfl
  | cons c name ih =>
    have later : ∀ d ∈ specials, ¬ ['\\', d] <:+: name ++ [':'] := by
      intro d isSpecial found
      exact noEscape d isSpecial (pair_infix_cons.mpr (.inr found))
    by_cases isBackslash : c = '\\'
    · subst isBackslash
      cases name with
      | nil =>
        have colon := noEscape ':' (by decide)
        exact absurd (infix_refl _) colon
      | cons d name =>
        have notSpecial : d ∉ specials := by
          intro isSpecial
          apply noEscape d isSpecial
          exact pair_infix_cons.mpr (.inl ⟨rfl, rfl⟩)
        have notBackslash : d ≠ '\\' := by
          rintro rfl
          exact notSpecial (by decide)
        have next := ih later
        rw [cons_append, tokens_cons notBackslash] at next
        injection next with _ rest
        rw [cons_append, cons_append, tokens_backslash notSpecial, rest]
        simp [unescaped, notSpecial]
    · rw [cons_append, tokens_cons isBackslash, ih later]
      simp [unescaped, isBackslash]

theorem takeName_cons {token : Token} {tokens read after : List Token}
    (taken : takeName (token :: tokens) = some (read, after)) :
    read = [] ∨ ∃ others, read = token :: others ∧ takeName tokens = some (others, after) := by
  unfold takeName splitAtPair at taken
  split at taken
  · cases taken
    exact .inl rfl
  · rcases Option.map_eq_some_iff.mp taken with ⟨⟨others, _⟩, isSome, same⟩
    cases same
    exact .inr ⟨others, rfl, isSome⟩

theorem replicate_append_cons {α : Type} (k : ℕ) (a : α) (rest : List α) :
    List.replicate k a ++ a :: rest = a :: (List.replicate k a ++ rest) := by
  induction k with
  | zero => rfl
  | succ k ih => rw [replicate_succ, cons_append, ih, cons_append]

theorem noEscape_cons {c : Char} {name : Text} (notBackslash : c ≠ '\\')
    (noEscape : ∀ d ∈ specials, ¬ ['\\', d] <:+: name ++ [':']) :
    ∀ d ∈ specials, ¬ ['\\', d] <:+: c :: name ++ [':'] := by
  intro d isSpecial found
  rcases pair_infix_cons.mp found with ⟨isBackslash, _⟩ | found
  · exact notBackslash isBackslash
  · exact noEscape d isSpecial found

/-- An escape gives one character for two.  What is missing then would have to
be made up for by backslashes, of which there are never enough. -/
def NoEscapeRead (name : Text) : Prop :=
  ∀ (rest more : Text) (read after : List Token) (k : ℕ),
    takeName (tokens (name ++ ':' :: ':' :: rest)) = some (read, after) →
    chars read = List.replicate k '\\' ++ (name ++ more) →
    k = 0 ∧ ∀ c ∈ specials, ¬ ['\\', c] <:+: name ++ [':']

theorem takeName_begins {token : Token} {tokens read after : List Token} {c : Char} {text : Text}
    (taken : takeName (token :: tokens) = some (read, after)) (isName : chars read = c :: text) :
    ∃ others, takeName tokens = some (others, after) ∧ token.char = c ∧ chars others = text := by
  rcases takeName_cons taken with rfl | ⟨others, rfl, isSome⟩
  · cases isName
  · injection isName with first isText
    exact ⟨others, isSome, first, isText⟩

theorem NoEscapeRead.nil : NoEscapeRead [] := by
  intro rest more read after k taken isName
  rcases taken with ⟨rfl, _⟩
  constructor
  · cases k with
    | zero => rfl
    | succ k => cases isName
  · intro c _ found
    have length := found.length_le
    simp at length

theorem NoEscapeRead.trailing : NoEscapeRead ['\\'] := by
  intro rest more read after k taken isName
  rw [cons_append, replicate_append_cons] at isName
  rcases takeName_begins taken isName with ⟨_, _, first, _⟩
  cases first

theorem NoEscapeRead.escape {d : Char} {name : Text} (isSpecial : d ∈ specials)
    (inner : NoEscapeRead name) : NoEscapeRead ('\\' :: d :: name) := by
  intro rest more read after k taken isName
  rw [cons_append, cons_append, tokens_escaped isSpecial] at taken
  rw [cons_append, replicate_append_cons] at isName
  rcases takeName_begins taken isName with ⟨others, isSome, rfl, isRest⟩
  rw [cons_append, replicate_append_cons, ← cons_append, ← replicate_succ]
    at isRest
  exact absurd (inner _ _ _ _ _ isSome isRest).1 (Nat.succ_ne_zero k)

theorem NoEscapeRead.backslash {d : Char} {name : Text} (notSpecial : d ∉ specials)
    (inner : NoEscapeRead name) : NoEscapeRead ('\\' :: d :: name) := by
  have notBackslash : d ≠ '\\' := by
    rintro rfl
    exact notSpecial (by decide)
  intro rest more read after k taken isName
  rw [cons_append, cons_append, tokens_backslash notSpecial] at taken
  rw [cons_append, replicate_append_cons] at isName
  rcases takeName_begins taken isName with ⟨others, isSome, _, isRest⟩
  cases k with
  | succ k =>
    rcases takeName_begins isSome isRest with ⟨_, _, isBackslash, _⟩
    exact absurd isBackslash notBackslash
  | zero =>
    rcases takeName_begins isSome isRest with ⟨later, isLater, _, isText⟩
    have noEscape := (inner _ _ _ _ 0 isLater isText).2
    refine ⟨rfl, fun c isSpecial found => ?_⟩
    rcases pair_infix_cons.mp found with ⟨_, isHead⟩ | found
    · injection isHead with same
      exact notSpecial (same ▸ isSpecial)
    · exact noEscape_cons notBackslash noEscape c isSpecial found

theorem NoEscapeRead.cons {c : Char} {name : Text} (notBackslash : c ≠ '\\')
    (inner : NoEscapeRead name) : NoEscapeRead (c :: name) := by
  intro rest more read after k taken isName
  rw [cons_append, tokens_cons notBackslash] at taken
  cases k with
  | succ k =>
    rcases takeName_begins taken isName with ⟨_, _, isBackslash, _⟩
    exact absurd isBackslash notBackslash
  | zero =>
    rcases takeName_begins taken isName with ⟨others, isSome, _, isText⟩
    exact ⟨rfl, noEscape_cons notBackslash (inner _ _ _ _ 0 isSome isText).2⟩

theorem noEscapeRead (name : Text) : NoEscapeRead name := by
  induction length : name.length using Nat.strong_induction_on generalizing name with
  | h size ih =>
  subst length
  cases name with
  | nil => exact NoEscapeRead.nil
  | cons c name =>
    by_cases isBackslash : c = '\\'
    · subst isBackslash
      cases name with
      | nil => exact NoEscapeRead.trailing
      | cons d name =>
        have inner := ih name.length (by simp only [length_cons]; omega) name rfl
        by_cases isSpecial : d ∈ specials
        · exact NoEscapeRead.escape isSpecial inner
        · exact NoEscapeRead.backslash isSpecial inner
    · exact NoEscapeRead.cons isBackslash (ih name.length (by simp) name rfl)

theorem takeName_of_plain {name : Text} (plain : PlainName name) (rest : Text) :
    takeName (tokens (name ++ ':' :: ':' :: rest)) = some (unescaped name, tokens rest) := by
  rw [tokens_of_noEscape plain.noEscape]
  change takeName (unescaped name ++ .mark ':' :: .mark ':' :: tokens rest) = _
  rw [takeName_iff (marks_unescaped name), chars_unescaped]
  exact plain.endsAtColons

theorem plainName_of_takeName {name more : Text} {read after : List Token} {rest : Text}
    (taken : takeName (tokens (name ++ ':' :: ':' :: rest)) = some (read, after))
    (isName : chars read = name ++ more) : PlainName name := by
  have noEscape := (noEscapeRead name _ _ _ _ 0 taken isName).2
  refine ⟨?_, noEscape⟩
  rw [tokens_of_noEscape noEscape] at taken
  have isRead : chars read = chars (unescaped name) ++ more := by rw [isName, chars_unescaped]
  have ends := endsAtColons_of_takeName (marks_unescaped name) taken isRead
  rwa [chars_unescaped] at ends

/-- One writer leaves a name as it is, the other one escapes it. -/
inductive ItemName where
  | asIs (id : Text)
  | escaped (id : Text)

namespace ItemName

def id : ItemName → Text
  | asIs id => id
  | escaped id => id

def text : ItemName → Text
  | asIs id => id
  | escaped id => giftEscape id

/-- The names that are read back. -/
def Readable : ItemName → Prop
  | asIs id => PlainName id
  | escaped id => EndsAtColons id

theorem takeName_of_readable {name : ItemName} (readable : name.Readable) (rest : Text) :
    ∃ read, takeName (tokens (name.text ++ ':' :: ':' :: rest)) = some (read, tokens rest) ∧
      chars read = name.id := by
  cases name with
  | asIs id => exact ⟨_, takeName_of_plain readable rest, chars_unescaped id⟩
  | escaped id =>
    refine ⟨literal id, ?_, chars_literal id⟩
    rw [text, giftEscape_eq, tokens_escapeGift]
    change takeName (literal id ++ .mark ':' :: .mark ':' :: tokens rest) = _
    rw [takeName_iff (marks_literal id), chars_literal]
    exact readable

theorem readable_of_takeName {name : ItemName} {read after : List Token} {rest more : Text}
    (taken : takeName (tokens (name.text ++ ':' :: ':' :: rest)) = some (read, after))
    (isName : chars read = name.id ++ more) : name.Readable := by
  cases name with
  | asIs id => exact plainName_of_takeName taken isName
  | escaped id =>
    rw [text, giftEscape_eq, tokens_escapeGift] at taken
    have isRead : chars read = chars (literal id) ++ more := by
      rw [isName, chars_literal]
      rfl
    have ends := endsAtColons_of_takeName (marks_literal id) taken isRead
    rwa [chars_literal] at ends

end ItemName

/-! ## Items of an export -/

section

inductive Body where
  | options (offered : List (Bool × Text))
  | weighted (offered : List MCOption)
  | pairs (matched : List (Text × Text))
  | truth (value : Bool)
  | empty

structure Item where
  name : ItemName
  stem : Text
  body : Body

def Body.lines : Body → List Text
  | options offered => offered.map fun option => writeSigned option.1 option.2
  | weighted offered => offered.map (writeWeighted (percentage (correctCount offered)))
  | pairs matched => matched.map fun pair => writePair pair.1 pair.2
  | truth _ => []
  | empty => []

/-- What is written between the braces. -/
def Body.inner : Body → Text
  | truth value => [' '] ++ (if value then "TRUE".toList else "FALSE".toList) ++ [' ']
  | empty => [' ']
  | body => '\n' :: joinLines body.lines ++ ['\n']

def Item.text (item : Item) : Text :=
  "::".toList ++ item.name.text ++ "::[html]".toList ++ escapeGift item.stem ++ ['{'] ++
    item.body.inner ++ ['}']

def Body.SomeLine : Body → Prop
  | options offered => offered ≠ []
  | weighted offered => offered ≠ []
  | pairs matched => matched ≠ []
  | truth _ => True
  | empty => True

/-- The answer is this text, with a positive weight exactly if it is correct. -/
def ReadsOption (option : Bool × Text) (answer : Answer) : Prop :=
  ∃ weight, answer = .choice weight option.2 ∧ (option.1 = true ↔ 0 < weight)

def positiveWeight : Answer → Option ℚ
  | .choice weight _ => if 0 < weight then some weight else none
  | _ => none

def MCOption.toPair (option : MCOption) : Bool × Text := (option.isCorrect, option.text)

def Body.Reads : Body → List Answer → Prop
  | options offered, answers => List.Forall₂ ReadsOption offered answers
  | weighted offered, answers =>
    List.Forall₂ ReadsOption (offered.map MCOption.toPair) answers ∧
      (answers.filterMap positiveWeight).sum = 100
  | pairs matched, answers => answers = matched.map fun pair => .pair pair.1 pair.2
  | truth value, answers => answers = [.truth value]
  | empty, answers => answers = []

structure Item.Reads (item : Item) (read : ReadQuestion) : Prop where
  name : read.name = item.name.id
  stem : read.stem = item.stem
  answers : item.body.Reads read.answers

def NoArrow (text : Text) : Prop := ¬ ['-', '>'] <:+: text

def NoWeight (text : Text) : Prop := takeWeight text = none

/-- The bodies whose answers are read back. -/
def Body.Readable : Body → Prop
  | options offered => offered ≠ [] ∧ ∀ option ∈ offered, NoWeight option.2 ∧
      ((∃ other ∈ offered, other.1 = false) ∨ NoArrow option.2)
  | weighted offered => ∃ correct wrong, offered = correct :: wrong ∧ correct.isCorrect = true ∧
      (∀ option ∈ wrong, option.isCorrect = false ∧ NoWeight option.text) ∧
      (wrong = [] → NoArrow correct.text)
  | pairs matched => matched ≠ [] ∧ ∀ pair ∈ matched, NoArrow pair.1
  | truth _ => True
  | empty => True

def Body.texts : Body → List Text
  | options offered => offered.map Prod.snd
  | weighted offered => offered.map MCOption.text
  | pairs matched => matched.flatMap fun pair => [pair.1, pair.2]
  | truth _ => []
  | empty => []

def Item.texts (item : Item) : List Text := item.name.id :: item.stem :: item.body.texts

/-! ## Single answers -/

variable {text rest : Text} {weight : ℚ}

theorem takeWeight_suffix (taken : takeWeight text = some (weight, rest)) :
    ∃ c, c :: rest <:+ text.tail := by
  unfold takeWeight at taken
  split at taken
  · next digits =>
    split at taken
    · next c after isDropped =>
      rcases Option.map_eq_some_iff.mp taken with ⟨_, _, same⟩
      injection same with _ isRest
      subst isRest
      have isSuffix : digits.dropWhile (· ≠ '%') <:+ digits := dropWhile_suffix _
      rw [isDropped] at isSuffix
      exact ⟨c, isSuffix⟩
    · cases taken
  · cases taken

theorem length_lt_of_takeWeight (taken : takeWeight text = some (weight, rest)) :
    rest.length < text.length := by
  rcases takeWeight_suffix taken with ⟨c, isSuffix⟩
  have length := isSuffix.length_le
  rw [length_cons, length_tail] at length
  omega

/-- An option is read as its text exactly if no weight stands before it and no
arrow makes it a pair. -/
theorem readsOption_iff {someWrong correct : Bool} (sign : correct = true ↔ 0 < weight) :
    ReadsOption (correct, text) (readAnswer someWrong weight text) ↔
      NoWeight text ∧ (someWrong = true ∨ NoArrow text) := by
  have noPair : (if someWrong then none else splitArrow text) = none ↔
      someWrong = true ∨ NoArrow text := by
    cases someWrong with
    | true => simp
    | false => simp [splitArrow, NoArrow, splitAtPair_eq_none_iff]
  unfold readAnswer
  rw [← noPair]
  split
  · next left right isPair =>
    rw [isPair]
    refine iff_of_false ?_ fun both => nomatch both.2
    rintro ⟨_, isChoice, _⟩
    cases isChoice
  · next isNone =>
    rw [isNone, and_iff_left rfl]
    unfold NoWeight
    cases taken : takeWeight text with
    | none => exact iff_of_true ⟨weight, rfl, sign⟩ rfl
    | some given =>
      rcases given with ⟨given, rest⟩
      refine iff_of_false ?_ nofun
      rintro ⟨_, isChoice, _⟩
      injection isChoice with _ sameText
      have notLonger : (trim isBlank rest).length ≤ rest.length := length_trim_le rest
      rw [sameText] at notLonger
      exact absurd (length_lt_of_takeWeight taken) (Nat.not_lt.mpr notLonger)

variable {left right : Text}

theorem splitArrow_pair_iff :
    splitArrow (left ++ '-' :: '>' :: right) = some (left, right) ↔ NoArrow left := by
  unfold splitArrow NoArrow
  rw [splitAtPair_eq_some_iff, and_iff_right rfl]
  apply not_congr
  constructor
  · intro found
    rw [infix_concat_iff] at found
    rcases found with isSuffix | found
    · rcases eq_nil_or_concat left with rfl | ⟨front, last, rfl⟩
      · have length := isSuffix.length_le
        simp at length
      · rcases isSuffix with ⟨before, same⟩
        have ends := congrArg List.getLast? same
        simp at ends
    · exact found
  · intro found
    exact found.trans (prefix_append _ _).isInfix

theorem readAnswer_pair_iff (trimmedLeft : Trimmed isBlank left)
    (trimmedRight : Trimmed isBlank right) :
    readAnswer false weight (left ++ '-' :: '>' :: right) = .pair left right ↔ NoArrow left := by
  constructor
  · intro isPair
    by_contra arrow
    cases split : splitArrow (left ++ '-' :: '>' :: right) with
    | none =>
      have free := splitAtPair_eq_none_iff.mp split
      exact free ⟨left, right, by simp⟩
    | some parts =>
      rcases parts with ⟨early, late⟩
      have isLeft : trim isBlank early = left := by
        unfold readAnswer at isPair
        simp only [Bool.false_eq_true, if_false, split] at isPair
        injection isPair
      have notEarly : left.length ≤ early.length := by
        rw [← isLeft]
        exact length_trim_le early
      rcases splitAtPair_of_length_le split notEarly with ⟨rfl, rfl, _⟩
      exact arrow (splitArrow_pair_iff.mp split)
  · intro noArrow
    unfold readAnswer
    simp only [Bool.false_eq_true, if_false, splitArrow_pair_iff.mpr noArrow,
      trim_of_trimmed trimmedLeft, trim_of_trimmed trimmedRight]

end

/-!
## Answers of an export

What a reader makes of the lines between the braces.
-/

section

/-! ## Signed entries -/

/-- What stands between the lines of two entries. -/
def gap : List Token := [.plain '\n', .plain ' ', .plain ' ']

/-- A sign and the tokens after it, which are no signs and no feedback. -/
structure Entry where
  sign : Char
  read : List Token
  isSign : sign = '~' ∨ sign = '='
  noSign : ∀ token ∈ read, token ≠ .mark '~' ∧ token ≠ .mark '=' ∧ token ≠ .mark '#'

def Entry.line (entry : Entry) : List Token := gap ++ .mark entry.sign :: entry.read

def Entry.text (entry : Entry) : Text := trim isBlank (chars entry.read)

/-- The tokens of the lines, up to the closing brace. -/
def entryTokens (entries : List Entry) : List Token :=
  entries.flatMap Entry.line ++ [.plain '\n']

/-- What stands before the first of the signs. -/
def leadTokens : List Entry → List Token
  | [] => [.plain '\n']
  | _ => gap

def signedEntries : List Entry → List (Char × List Token)
  | [] => []
  | entry :: entries => (entry.sign, entry.read ++ leadTokens entries) :: signedEntries entries

theorem splitSigns_append {before : List Token}
    (noSign : ∀ token ∈ before, token ≠ .mark '~' ∧ token ≠ .mark '=') (after : List Token) :
    splitSigns (before ++ after) = (before ++ (splitSigns after).1, (splitSigns after).2) := by
  induction before with
  | nil => rfl
  | cons token before ih =>
    rcases noSign token mem_cons_self with ⟨notWrong, notRight⟩
    rw [cons_append, splitSigns, ih fun other mem =>
      noSign other (mem_cons_of_mem _ mem)]
    simp [notWrong, notRight]

theorem noSign_gap : ∀ token ∈ gap, token ≠ Token.mark '~' ∧ token ≠ .mark '=' := by decide

theorem splitSigns_entryTokens (entries : List Entry) :
    splitSigns (entryTokens entries) = (leadTokens entries, signedEntries entries) := by
  induction entries with
  | nil => decide
  | cons entry entries ih =>
    unfold entryTokens at ih ⊢
    rw [flatMap_cons, Entry.line, append_assoc, append_assoc,
      splitSigns_append noSign_gap, cons_append, splitSigns,
      splitSigns_append fun token mem =>
        ⟨(entry.noSign token mem).1, (entry.noSign token mem).2.1⟩, ih]
    rcases entry.isSign with isSign | isSign <;>
      simp [isSign, leadTokens, signedEntries]

theorem answerText_append {read more : List Token} (noFeedback : ∀ token ∈ read, token ≠ .mark '#')
    (blanks : ∀ token ∈ more, token ≠ .mark '#' ∧ isBlank token.char = true) :
    answerText (read ++ more) = trim isBlank (chars read) := by
  have whole : (read ++ more).takeWhile (· ≠ Token.mark '#') = read ++ more := by
    rw [takeWhile_eq_self_iff]
    intro token member
    rcases mem_append.mp member with member | member
    · exact decide_eq_true (noFeedback token member)
    · exact decide_eq_true (blanks token member).1
  unfold answerText
  rw [whole, chars, map_append]
  apply trim_append_blank
  intro c member
  rcases mem_map.mp member with ⟨token, inMore, rfl⟩
  exact (blanks token inMore).2

theorem blank_leadTokens (entries : List Entry) :
    ∀ token ∈ leadTokens entries, token ≠ .mark '#' ∧ isBlank token.char = true := by
  cases entries with
  | nil => decide
  | cons entry entries =>
    change ∀ token ∈ gap, token ≠ .mark '#' ∧ isBlank token.char = true
    decide

theorem answerText_leadTokens (entries : List Entry) : answerText (leadTokens entries) = [] :=
  @answerText_append [] _ nofun (blank_leadTokens entries)

section Entries

variable {entries : List Entry}

def SomeWrong (entries : List Entry) : Bool := entries.any fun entry => entry.sign = '~'

/-- What a signed entry is read as. -/
def Entry.answer (someWrong : Bool) (entry : Entry) : Answer :=
  readAnswer someWrong (if entry.sign = '=' then 100 else 0) entry.text

theorem any_signedEntries (entries : List Entry) :
    ((signedEntries entries).any fun answer => answer.1 = '~') = SomeWrong entries := by
  induction entries with
  | nil => rfl
  | cons entry entries ih => simp [signedEntries, SomeWrong, ih]

theorem map_signedEntries (someWrong : Bool) (entries : List Entry) :
    ((signedEntries entries).map fun (sign, answer) =>
      readAnswer someWrong (if sign = '=' then 100 else 0) (answerText answer)) =
      entries.map (Entry.answer someWrong) := by
  induction entries with
  | nil => rfl
  | cons entry entries ih =>
    have isText : answerText (entry.read ++ leadTokens entries) = entry.text :=
      answerText_append (fun token mem => (entry.noSign token mem).2.2)
        (blank_leadTokens entries)
    rw [signedEntries, map_cons, map_cons, ih]
    simp only [isText, Entry.answer]

theorem readAnswers_entryTokens (entries : List Entry) :
    readAnswers (entryTokens entries) = entries.map (Entry.answer (SomeWrong entries)) := by
  unfold readAnswers
  rw [splitSigns_entryTokens]
  simp only [answerText_leadTokens, if_true, any_signedEntries, map_signedEntries]

/-- What stands before the first sign is an answer too, if it is no truth value. -/
theorem readAnswers_lead {lead : List Token}
    (noSign : ∀ token ∈ lead, token ≠ .mark '~' ∧ token ≠ .mark '=' ∧ token ≠ .mark '#')
    (visible : trim isBlank (chars lead) ≠ [])
    (noTruth : truthOf (trim isBlank (chars lead)) = none) (entries : List Entry) :
    readAnswers (lead ++ entryTokens entries) =
      readAnswer (SomeWrong entries) (if SomeWrong entries then 0 else 100)
        (trim isBlank (chars lead)) :: entries.map (Entry.answer (SomeWrong entries)) := by
  have isLead : answerText (lead ++ leadTokens entries) = trim isBlank (chars lead) :=
    answerText_append (fun token mem => (noSign token mem).2.2) (blank_leadTokens entries)
  unfold readAnswers
  rw [splitSigns_append fun token mem => ⟨(noSign token mem).1, (noSign token mem).2.1⟩,
    splitSigns_entryTokens]
  simp only [isLead, visible, if_false, noTruth, any_signedEntries, map_signedEntries]
  cases signedEntries entries <;> rfl

end Entries

variable {β : Type}

section

variable {line : β → Text} {read : β → List Token}
  (isRead : ∀ item rest, tokens (line item ++ rest) = read item ++ tokens rest)

include isRead

theorem tokens_joinLines (first : β) (others : List β) (rest : Text) :
    tokens (joinLines ((first :: others).map line) ++ rest) =
      read first ++ others.flatMap (fun item => .plain '\n' :: read item) ++ tokens rest := by
  induction others generalizing first with
  | nil => simp [joinLines, isRead]
  | cons second others ih =>
    have next := ih second
    unfold joinLines at next ⊢
    rw [map_cons, map_cons, intercalate_cons_cons, append_assoc,
      append_assoc, isRead, ← map_cons, singleton_append,
      tokens_cons (by decide), next]
    simp [specials]

theorem tokens_lines {items : List β} (someLine : items ≠ []) (rest : Text) :
    tokens ('\n' :: joinLines (items.map line) ++ '\n' :: rest) =
      items.flatMap (fun item => .plain '\n' :: read item) ++ .plain '\n' :: tokens rest := by
  cases items with
  | nil => exact absurd rfl someLine
  | cons first others =>
    rw [cons_append, tokens_cons (by decide), tokens_joinLines isRead,
      tokens_cons (by decide)]
    simp [specials]

end

end

end OhMyClass.Gift
