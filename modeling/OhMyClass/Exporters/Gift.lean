import Mathlib.Data.Rat.Defs
import OhMyClass.Text.Core

/-!
# GIFT

The format of the exports as it is read, and the writers for it.
-/

namespace OhMyClass.Gift

/-!
## Reading GIFT

The format that the exports are written for: questions apart by blank lines,
a name between double colons, a text, and in braces the answers with their
signs, weights and matching arrows.
-/

section

open OhMyClass.Text

abbrev Text := List Char

/-- The white space that a reader trims. -/
def isBlank (c : Char) : Bool :=
  c = ' ' || c = '\t' || c = '\n' || c = '\r' || c = '\x00' || c = '\x0b'

/-- The characters that mean something unless a backslash stands before them. -/
def specials : List Char := ['~', '=', '#', '{', '}', ':', '\\']

/-- A character as it is read: a mark of the format or part of a text. -/
structure Token where
  char : Char
  isMark : Bool
  deriving DecidableEq

namespace Token

abbrev mark (c : Char) : Token := ⟨c, true⟩

abbrev plain (c : Char) : Token := ⟨c, false⟩

end Token

/-- A backslash waits for the next character, and stays where that needs none. -/
def tokensFrom (escaping : Bool) : Text → List Token
  | [] => if escaping then [.plain '\\'] else []
  | c :: text =>
    match escaping with
    | true =>
      if c ∈ specials then .plain c :: tokensFrom false text
      else .plain '\\' :: .plain c :: tokensFrom false text
    | false =>
      if c = '\\' then tokensFrom true text
      else ⟨c, decide (c ∈ specials)⟩ :: tokensFrom false text

abbrev tokens (text : Text) : List Token := tokensFrom false text

def chars (read : List Token) : Text := read.map Token.char

/-- What stands before the first mark of this kind, and what stands after it. -/
def splitAtMark (c : Char) : List Token → Option (List Token × List Token)
  | [] => none
  | token :: rest =>
    if token = .mark c then some ([], rest)
    else (splitAtMark c rest).map fun (before, after) => (token :: before, after)

/-- The name, up to the next double colon. -/
def takeName (read : List Token) : Option (List Token × List Token) :=
  splitAtPair (.mark ':') (.mark ':') read

def formats : List Text := ["[html]".toList, "[moodle]".toList, "[plain]".toList, "[markdown]".toList]

/-- The text without the name of its format. -/
def dropFormat (read : List Token) : List Token :=
  match formats.find? fun format => (format.map Token.plain).isPrefixOf read with
  | some format => read.drop format.length
  | none => read

/-! ## Answers -/

inductive Answer where
  | choice (weight : ℚ) (text : Text)
  | pair (left right : Text)
  | truth (value : Bool)

/-- The text around the first arrow. -/
def splitArrow (text : Text) : Option (Text × Text) := splitAtPair '-' '>' text

def readNumber (text : Text) : Option ℚ :=
  let (sign, digits) : ℚ × Text := match text with
    | '-' :: digits => (-1, digits)
    | _ => (1, text)
  match digits.splitOn '.' with
  | [whole] =>
    if whole ≠ [] ∧ whole.all Char.isDigit then some (sign * Nat.ofDigitChars 10 whole 0)
    else none
  | [whole, fraction] =>
    if whole ≠ [] ∧ whole.all Char.isDigit ∧ fraction.all Char.isDigit then
      some (sign * (Nat.ofDigitChars 10 whole 0 +
        Nat.ofDigitChars 10 fraction 0 / 10 ^ fraction.length))
    else none
  | _ => none

/-- A weight in percent signs at the beginning of an answer. -/
def takeWeight : Text → Option (ℚ × Text)
  | '%' :: text =>
    match text.dropWhile (· ≠ '%') with
    | _ :: rest => (readNumber (text.takeWhile (· ≠ '%'))).map fun weight => (weight, rest)
    | [] => none
  | _ => none

/-- The tokens up to the first answer sign, and each sign with those after it. -/
def splitSigns : List Token → List Token × List (Char × List Token)
  | [] => ([], [])
  | token :: rest =>
    let (lead, answers) := splitSigns rest
    if token = .mark '~' ∨ token = .mark '=' then ([], (token.char, lead) :: answers)
    else (token :: lead, answers)

/-- The text of an answer ends where its feedback begins. -/
def answerText (read : List Token) : Text :=
  trim isBlank (chars (read.takeWhile (· ≠ .mark '#')))

/-- An answer is a pair where no wrong one is offered and it has an arrow. -/
def readAnswer (someWrong : Bool) (weight : ℚ) (text : Text) : Answer :=
  match if someWrong then none else splitArrow text with
  | some (left, right) => .pair (trim isBlank left) (trim isBlank right)
  | none =>
    match takeWeight text with
    | some (given, rest) => .choice given (trim isBlank rest)
    | none => .choice weight text

def truthOf (text : Text) : Option Bool :=
  if text ∈ ["T".toList, "TRUE".toList] then some true
  else if text ∈ ["F".toList, "FALSE".toList] then some false
  else none

/-- What stands before the first sign is an answer by itself, unless it is
blank or a truth value. -/
def readAnswers (read : List Token) : List Answer :=
  let (lead, signed) := splitSigns read
  let someWrong := signed.any fun answer => answer.1 = '~'
  let rest := signed.map fun (sign, answer) =>
    readAnswer someWrong (if sign = '=' then 100 else 0) (answerText answer)
  if answerText lead = [] then rest
  else
    match signed, truthOf (answerText lead) with
    | [], some value => [.truth value]
    | _, _ => readAnswer someWrong (if someWrong then 0 else 100) (answerText lead) :: rest

structure ReadQuestion where
  name : Text
  stem : Text
  answers : List Answer

/-- A question without a name is read as well. -/
def readName (read : List Token) : Option (Text × List Token) :=
  if [Token.mark ':', .mark ':'].isPrefixOf read then
    (takeName (read.drop 2)).map fun (name, rest) => (trim isBlank (chars name), rest)
  else some ([], read)

def readBlock (block : Text) : Option ReadQuestion := do
  let (name, rest) ← readName (tokens block)
  let (stem, rest) ← splitAtMark '{' (dropFormat rest)
  let (answers, after) ← splitAtMark '}' rest
  guard ((chars after).all isBlank)
  return ⟨name, trim isBlank (chars stem), readAnswers answers⟩

def isCategory (block : Text) : Bool := "$CATEGORY:".toList.isPrefixOf (trim isBlank block)

def questionBlocks (text : Text) : List Text :=
  (blocks '\n' isBlank text).filter (! isCategory ·)

/-- The questions of a text, if each block is read as one. -/
def readText (text : Text) : Option (List ReadQuestion) :=
  (questionBlocks text).mapM readBlock

end

/-!
## GIFT exports

The two writers of the exporters package, for quiz questions and for practice
sets.
-/

section

def replaceAll (c : Char) (text : Text) : Text :=
  text.flatMap fun d => if d = c then ['\\', c] else [d]

/-- One replacement after the other. -/
def escapeInOrder (order : List Char) (text : Text) : Text :=
  order.foldl (fun text c => replaceAll c text) text

def escapeGift (text : Text) : Text := escapeInOrder ['\\', '~', '=', '{', '}', '#'] text

/-- The second writer escapes in the same order. -/
def giftEscape (text : Text) : Text := escapeInOrder ['\\', '~', '=', '{', '}', '#'] text

theorem replaceAll_append (c : Char) (before after : Text) :
    replaceAll c (before ++ after) = replaceAll c before ++ replaceAll c after :=
  List.flatMap_append

theorem escapeInOrder_append (order : List Char) (before after : Text) :
    escapeInOrder order (before ++ after) =
      escapeInOrder order before ++ escapeInOrder order after := by
  induction order generalizing before after with
  | nil => rfl
  | cons c order ih =>
    change escapeInOrder order (replaceAll c (before ++ after)) = _
    rw [replaceAll_append, ih]
    rfl

/-- A backslash stands before each character that is escaped. -/
def escapeChar (c : Char) : Text :=
  if c ∈ ['\\', '~', '=', '{', '}', '#'] then ['\\', c] else [c]

theorem escapeGift_singleton (c : Char) : escapeGift [c] = escapeChar c := by
  by_cases escaped : c ∈ ['\\', '~', '=', '{', '}', '#']
  · have each : ∀ c ∈ ['\\', '~', '=', '{', '}', '#'], escapeGift [c] = escapeChar c := by
      simp only [List.forall_mem_cons]
      exact ⟨rfl, rfl, rfl, rfl, rfl, rfl, List.forall_mem_nil _⟩
    exact each c escaped
  · rw [escapeChar]
    simp only [List.mem_cons, List.not_mem_nil, or_false, not_or] at escaped
    simp [escapeGift, escapeInOrder, replaceAll, escaped]

@[simp]
theorem escapeGift_nil : escapeGift [] = [] := rfl

@[simp]
theorem escapeGift_cons (c : Char) (text : Text) :
    escapeGift (c :: text) = escapeChar c ++ escapeGift text := by
  rw [← escapeGift_singleton]
  exact escapeInOrder_append _ [c] text

theorem giftEscape_eq (text : Text) : giftEscape text = escapeGift text := rfl

/-! ## Questions -/

structure MCOption where
  text : Text
  isCorrect : Bool

structure TFItem where
  id : Text
  text : Text
  isTrue : Bool

structure MatchColumn where
  id : Text
  text : Text

structure MatchPair where
  left : Text
  right : Text

/-- The questions that the exporter knows, with the fields that it reads. -/
inductive Question where
  | multipleChoiceSingle (id stem : Text) (options : List MCOption)
  | multipleChoiceMultiple (id stem : Text) (options : List MCOption)
  | trueFalse4Item (id : Text) (items : List TFItem)
  | shortAnswer (id stem correctAnswer : Text) (acceptableAnswers : Option (List Text))
  | cloze (id passage : Text) (blanks : List Text)
  | matching (id instructions : Text) (leftColumn rightColumn : List MatchColumn)
      (correctMatches : List MatchPair)
  | essay (id prompt : Text)
  | unsupported

def joinLines (lines : List Text) : Text := ['\n'].intercalate lines

/-- `::id::[html]text{` and the lines of the answers. -/
def writeQuestion (name stem : Text) (answers : List Text) : Text :=
  "::".toList ++ name ++ "::[html]".toList ++ escapeGift stem ++ "\x7b\n".toList ++
    joinLines answers ++ "\n\x7d".toList

def writeSigned (correct : Bool) (text : Text) : Text :=
  "  ".toList ++ [if correct then '=' else '~'] ++ escapeGift text

def serializeMCSingle (id stem : Text) (options : List MCOption) : Text :=
  writeQuestion id stem (options.map fun option => writeSigned option.isCorrect option.text)

def correctCount (options : List MCOption) : Nat := options.countP MCOption.isCorrect

/-- `Math.round(100 / correctCount)`. -/
def percentage (correctCount : Nat) : Nat :=
  if correctCount > 0 then (200 + correctCount) / (2 * correctCount) else 0

def writeWeighted (pct : Nat) (option : MCOption) : Text :=
  "  ".toList ++
    (if option.isCorrect then ['%'] ++ Nat.toDigits 10 pct ++ ['%'] else ['~']) ++
    escapeGift option.text

def serializeMCMultiple (id stem : Text) (options : List MCOption) : Text :=
  writeQuestion id stem (options.map (writeWeighted (percentage (correctCount options))))

def writeTruth (name text : Text) (isTrue : Bool) : Text :=
  "::".toList ++ name ++ "::[html]".toList ++ escapeGift text ++ "\x7b ".toList ++
    (if isTrue then "TRUE".toList else "FALSE".toList) ++ " \x7d".toList

def itemName (id itemId : Text) : Text := id ++ ['-'] ++ itemId

def serializeTrueFalse4 (id : Text) (items : List TFItem) : Text :=
  "\n\n".toList.intercalate
    (items.map fun item => writeTruth (itemName id item.id) item.text item.isTrue)

def serializeShortAnswer (id stem correctAnswer : Text) (acceptableAnswers : Option (List Text)) :
    Text :=
  writeQuestion id stem
    ((correctAnswer :: acceptableAnswers.getD []).map (writeSigned true))

def serializeCloze (id passage : Text) (blanks : List Text) : Text :=
  writeQuestion id passage (blanks.map (writeSigned true))

/-- The text of a column entry, or its id where the column lacks it. -/
def columnText (column : List MatchColumn) (id : Text) : Text :=
  ((column.find? fun entry => entry.id = id).map MatchColumn.text).getD id

def writePair (left right : Text) : Text :=
  "  =".toList ++ escapeGift left ++ "->".toList ++ escapeGift right

def serializeMatching (id instructions : Text) (leftColumn rightColumn : List MatchColumn)
    (correctMatches : List MatchPair) : Text :=
  writeQuestion id instructions (correctMatches.map fun pair =>
    writePair (columnText leftColumn pair.left) (columnText rightColumn pair.right))

def serializeEssay (id prompt : Text) : Text :=
  "::".toList ++ id ++ "::[html]".toList ++ escapeGift prompt ++ "\x7b \x7d".toList

def serializeQuestion : Question → Option Text
  | .multipleChoiceSingle id stem options => some (serializeMCSingle id stem options)
  | .multipleChoiceMultiple id stem options => some (serializeMCMultiple id stem options)
  | .trueFalse4Item id items => some (serializeTrueFalse4 id items)
  | .shortAnswer id stem correctAnswer acceptableAnswers =>
    some (serializeShortAnswer id stem correctAnswer acceptableAnswers)
  | .cloze id passage blanks => some (serializeCloze id passage blanks)
  | .matching id instructions leftColumn rightColumn correctMatches =>
    some (serializeMatching id instructions leftColumn rightColumn correctMatches)
  | .essay id prompt => some (serializeEssay id prompt)
  | .unsupported => none

def categoryLine (category : Text) : Text := "$CATEGORY: ".toList ++ category

/-- Each question that has a text is a line, with an empty line after it. -/
def questionLines (texts : List (Option Text)) : List Text :=
  texts.flatMap fun text =>
    match text with
    | some (c :: rest) => [c :: rest, []]
    | _ => []

def giftExport (questions : List Question) (category : Option Text) : Text :=
  joinLines ((match category with
    | some (c :: rest) => [categoryLine (c :: rest), []]
    | _ => []) ++ questionLines (questions.map serializeQuestion))

/-- The class `\s` of a pattern. -/
def isSpace (c : Char) : Bool :=
  (9 ≤ c.toNat && c.toNat ≤ 13) || c.toNat == 32 || c.toNat == 0xa0 || c.toNat == 0x1680 ||
    (0x2000 ≤ c.toNat && c.toNat ≤ 0x200a) || c.toNat == 0x2028 || c.toNat == 0x2029 ||
    c.toNat == 0x202f || c.toNat == 0x205f || c.toNat == 0x3000 || c.toNat == 0xfeff

/-- Each run of white space becomes one underscore. -/
def underscoreSpaces (inSpaces : Bool) : Text → Text
  | [] => []
  | c :: text =>
    if isSpace c then
      if inSpaces then underscoreSpaces true text else '_' :: underscoreSpaces true text
    else c :: underscoreSpaces false text

structure QuizOption where
  label : Text
  text : Text

structure MCQuestion where
  id : Text
  prompt : Text
  options : List QuizOption
  answer : Option Text

structure QuizData where
  title : Text
  questions : List MCQuestion

def serializeQuizQuestion (question : MCQuestion) : Text :=
  writeQuestion question.id question.prompt (question.options.map fun option =>
    writeSigned (some option.label = question.answer) option.text)

def exportQuiz (quiz : QuizData) : Text :=
  joinLines (categoryLine (underscoreSpaces false quiz.title) :: [] ::
    quiz.questions.flatMap fun question => [serializeQuizQuestion question, []])

structure PracticeItem where
  itemId : Text
  prompt : Text
  answer : Text

/-- The lines of an item are pushed one by one. -/
def practiceGift (clusterId : Text) (items : List PracticeItem) : Text :=
  joinLines (categoryLine ("oh-my-class/".toList ++ giftEscape clusterId) :: [] ::
    items.flatMap fun item =>
      ["::".toList ++ giftEscape item.itemId ++ "::[html]".toList ++ giftEscape item.prompt ++ ['{'],
        "  =".toList ++ giftEscape item.answer, ['}'], []])

end

end OhMyClass.Gift
