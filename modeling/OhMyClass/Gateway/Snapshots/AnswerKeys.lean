import OhMyClass.Gateway.Basic
import OhMyClass.Json.Core
import OhMyClass.Regex.Core

/-!
# Answer keys in snapshots

The checks on a snapshot's content and HTML, and the removal of answer keys
from the student's HTML.
-/

namespace OhMyClass.Gateway

def teacherOnlyKeys : List String :=
  ["answer", "answer_set", "accepted_answers", "correct_option_ids", "explain", "rationale",
    "wrong_reasons", "rubric_solution"]

mutual

/-- `_teacher_only_value_paths`. -/
def valuePaths (path : String) : Json → List String
  | .arr items => itemPaths path 0 items
  | .obj members => memberPaths path members
  | _ => []

def itemPaths (path : String) (index : Nat) : List Json → List String
  | [] => []
  | item :: rest =>
    valuePaths (path ++ "[" ++ toString index ++ "]") item ++ itemPaths path (index + 1) rest

def memberPaths (path : String) : List (String × Json) → List String
  | [] => []
  | (key, value) :: rest =>
    (if teacherOnlyKeys.contains key then [path ++ "." ++ key] else []) ++
      valuePaths (path ++ "." ++ key) value ++ memberPaths path rest

end

def teacherOnlyValuePaths (contentJson : JsonObject) : List String :=
  valuePaths "content_json" (.obj contentJson)

/-! ## HTML -/

/-- Characters that `re.IGNORECASE` identifies beyond the case of ASCII letters,
among those of the patterns below. -/
def caseVariants : List (List Char) :=
  [['s', 'S', '\u017f'], ['k', 'K', '\u212a'], ['i', 'I', '\u0130', '\u0131'],
    ['\u0111', '\u0110'], ['\u00e1', '\u00c1']]

def sameIgnoringCase (first second : Char) : Bool :=
  first.toLower == second.toLower ||
    caseVariants.any fun variants => variants.contains first && variants.contains second

/-- The class `\s` of a text pattern. -/
def isSpace (c : Char) : Bool :=
  (9 ≤ c.toNat && c.toNat ≤ 13) || (28 ≤ c.toNat && c.toNat ≤ 32) || c.toNat == 0x85 ||
    c.toNat == 0xa0 || c.toNat == 0x1680 || (0x2000 ≤ c.toNat && c.toNat ≤ 0x200a) ||
    c.toNat == 0x2028 || c.toNat == 0x2029 || c.toNat == 0x202f || c.toNat == 0x205f ||
    c.toNat == 0x3000

def ignoringCase (text : String) : Regex :=
  .word sameIgnoringCase text.toList

/-- `<tag[^>]*(?:data-answer-key="true"|data-teacher-only="true")[^>]*>.*?</tag>`,
where the dot matches every character. -/
def markedElement (tag : String) : Regex :=
  .seq (ignoringCase ("<" ++ tag)) <|
  .seq (.many true (· != '>')) <|
  .seq (.alt (ignoringCase "data-answer-key=\"true\"") (ignoringCase "data-teacher-only=\"true\"")) <|
  .seq (.many true (· != '>')) <|
  .seq (.one (· == '>')) <|
  .seq (.many false fun _ => true) (ignoringCase ("</" ++ tag ++ ">"))

/-- `Answer\s*(?:Key|:)`, `Correct\s*(?:Answer|:)`, `Solution\s*:` or
`Đáp\s*án\s*`. -/
def answerKeyPattern : Regex :=
  let spaces := Regex.many true isSpace
  .alt (.seq (ignoringCase "Answer") (.seq spaces (.alt (ignoringCase "Key") (ignoringCase ":")))) <|
  .alt (.seq (ignoringCase "Correct")
    (.seq spaces (.alt (ignoringCase "Answer") (ignoringCase ":")))) <|
  .alt (.seq (ignoringCase "Solution") (.seq spaces (ignoringCase ":")))
    (.seq (ignoringCase "Đáp") (.seq spaces (.seq (ignoringCase "án") spaces)))

/-- The two substitutions that drop marked sections and then marked divisions. -/
def removeMarked (html : List Char) : List Char :=
  (markedElement "div").removeAll ((markedElement "section").removeAll html)

def containsAnswerKeyPatterns (text : List Char) : Bool :=
  answerKeyPattern.search text

def validateAnswerKeyIsolation (renderedHtml : String) : List String :=
  if containsAnswerKeyPatterns (removeMarked renderedHtml.toList) then
    ["answer_key_patterns_found_outside_marked_sections: " ++
      "Answer key patterns detected in student-facing content outside teacher_only markers"]
  else
    []

def removeAnswerKeysFromHtml (renderedHtml : String) : String :=
  let html := removeMarked renderedHtml.toList
  String.ofList ((Regex.seq answerKeyPattern (.many true (· != '\n'))).removeAll html)

end OhMyClass.Gateway
