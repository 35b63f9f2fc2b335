import Mathlib.Data.List.Sort
import OhMyClass.Json.Core
import OhMyClass.Text.Core

/-!
# Compact JSON text

The text a JSON encoder writes with compact separators, without escaping
non-ASCII characters, and with the members of objects sorted by key.  The text
of a value can be read back, so that equal texts come from values that are
equal up to the order of object members.
-/

namespace OhMyClass

open List

/-! ## Strings -/

/-- The characters with a two-character escape. -/
def shortEscape (c : Char) : Option Char :=
  if c = '"' then some '"'
  else if c = '\\' then some '\\'
  else if c = '\n' then some 'n'
  else if c = '\r' then some 'r'
  else if c = '\t' then some 't'
  else if c = '\x0c' then some 'f'
  else if c = '\x08' then some 'b'
  else none

def escapeChar (c : Char) : List Char :=
  match shortEscape c with
  | some letter => ['\\', letter]
  | none =>
    if c.toNat < 32 then
      ['\\', 'u', '0', '0', Nat.digitChar (c.toNat / 16), Nat.digitChar (c.toNat % 16)]
    else [c]

def stringChars (text : String) : List Char :=
  '"' :: (text.toList.flatMap escapeChar ++ ['"'])

theorem shortEscape_injective {c d letter : Char} (cEq : shortEscape c = some letter)
    (dEq : shortEscape d = some letter) : c = d := by
  have source (e : Char) (eEq : shortEscape e = some letter) :
      e = if letter = 'n' then '\n' else if letter = 'r' then '\r' else if letter = 't' then '\t'
        else if letter = 'f' then '\x0c' else if letter = 'b' then '\x08' else letter := by
    unfold shortEscape at eEq
    repeat' split at eEq
    all_goals
      cases eEq <;> assumption
  rw [source c cEq, source d dEq]

theorem shortEscape_ne_u (c : Char) : shortEscape c ≠ some 'u' := by
  unfold shortEscape
  repeat' split
  all_goals decide

theorem shortEscape_backslash : shortEscape '\\' = some '\\' := rfl

theorem digitChar_injective {m n : Nat} (mLt : m < 16) (nLt : n < 16)
    (same : Nat.digitChar m = Nat.digitChar n) : m = n := by
  have all : ∀ m < 16, ∀ n < 16, Nat.digitChar m = Nat.digitChar n → m = n := by decide
  exact all m mLt n nLt same

theorem escapeChar_append_injective {c d : Char} {s t : List Char}
    (same : escapeChar c ++ s = escapeChar d ++ t) : c = d ∧ s = t := by
  unfold escapeChar at same
  split at same
  · next letter cEq =>
    split at same
    · next letter' dEq =>
      simp only [cons_append, nil_append, List.cons.injEq, true_and] at same
      rcases same with ⟨rfl, rest⟩
      exact ⟨shortEscape_injective cEq dEq, rest⟩
    · next dEq =>
      split at same
      · simp only [cons_append, List.cons.injEq, true_and] at same
        exact absurd (same.1 ▸ cEq) (shortEscape_ne_u c)
      · simp only [cons_append, List.cons.injEq] at same
        rw [← same.1] at dEq
        cases dEq
  · next cEq =>
    split at same
    · next cControl =>
      split at same
      · next letter' dEq =>
        simp only [cons_append, List.cons.injEq, true_and] at same
        exact absurd (same.1 ▸ dEq) (shortEscape_ne_u d)
      · next dEq =>
        split at same
        · next dControl =>
          simp only [cons_append, nil_append, List.cons.injEq, true_and] at same
          rcases same with ⟨high, low, rest⟩
          have highEq := digitChar_injective (by omega) (by omega) high
          have lowEq := digitChar_injective (by omega) (by omega) low
          exact ⟨Char.toNat_inj.mp (by omega), rest⟩
        · simp only [cons_append, List.cons.injEq] at same
          rw [← same.1] at dEq
          cases dEq
    · split at same
      · simp only [cons_append, List.cons.injEq] at same
        rw [same.1] at cEq
        cases cEq
      · split at same
        · simp only [cons_append, List.cons.injEq] at same
          rw [same.1, shortEscape_backslash] at cEq
          cases cEq
        · simp only [cons_append, nil_append, List.cons.injEq] at same
          exact same

theorem escapeChar_head (c : Char) : ∃ head rest, escapeChar c = head :: rest ∧ head ≠ '"' := by
  unfold escapeChar
  split
  · exact ⟨_, _, rfl, by decide⟩
  · next noEscape =>
    split
    · exact ⟨_, _, rfl, by decide⟩
    · refine ⟨_, _, rfl, ?_⟩
      rintro rfl
      cases noEscape

theorem escaped_append_injective {first second : List Char} {s t : List Char}
    (same : first.flatMap escapeChar ++ '"' :: s = second.flatMap escapeChar ++ '"' :: t) :
    first = second ∧ s = t := by
  induction first generalizing second with
  | nil =>
    cases second with
    | nil => exact ⟨rfl, (List.cons.inj same).2⟩
    | cons d _ =>
      rcases escapeChar_head d with ⟨head, rest, headEq, notQuote⟩
      simp only [flatMap_nil, nil_append, flatMap_cons, headEq, cons_append,
        List.cons.injEq] at same
      exact absurd same.1.symm notQuote
  | cons c tail ih =>
    cases second with
    | nil =>
      rcases escapeChar_head c with ⟨head, rest, headEq, notQuote⟩
      simp only [flatMap_nil, nil_append, flatMap_cons, headEq, cons_append,
        List.cons.injEq] at same
      exact absurd same.1 notQuote
    | cons d tail' =>
      simp only [flatMap_cons, append_assoc] at same
      rcases escapeChar_append_injective same with ⟨rfl, others⟩
      rcases ih others with ⟨rfl, rest⟩
      exact ⟨rfl, rest⟩

theorem stringChars_append_injective {first second : String} {s t : List Char}
    (same : stringChars first ++ s = stringChars second ++ t) : first = second ∧ s = t := by
  simp only [stringChars, cons_append, append_assoc, nil_append,
    List.cons.injEq, true_and] at same
  rcases escaped_append_injective same with ⟨chars, rest⟩
  exact ⟨String.toList_injective chars, rest⟩

def intChars : Int → List Char
  | .ofNat n => Nat.toDigits 10 n
  | .negSucc n => '-' :: Nat.toDigits 10 (n + 1)

mutual

/-- The text of a value, its members in the given order. -/
def Json.chars : Json → List Char
  | .null => "null".toList
  | .bool true => "true".toList
  | .bool false => "false".toList
  | .int value => intChars value
  | .float value => value.text.toList
  | .str value => stringChars value
  | .arr [] => ['[', ']']
  | .arr (item :: rest) => '[' :: (item.chars ++ itemsChars rest)
  | .obj [] => ['{', '}']
  | .obj (member :: rest) =>
    '{' :: (stringChars member.1 ++ ':' :: (member.2.chars ++ membersChars rest))

/-- The items after the first, with the closing bracket. -/
def itemsChars : List Json → List Char
  | [] => [']']
  | item :: rest => ',' :: (item.chars ++ itemsChars rest)

/-- The members after the first, with the closing brace. -/
def membersChars : List (String × Json) → List Char
  | [] => ['}']
  | member :: rest =>
    ',' :: (stringChars member.1 ++ ':' :: (member.2.chars ++ membersChars rest))

end

/-! ## Reading atoms back -/

namespace Json

/-- Values whose text has no delimiter of its own. -/
def IsAtom : Json → Prop
  | .null | .bool _ | .int _ | .float _ => True
  | .str _ | .arr _ | .obj _ => False

end Json

/-- Characters the texts of atoms are made of. -/
def isAtomChar (c : Char) : Bool :=
  c.isAlpha || isFloatChar c

/-- A continuation that cannot belong to the atom before it. -/
def EndsAtom (rest : List Char) : Prop :=
  rest.takeWhile isAtomChar = []

theorem endsAtom_nil : EndsAtom [] :=
  rfl

theorem isAtomChar_of_isDigit {c : Char} (isDigit : c.isDigit = true) : isAtomChar c = true := by
  simp only [isAtomChar, isFloatChar, isDigit, Bool.true_or, Bool.or_true]

theorem isFloatChar_of_mem_intChars {c : Char} {n : Int} (mem : c ∈ intChars n) :
    c.isDigit = true ∨ c = '-' := by
  cases n with
  | ofNat n => exact .inl (Text.isDigit_of_mem_toDigits mem)
  | negSucc n =>
    rcases mem_cons.mp mem with isMinus | isDigit
    · exact .inr isMinus
    · exact .inl (Text.isDigit_of_mem_toDigits isDigit)

theorem intChars_injective {m n : Int} (same : intChars m = intChars n) : m = n := by
  have noMinus (k l : Nat) : Nat.toDigits 10 k ≠ '-' :: Nat.toDigits 10 l := by
    intro isMinus
    have isDigit := Text.isDigit_of_mem_toDigits (c := '-') (n := k)
      (by rw [isMinus]; exact mem_cons_self)
    revert isDigit
    decide
  cases m with
  | ofNat m =>
    cases n with
    | ofNat n => rw [Text.toDigits_injective same]
    | negSucc n => exact absurd same (noMinus m (n + 1))
  | negSucc m =>
    cases n with
    | ofNat n => exact absurd same.symm (noMinus n (m + 1))
    | negSucc n =>
      have digits := Text.toDigits_injective (List.cons.inj same).2
      rw [Nat.succ.inj digits]

theorem FloatLiteral.isFloatChar_of_mem {value : FloatLiteral} {c : Char}
    (mem : c ∈ value.text.toList) : isFloatChar c = true := by
  have wellFormed := value.wellFormed
  simp only [isFloatText, Bool.and_eq_true, all_eq_true] at wellFormed
  exact wellFormed.1 c mem

theorem FloatLiteral.exists_mark (value : FloatLiteral) :
    ∃ c ∈ value.text.toList, c = '.' ∨ c = 'e' := by
  have wellFormed := value.wellFormed
  simp only [isFloatText, Bool.and_eq_true, any_eq_true, Bool.or_eq_true, beq_iff_eq]
    at wellFormed
  exact wellFormed.2

namespace Json

theorem isAtomChar_of_mem {value : Json} (atom : value.IsAtom) {c : Char}
    (mem : c ∈ value.chars) : isAtomChar c = true := by
  cases value with
  | null =>
    have all : "null".toList.all isAtomChar = true := by decide
    exact all_eq_true.mp all c (by simpa only [chars] using mem)
  | bool value =>
    have all : ("true".toList ++ "false".toList).all isAtomChar = true := by decide
    apply all_eq_true.mp all c
    cases value with
    | true => exact mem_append_left _ (by simpa only [chars] using mem)
    | false => exact mem_append_right _ (by simpa only [chars] using mem)
  | int value =>
    rcases isFloatChar_of_mem_intChars (by simpa only [chars] using mem) with isDigit | rfl
    · exact isAtomChar_of_isDigit isDigit
    · rfl
  | float value =>
    have floatChar := FloatLiteral.isFloatChar_of_mem (by simpa only [chars] using mem)
    rw [isAtomChar, floatChar, Bool.or_true]
  | str | arr | obj => exact atom.elim

theorem isFloatChar_of_mem_int {value : Int} {c : Char} (mem : c ∈ intChars value) :
    isFloatChar c = true := by
  rcases isFloatChar_of_mem_intChars mem with isDigit | rfl
  · simp only [isFloatChar, isDigit, Bool.true_or]
  · rfl

theorem not_mem_chars_of_atom {value : Json} (atom : value.IsAtom) {c : Char}
    (notAtomChar : isAtomChar c = false) : c ∉ value.chars := by
  intro mem
  rw [isAtomChar_of_mem atom mem] at notAtomChar
  cases notAtomChar

theorem int_ne_float {n : Int} {value : FloatLiteral} : intChars n ≠ value.text.toList := by
  intro same
  rcases value.exists_mark with ⟨c, mem, isMark⟩
  rw [← same] at mem
  rcases isFloatChar_of_mem_intChars mem with isDigit | rfl
  · rcases isMark with rfl | rfl
    · revert isDigit
      decide
    · revert isDigit
      decide
  · revert isMark
    decide

theorem IsAtom.cases {value : Json} (atom : value.IsAtom) :
    (value ∈ [.null, .bool true, .bool false]) ∨ (∃ n, value = .int n) ∨
      ∃ literal, value = .float literal := by
  match value with
  | .null | .bool true | .bool false => exact .inl (by simp)
  | .int n => exact .inr (.inl ⟨n, rfl⟩)
  | .float literal => exact .inr (.inr ⟨literal, rfl⟩)
  | .str _ | .arr _ | .obj _ => exact atom.elim

theorem word_chars {word : Json} (isWord : word ∈ [.null, .bool true, .bool false]) :
    (∀ other ∈ [.null, .bool true, .bool false], word.chars = other.chars → word = other) ∧
      ∃ c ∈ word.chars, isFloatChar c = false := by
  simp only [mem_cons, not_mem_nil, or_false] at isWord ⊢
  rcases isWord with rfl | rfl | rfl
  · refine ⟨?_, 'n', by simp [chars], by decide⟩
    rintro other (rfl | rfl | rfl) same <;> simp [chars] at same ⊢
  · refine ⟨?_, 't', by simp [chars], by decide⟩
    rintro other (rfl | rfl | rfl) same <;> simp [chars] at same ⊢
  · refine ⟨?_, 'f', by simp [chars], by decide⟩
    rintro other (rfl | rfl | rfl) same <;> simp [chars] at same ⊢

theorem word_ne_number {word : Json} (isWord : word ∈ [.null, .bool true, .bool false])
    {number : List Char} (isNumber : ∀ c ∈ number, isFloatChar c = true) :
    word.chars ≠ number := by
  intro same
  rcases (word_chars isWord).2 with ⟨c, mem, notFloat⟩
  rw [same] at mem
  rw [isNumber c mem] at notFloat
  cases notFloat

theorem chars_injective_of_atom {first second : Json} (firstAtom : first.IsAtom)
    (secondAtom : second.IsAtom) (same : first.chars = second.chars) : first = second := by
  have intNumber (n : Int) : ∀ c ∈ (Json.int n).chars, isFloatChar c = true := by
    exact fun _ => isFloatChar_of_mem_int
  have floatNumber (literal : FloatLiteral) :
      ∀ c ∈ (Json.float literal).chars, isFloatChar c = true := by
    exact fun _ => FloatLiteral.isFloatChar_of_mem
  rcases firstAtom.cases with firstWord | ⟨m, rfl⟩ | ⟨literal, rfl⟩
  · rcases secondAtom.cases with secondWord | ⟨n, rfl⟩ | ⟨literal, rfl⟩
    · exact (word_chars firstWord).1 second secondWord same
    · exact absurd same (word_ne_number firstWord (intNumber n))
    · exact absurd same (word_ne_number firstWord (floatNumber literal))
  · rcases secondAtom.cases with secondWord | ⟨n, rfl⟩ | ⟨literal, rfl⟩
    · exact absurd same.symm (word_ne_number secondWord (intNumber m))
    · rw [intChars_injective same]
    · exact absurd same int_ne_float
  · rcases secondAtom.cases with secondWord | ⟨n, rfl⟩ | ⟨other, rfl⟩
    · exact absurd same.symm (word_ne_number secondWord (floatNumber literal))
    · simp only [chars] at same
      exact absurd same.symm int_ne_float
    · simp only [chars] at same
      have textEq := String.toList_injective same
      cases literal
      cases other
      cases textEq
      rfl

theorem chars_ne_nil_of_atom {value : Json} (atom : value.IsAtom) : value.chars ≠ [] := by
  intro isEmpty
  rcases atom.cases with isWord | ⟨n, rfl⟩ | ⟨literal, rfl⟩
  · rcases (word_chars isWord).2 with ⟨c, mem, _⟩
    rw [isEmpty] at mem
    cases mem
  · cases n with
    | ofNat n => exact Nat.toDigits_ne_nil isEmpty
    | negSucc n => cases isEmpty
  · simp only [chars] at isEmpty
    rcases literal.exists_mark with ⟨c, mem, _⟩
    rw [isEmpty] at mem
    cases mem

theorem takeWhile_atom {value : Json} (atom : value.IsAtom) {rest : List Char}
    (ends : EndsAtom rest) : (value.chars ++ rest).takeWhile isAtomChar = value.chars := by
  rw [takeWhile_append_of_pos fun c mem => isAtomChar_of_mem atom mem, ends,
    append_nil]

theorem takeWhile_of_not_atom {value : Json} (notAtom : ¬ value.IsAtom) (rest : List Char) :
    (value.chars ++ rest).takeWhile isAtomChar = [] := by
  match value with
  | .str _ => simp only [chars, stringChars, cons_append, takeWhile_cons]; rfl
  | .arr [] | .arr (_ :: _) => simp only [chars, cons_append, takeWhile_cons]; rfl
  | .obj [] | .obj (_ :: _) => simp only [chars, cons_append, takeWhile_cons]; rfl
  | .null | .bool _ | .int _ | .float _ => exact absurd trivial notAtom

theorem isAtom_congr {first second : Json} {s t : List Char} (atom : first.IsAtom)
    (same : first.chars ++ s = second.chars ++ t) : second.IsAtom := by
  by_contra notAtom
  have noAtomChar := takeWhile_of_not_atom notAtom t
  rw [← same] at noAtomChar
  rcases exists_cons_of_ne_nil (chars_ne_nil_of_atom atom) with ⟨c, rest, charsEq⟩
  have isAtomChar : isAtomChar c = true :=
    isAtomChar_of_mem atom (by rw [charsEq]; exact mem_cons_self)
  rw [charsEq, cons_append, takeWhile_cons, if_pos isAtomChar] at noAtomChar
  cases noAtomChar

theorem chars_append_ne_atom {first second : Json} {s t : List Char} (notAtom : ¬ first.IsAtom)
    (atom : second.IsAtom) : first.chars ++ s ≠ second.chars ++ t :=
  fun same => notAtom (isAtom_congr atom same.symm)

theorem atom_append_injective {first second : Json} {s t : List Char} (atom : first.IsAtom)
    (sEnds : EndsAtom s) (tEnds : EndsAtom t) (same : first.chars ++ s = second.chars ++ t) :
    first = second ∧ s = t := by
  have secondAtom := isAtom_congr atom same
  have texts := congrArg (List.takeWhile isAtomChar) same
  rw [takeWhile_atom atom sEnds, takeWhile_atom secondAtom tEnds] at texts
  rw [texts] at same
  exact ⟨chars_injective_of_atom atom secondAtom texts, append_cancel_left same⟩

theorem chars_append_ne_bracket (value : Json) (s t : List Char) :
    value.chars ++ s ≠ ']' :: t := by
  intro same
  by_cases atom : value.IsAtom
  · rcases exists_cons_of_ne_nil (chars_ne_nil_of_atom atom) with ⟨c, rest, charsEq⟩
    have isAtomChar : isAtomChar c = true :=
      isAtomChar_of_mem atom (by rw [charsEq]; exact mem_cons_self)
    rw [charsEq, cons_append, List.cons.injEq] at same
    rw [same.1] at isAtomChar
    revert isAtomChar
    decide
  · match value with
    | .str _ | .arr [] | .arr (_ :: _) | .obj [] | .obj (_ :: _) =>
      simp [chars, stringChars] at same
    | .null | .bool _ | .int _ | .float _ => exact atom trivial

theorem endsAtom_itemsChars (items : List Json) (rest : List Char) :
    EndsAtom (itemsChars items ++ rest) := by
  cases items <;> simp only [EndsAtom, itemsChars, cons_append, takeWhile_cons] <;> rfl

theorem endsAtom_membersChars (members : List (String × Json)) (rest : List Char) :
    EndsAtom (membersChars members ++ rest) := by
  cases members <;> simp only [EndsAtom, membersChars, cons_append, takeWhile_cons] <;>
    rfl

mutual

theorem chars_append_injective (first second : Json) {s t : List Char} (sEnds : EndsAtom s)
    (tEnds : EndsAtom t) (same : first.chars ++ s = second.chars ++ t) :
    first = second ∧ s = t := by
  match first with
  | .null | .bool _ | .int _ | .float _ => exact atom_append_injective trivial sEnds tEnds same
  | .str text =>
    match second with
    | .str other =>
      simp only [chars] at same
      rcases stringChars_append_injective same with ⟨rfl, rest⟩
      exact ⟨rfl, rest⟩
    | .null | .bool _ | .int _ | .float _ =>
      exact absurd same (chars_append_ne_atom id trivial)
    | .arr [] | .arr (_ :: _) | .obj [] | .obj (_ :: _) => simp [chars, stringChars] at same
  | .arr [] =>
    match second with
    | .arr [] =>
      simp only [chars, cons_append, nil_append, List.cons.injEq, true_and] at same
      exact ⟨rfl, same⟩
    | .arr (item :: rest) =>
      simp only [chars, cons_append, nil_append, List.cons.injEq, true_and,
        append_assoc] at same
      exact absurd same.symm (chars_append_ne_bracket item _ _)
    | .null | .bool _ | .int _ | .float _ =>
      exact absurd same (chars_append_ne_atom id trivial)
    | .str _ | .obj [] | .obj (_ :: _) => simp [chars, stringChars] at same
  | .arr (item :: rest) =>
    match second with
    | .arr [] =>
      simp only [chars, cons_append, nil_append, List.cons.injEq, true_and,
        append_assoc] at same
      exact absurd same (chars_append_ne_bracket item _ _)
    | .arr (item' :: rest') =>
      simp only [chars, cons_append, List.cons.injEq, true_and, append_assoc] at same
      obtain ⟨rfl, others⟩ := chars_append_injective item item' (endsAtom_itemsChars _ _)
        (endsAtom_itemsChars _ _) same
      rcases itemsChars_append_injective rest rest' others with ⟨rfl, last⟩
      exact ⟨rfl, last⟩
    | .null | .bool _ | .int _ | .float _ =>
      exact absurd same (chars_append_ne_atom id trivial)
    | .str _ | .obj [] | .obj (_ :: _) => simp [chars, stringChars] at same
  | .obj [] =>
    match second with
    | .obj [] =>
      simp only [chars, cons_append, nil_append, List.cons.injEq, true_and] at same
      exact ⟨rfl, same⟩
    | .null | .bool _ | .int _ | .float _ =>
      exact absurd same (chars_append_ne_atom id trivial)
    | .str _ | .arr [] | .arr (_ :: _) | .obj (_ :: _) => simp [chars, stringChars] at same
  | .obj ((key, value) :: rest) =>
    match second with
    | .obj ((key', value') :: rest') =>
      simp only [chars, cons_append, List.cons.injEq, true_and, append_assoc] at same
      rcases stringChars_append_injective same with ⟨rfl, afterKey⟩
      obtain ⟨rfl, others⟩ := chars_append_injective value value' (endsAtom_membersChars _ _)
        (endsAtom_membersChars _ _) (List.cons.inj afterKey).2
      rcases membersChars_append_injective rest rest' others with ⟨rfl, last⟩
      exact ⟨rfl, last⟩
    | .null | .bool _ | .int _ | .float _ =>
      exact absurd same (chars_append_ne_atom id trivial)
    | .str _ | .arr [] | .arr (_ :: _) | .obj [] => simp [chars, stringChars] at same

theorem itemsChars_append_injective (first second : List Json) {s t : List Char}
    (same : itemsChars first ++ s = itemsChars second ++ t) : first = second ∧ s = t := by
  match first with
  | [] =>
    match second with
    | [] =>
      simp only [itemsChars, cons_append, nil_append, List.cons.injEq, true_and] at same
      exact ⟨rfl, same⟩
    | _ :: _ => simp [itemsChars] at same
  | item :: rest =>
    match second with
    | [] => simp [itemsChars] at same
    | item' :: rest' =>
      simp only [itemsChars, cons_append, List.cons.injEq, true_and,
        append_assoc] at same
      obtain ⟨rfl, others⟩ := chars_append_injective item item' (endsAtom_itemsChars _ _)
        (endsAtom_itemsChars _ _) same
      rcases itemsChars_append_injective rest rest' others with ⟨rfl, last⟩
      exact ⟨rfl, last⟩

theorem membersChars_append_injective (first second : List (String × Json)) {s t : List Char}
    (same : membersChars first ++ s = membersChars second ++ t) : first = second ∧ s = t := by
  match first with
  | [] =>
    match second with
    | [] =>
      simp only [membersChars, cons_append, nil_append, List.cons.injEq,
        true_and] at same
      exact ⟨rfl, same⟩
    | _ :: _ => simp [membersChars] at same
  | (key, value) :: rest =>
    match second with
    | [] => simp [membersChars] at same
    | (key', value') :: rest' =>
      simp only [membersChars, cons_append, List.cons.injEq, true_and,
        append_assoc] at same
      rcases stringChars_append_injective same with ⟨rfl, afterKey⟩
      obtain ⟨rfl, others⟩ := chars_append_injective value value' (endsAtom_membersChars _ _)
        (endsAtom_membersChars _ _) (List.cons.inj afterKey).2
      rcases membersChars_append_injective rest rest' others with ⟨rfl, last⟩
      exact ⟨rfl, last⟩

end

end Json

/-! ## Canonical text -/

mutual

/-- The members of every object sorted by key. -/
def Json.canonical : Json → Json
  | .arr items => .arr (canonicalItems items)
  | .obj members =>
    .obj ((canonicalMembers members).insertionSort fun first second => first.1 ≤ second.1)
  | value => value

def canonicalItems : List Json → List Json
  | [] => []
  | item :: rest => item.canonical :: canonicalItems rest

def canonicalMembers : List (String × Json) → List (String × Json)
  | [] => []
  | (key, value) :: rest => (key, value.canonical) :: canonicalMembers rest

end

/-- `json.dumps(value, ensure_ascii=False, separators=(",", ":"), sort_keys=True)`. -/
def Json.dumps (value : Json) : List Char :=
  value.canonical.chars

/-- Two values have the same text exactly if they are equal up to the order of
members. -/
theorem Json.dumps_eq_iff {first second : Json} :
    first.dumps = second.dumps ↔ first.canonical = second.canonical := by
  constructor
  · intro same
    have appended : first.canonical.chars ++ [] = second.canonical.chars ++ [] := by
      rw [append_nil, append_nil]
      exact same
    exact (chars_append_injective _ _ endsAtom_nil endsAtom_nil appended).1
  · intro same
    rw [dumps, dumps, same]

theorem nul_not_mem_escapeChar (c : Char) : '\x00' ∉ escapeChar c := by
  have digits : ∀ n < 16, Nat.digitChar n ≠ '\x00' := by decide
  unfold escapeChar
  split
  · next letter letterEq =>
    unfold shortEscape at letterEq
    repeat' split at letterEq
    all_goals
      cases letterEq <;> decide
  · split
    · next control =>
      simp only [mem_cons, not_mem_nil, or_false, not_or]
      exact ⟨by decide, by decide, by decide, by decide, (digits _ (by omega)).symm,
        (digits _ (by omega)).symm⟩
    · next notControl =>
      intro mem
      rw [← mem_singleton.mp mem] at notControl
      exact notControl (by decide)

theorem nul_not_mem_stringChars (text : String) : '\x00' ∉ stringChars text := by
  simp only [stringChars, mem_cons, mem_append, mem_flatMap, not_mem_nil,
    or_false, not_or, not_exists, not_and]
  exact ⟨by decide, fun c _ => nul_not_mem_escapeChar c, by decide⟩

mutual

theorem Json.nul_not_mem_chars (value : Json) : '\x00' ∉ value.chars := by
  match value with
  | .null | .bool _ | .int _ | .float _ =>
    exact Json.not_mem_chars_of_atom (by trivial) rfl
  | .str text =>
    simp only [Json.chars]
    exact nul_not_mem_stringChars text
  | .arr [] => simp [Json.chars]
  | .arr (item :: rest) =>
    simp only [Json.chars, mem_cons, mem_append, not_or]
    exact ⟨by decide, Json.nul_not_mem_chars item, nul_not_mem_itemsChars rest⟩
  | .obj [] => simp [Json.chars]
  | .obj ((key, value) :: rest) =>
    simp only [Json.chars, mem_cons, mem_append, not_or]
    exact ⟨by decide, nul_not_mem_stringChars key, by decide, Json.nul_not_mem_chars value,
      nul_not_mem_membersChars rest⟩

theorem nul_not_mem_itemsChars (items : List Json) : '\x00' ∉ itemsChars items := by
  match items with
  | [] => simp [itemsChars]
  | item :: rest =>
    simp only [itemsChars, mem_cons, mem_append, not_or]
    exact ⟨by decide, Json.nul_not_mem_chars item, nul_not_mem_itemsChars rest⟩

theorem nul_not_mem_membersChars (members : List (String × Json)) :
    '\x00' ∉ membersChars members := by
  match members with
  | [] => simp [membersChars]
  | (key, value) :: rest =>
    simp only [membersChars, mem_cons, mem_append, not_or]
    exact ⟨by decide, nul_not_mem_stringChars key, by decide, Json.nul_not_mem_chars value,
      nul_not_mem_membersChars rest⟩

end

end OhMyClass
