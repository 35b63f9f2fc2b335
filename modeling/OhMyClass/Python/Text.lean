import OhMyClass.Json.Core

/-!
# Python texts of JSON values

`bool`, `repr` and `str` of the values a JSON library loads.  Which characters
beyond ASCII print as themselves is left to the caller.
-/

namespace OhMyClass.Python

/-- `bool(value)`; `isZero` tells which floats are zero. -/
def truthy (isZero : FloatLiteral → Bool) : Json → Bool
  | .null => false
  | .bool value => value
  | .int value => value ≠ 0
  | .float value => !isZero value
  | .str value => value ≠ ""
  | .arr items => !items.isEmpty
  | .obj members => !members.isEmpty

section Repr

variable (printable : Char → Bool)

/-- Hexadecimal digits of a number, at least `width` of them. -/
def hexDigits (width : Nat) (number : Nat) : List Char :=
  List.replicate (width - (Nat.toDigits 16 number).length) '0' ++ Nat.toDigits 16 number

/-- How `repr` writes one character between two quotes. -/
def reprChar (quote c : Char) : List Char :=
  if c = quote ∨ c = '\\' then ['\\', c]
  else if c = '\t' then ['\\', 't']
  else if c = '\n' then ['\\', 'n']
  else if c = '\r' then ['\\', 'r']
  else if c < ' ' ∨ c.toNat = 127 then '\\' :: 'x' :: hexDigits 2 c.toNat
  else if c.toNat < 127 ∨ printable c = true then [c]
  else if c.toNat ≤ 255 then '\\' :: 'x' :: hexDigits 2 c.toNat
  else if c.toNat ≤ 65535 then '\\' :: 'u' :: hexDigits 4 c.toNat
  else '\\' :: 'U' :: hexDigits 8 c.toNat

/-- The quote `repr` chooses. -/
def reprQuote (text : String) : Char :=
  if '\'' ∈ text.toList ∧ '"' ∉ text.toList then '"' else '\''

def reprString (text : String) : List Char :=
  reprQuote text :: text.toList.flatMap (reprChar printable (reprQuote text)) ++ [reprQuote text]

mutual

def repr : Json → List Char
  | .null => "None".toList
  | .bool true => "True".toList
  | .bool false => "False".toList
  | .int value => (toString value).toList
  | .float value => value.text.toList
  | .str value => reprString printable value
  | .arr items => '[' :: reprItems items ++ [']']
  | .obj members => '{' :: reprMembers members ++ ['}']

def reprItems : List Json → List Char
  | [] => []
  | [item] => repr item
  | item :: rest => repr item ++ [',', ' '] ++ reprItems rest

def reprMembers : List (String × Json) → List Char
  | [] => []
  | [member] => reprString printable member.1 ++ [':', ' '] ++ repr member.2
  | member :: rest =>
    reprString printable member.1 ++ [':', ' '] ++ repr member.2 ++ [',', ' '] ++ reprMembers rest

end

/-- `str(value)`. -/
def str : Json → String
  | .str value => value
  | value => String.ofList (repr printable value)

end Repr

end OhMyClass.Python
