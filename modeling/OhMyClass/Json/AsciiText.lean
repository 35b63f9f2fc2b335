import OhMyClass.Json.Text

/-!
# Compact ASCII JSON text

The text a JSON encoder writes when it escapes all that is not ASCII.  It is
made of units, which can be read off one after the other, so that equal texts
still come from values that are equal up to the order of object members.
-/

namespace OhMyClass

open List

/-- `\\u` and four hexadecimal digits. -/
def hexEscape (n : Nat) : List Char :=
  ['\\', 'u', Nat.digitChar (n / 4096 % 16), Nat.digitChar (n / 256 % 16),
    Nat.digitChar (n / 16 % 16), Nat.digitChar (n % 16)]

/-- A character in ASCII; beyond the basic plane as a pair of surrogates. -/
def asciiChar (c : Char) : List Char :=
  if c.toNat < 127 then [c]
  else if c.toNat < 65536 then hexEscape c.toNat
  else hexEscape (55296 + (c.toNat - 65536) / 1024) ++ hexEscape (56320 + (c.toNat - 65536) % 1024)

/-- `json.dumps(value, separators=(",", ":"), sort_keys=True)`. -/
def Json.asciiDumps (value : Json) : List Char :=
  value.dumps.flatMap asciiChar

theorem hexEscape_append_injective {m n : Nat} {s t : List Char} (mLt : m < 65536)
    (nLt : n < 65536) (same : hexEscape m ++ s = hexEscape n ++ t) : m = n ∧ s = t := by
  simp only [hexEscape, cons_append, nil_append, List.cons.injEq, true_and] at same
  rcases same with ⟨first, second, third, fourth, rest⟩
  have digits {k l : Nat} (digit : Nat.digitChar (k % 16) = Nat.digitChar (l % 16)) :
      k % 16 = l % 16 :=
    digitChar_injective (Nat.mod_lt _ (by decide)) (Nat.mod_lt _ (by decide)) digit
  have firsts := digits first
  have seconds := digits second
  have thirds := digits third
  have fourths := digits fourth
  exact ⟨by omega, rest⟩

theorem flatMap_asciiChar_of_ascii {chars : List Char} (isAscii : ∀ c ∈ chars, c.toNat < 127) :
    chars.flatMap asciiChar = chars := by
  induction chars with
  | nil => rfl
  | cons c rest ih =>
    rw [forall_mem_cons] at isAscii
    rw [flatMap_cons, ih isAscii.2, asciiChar, if_pos isAscii.1, singleton_append]

theorem flatMap_asciiChar_hexEscape (n : Nat) : (hexEscape n).flatMap asciiChar = hexEscape n := by
  have digits : ∀ m < 16, (Nat.digitChar m).toNat < 127 := by decide
  have digit (m : Nat) : (Nat.digitChar (m % 16)).toNat < 127 := digits _ (Nat.mod_lt _ (by decide))
  apply flatMap_asciiChar_of_ascii
  simp only [hexEscape, forall_mem_cons]
  exact ⟨by decide, by decide, digit _, digit _, digit _, digit _, forall_mem_nil _⟩

/-! ## Units -/

/-- What an ASCII text is read as, piece by piece. -/
inductive TextUnit where
  | plain (c : Char)
  | short (letter : Char)
  | code (n : Nat)
  | pair (high low : Nat)

namespace TextUnit

/-- The units a text can be made of. -/
def WellFormed : TextUnit → Prop
  | plain c => c ≠ '\\'
  | short letter => letter ≠ 'u'
  | code n => n < 65536 ∧ ¬ (55296 ≤ n ∧ n < 56320)
  | pair high low => (55296 ≤ high ∧ high < 56320) ∧ low < 65536

/-- The unit in ASCII. -/
def ascii : TextUnit → List Char
  | plain c => [c]
  | short letter => ['\\', letter]
  | code n => hexEscape n
  | pair high low => hexEscape high ++ hexEscape low

/-- The unit where only control characters are escaped. -/
def text : TextUnit → List Char
  | plain c => [c]
  | short letter => ['\\', letter]
  | code n => if n < 32 then hexEscape n else [Char.ofNat n]
  | pair high low => [Char.ofNat (65536 + (high - 55296) * 1024 + (low - 56320))]

theorem ascii_ne_nil (unit : TextUnit) : unit.ascii ≠ [] := by
  cases unit <;> exact cons_ne_nil _ _

theorem ascii_append_injective {first second : TextUnit} {s t : List Char}
    (firstWell : first.WellFormed) (secondWell : second.WellFormed)
    (same : first.ascii ++ s = second.ascii ++ t) : first = second ∧ s = t := by
  cases first with
  | plain c =>
    cases second with
    | plain d =>
      simp only [ascii, cons_append, nil_append, List.cons.injEq] at same
      exact ⟨congrArg plain same.1, same.2⟩
    | short | code | pair => exact absurd (List.cons.inj same).1 firstWell
  | short letter =>
    cases second with
    | plain d => exact absurd (List.cons.inj same).1.symm secondWell
    | short other =>
      simp only [ascii, cons_append, nil_append, List.cons.injEq, true_and] at same
      exact ⟨congrArg short same.1, same.2⟩
    | code | pair => exact absurd (List.cons.inj (List.cons.inj same).2).1 firstWell
  | code n =>
    cases second with
    | plain d => exact absurd (List.cons.inj same).1.symm secondWell
    | short other => exact absurd (List.cons.inj (List.cons.inj same).2).1.symm secondWell
    | code m =>
      rcases hexEscape_append_injective firstWell.1 secondWell.1 same with ⟨sameCode, rest⟩
      exact ⟨congrArg code sameCode, rest⟩
    | pair high low =>
      have bound := secondWell.1.2
      rcases hexEscape_append_injective firstWell.1 (by omega) same with ⟨rfl, _⟩
      exact absurd secondWell.1 firstWell.2
  | pair high low =>
    have bound := firstWell.1.2
    cases second with
    | plain d => exact absurd (List.cons.inj same).1.symm secondWell
    | short other => exact absurd (List.cons.inj (List.cons.inj same).2).1.symm secondWell
    | code m =>
      rcases hexEscape_append_injective (by omega) secondWell.1 same with ⟨rfl, _⟩
      exact absurd firstWell.1 secondWell.2
    | pair otherHigh otherLow =>
      have otherBound := secondWell.1.2
      rcases hexEscape_append_injective (by omega) (by omega) same with ⟨rfl, lows⟩
      rcases hexEscape_append_injective firstWell.2 secondWell.2 lows with ⟨rfl, rest⟩
      exact ⟨rfl, rest⟩

theorem flatMap_ascii_injective {first second : List TextUnit}
    (firstWell : ∀ unit ∈ first, unit.WellFormed) (secondWell : ∀ unit ∈ second, unit.WellFormed)
    (same : first.flatMap ascii = second.flatMap ascii) : first = second := by
  induction first generalizing second with
  | nil =>
    cases second with
    | nil => rfl
    | cons unit _ =>
      exact absurd (append_eq_nil_iff.mp same.symm).1 (ascii_ne_nil unit)
  | cons unit rest ih =>
    cases second with
    | nil =>
      exact absurd (append_eq_nil_iff.mp same).1 (ascii_ne_nil unit)
    | cons other others =>
      rw [forall_mem_cons] at firstWell secondWell
      rcases ascii_append_injective firstWell.1 secondWell.1 same with ⟨rfl, sameRest⟩
      rw [ih firstWell.2 secondWell.2 sameRest]

end TextUnit

/-- The text is made of units, and its ASCII form of the same. -/
def Spelled (chars : List Char) : Prop :=
  ∃ units : List TextUnit, (∀ unit ∈ units, unit.WellFormed) ∧
    units.flatMap TextUnit.text = chars ∧ units.flatMap TextUnit.ascii = chars.flatMap asciiChar

theorem Spelled.eq_of_ascii {first second : List Char} (firstSpelled : Spelled first)
    (secondSpelled : Spelled second) (same : first.flatMap asciiChar = second.flatMap asciiChar) :
    first = second := by
  rcases firstSpelled with ⟨units, well, rfl, ascii⟩
  rcases secondSpelled with ⟨others, otherWell, rfl, otherAscii⟩
  rw [TextUnit.flatMap_ascii_injective well otherWell (ascii.trans (same.trans otherAscii.symm))]

theorem spelled_nil : Spelled [] :=
  ⟨[], forall_mem_nil _, rfl, rfl⟩

theorem Spelled.append {first second : List Char} (firstSpelled : Spelled first)
    (secondSpelled : Spelled second) : Spelled (first ++ second) := by
  rcases firstSpelled with ⟨units, well, rfl, ascii⟩
  rcases secondSpelled with ⟨others, otherWell, rfl, otherAscii⟩
  refine ⟨units ++ others, ?_, flatMap_append, ?_⟩
  · intro unit mem
    exact (mem_append.mp mem).elim (well unit) (otherWell unit)
  · rw [flatMap_append, flatMap_append, ascii, otherAscii]

theorem spelled_unit {unit : TextUnit} (well : unit.WellFormed)
    (ascii : unit.ascii = unit.text.flatMap asciiChar) : Spelled unit.text :=
  ⟨[unit], forall_mem_singleton.mpr well, by simp, by simp [ascii]⟩

theorem toNat_lt (c : Char) : c.toNat < 1114112 ∧ ¬ (55296 ≤ c.toNat ∧ c.toNat < 57344) := by
  rcases c.valid with low | high
  · have bound : c.toNat < 55296 := low
    omega
  · have above : 57343 < c.toNat := high.1
    have below : c.toNat < 1114112 := high.2
    omega

theorem spelled_char {c : Char} (plain : c ≠ '\\') : Spelled [c] := by
  have bounds := toNat_lt c
  by_cases isAscii : c.toNat < 127
  · have wellFormed : (TextUnit.plain c).WellFormed := plain
    exact spelled_unit wellFormed (by simp [TextUnit.ascii, TextUnit.text, asciiChar, isAscii])
  by_cases isBasic : c.toNat < 65536
  · have isText : (TextUnit.code c.toNat).text = [c] := by
      rw [TextUnit.text, if_neg (by omega), Char.ofNat_toNat]
    rw [← isText]
    refine spelled_unit ⟨isBasic, by omega⟩ ?_
    rw [isText, flatMap_singleton, asciiChar, if_neg isAscii, if_pos isBasic]
    rfl
  · have isText : (TextUnit.pair (55296 + (c.toNat - 65536) / 1024)
        (56320 + (c.toNat - 65536) % 1024)).text = [c] := by
      rw [TextUnit.text]
      have back : 65536 + (55296 + (c.toNat - 65536) / 1024 - 55296) * 1024 +
          (56320 + (c.toNat - 65536) % 1024 - 56320) = c.toNat := by omega
      rw [back, Char.ofNat_toNat]
    rw [← isText]
    refine spelled_unit ⟨by omega, by omega⟩ ?_
    rw [isText, flatMap_singleton, asciiChar, if_neg isAscii, if_neg isBasic]
    rfl

theorem Spelled.cons {c : Char} {chars : List Char} (plain : c ≠ '\\') (spelled : Spelled chars) :
    Spelled (c :: chars) :=
  (spelled_char plain).append spelled

theorem spelled_of_plain {chars : List Char} (plain : '\\' ∉ chars) : Spelled chars := by
  induction chars with
  | nil => exact spelled_nil
  | cons c rest ih =>
    rw [mem_cons, not_or] at plain
    exact (ih plain.2).cons (Ne.symm plain.1)

/-! ## The text of a value is made of units -/

theorem spelled_escapeChar (c : Char) : Spelled (escapeChar c) := by
  unfold escapeChar
  split
  · next letter isShort =>
    have isAscii : letter.toNat < 127 := by
      unfold shortEscape at isShort
      repeat' split at isShort
      all_goals
        cases isShort <;> decide
    have notU : (TextUnit.short letter).WellFormed := by
      rintro rfl
      exact shortEscape_ne_u c isShort
    have ascii : (TextUnit.short letter).ascii = (TextUnit.short letter).text.flatMap asciiChar := by
      simp [TextUnit.ascii, TextUnit.text, asciiChar, isAscii]
    exact spelled_unit notU ascii
  · next notShort =>
    split
    · next control =>
      have isEscape :
          ['\\', 'u', '0', '0', Nat.digitChar (c.toNat / 16), Nat.digitChar (c.toNat % 16)] =
            hexEscape c.toNat := by
        have first : c.toNat / 4096 % 16 = 0 := by omega
        have second : c.toNat / 256 % 16 = 0 := by omega
        have third : c.toNat / 16 % 16 = c.toNat / 16 := by omega
        rw [hexEscape, first, second, third]
        rfl
      have isText : (TextUnit.code c.toNat).text = hexEscape c.toNat := if_pos control
      rw [isEscape, ← isText]
      refine spelled_unit ⟨by omega, by omega⟩ ?_
      rw [isText, flatMap_asciiChar_hexEscape]
      rfl
    · apply spelled_char
      rintro rfl
      cases notShort

theorem spelled_flatMap {α : Type} {items : List α} {chars : α → List Char}
    (each : ∀ item, Spelled (chars item)) : Spelled (items.flatMap chars) := by
  induction items with
  | nil => exact spelled_nil
  | cons item rest ih => exact (each item).append ih

theorem spelled_stringChars (text : String) : Spelled (stringChars text) :=
  ((spelled_flatMap spelled_escapeChar).append (spelled_char (by decide))).cons (by decide)

mutual

theorem Json.spelled_chars (value : Json) : Spelled value.chars := by
  match value with
  | .null | .bool _ | .int _ | .float _ =>
    exact spelled_of_plain (Json.not_mem_chars_of_atom (by trivial) rfl)
  | .str text =>
    simp only [Json.chars]
    exact spelled_stringChars text
  | .arr [] =>
    simp only [Json.chars]
    exact spelled_of_plain (by decide)
  | .arr (item :: rest) =>
    simp only [Json.chars]
    exact ((Json.spelled_chars item).append (spelled_itemsChars rest)).cons (by decide)
  | .obj [] =>
    simp only [Json.chars]
    exact spelled_of_plain (by decide)
  | .obj ((key, value) :: rest) =>
    simp only [Json.chars]
    have member := ((Json.spelled_chars value).append (spelled_membersChars rest)).cons
      (by decide : ':' ≠ '\\')
    exact ((spelled_stringChars key).append member).cons (by decide)

theorem spelled_itemsChars (items : List Json) : Spelled (itemsChars items) := by
  match items with
  | [] =>
    simp only [itemsChars]
    exact spelled_of_plain (by decide)
  | item :: rest =>
    simp only [itemsChars]
    exact ((Json.spelled_chars item).append (spelled_itemsChars rest)).cons (by decide)

theorem spelled_membersChars (members : List (String × Json)) : Spelled (membersChars members) := by
  match members with
  | [] =>
    simp only [membersChars]
    exact spelled_of_plain (by decide)
  | (key, value) :: rest =>
    simp only [membersChars]
    have member := ((Json.spelled_chars value).append (spelled_membersChars rest)).cons
      (by decide : ':' ≠ '\\')
    exact ((spelled_stringChars key).append member).cons (by decide)

end

/-- Also in ASCII two values have the same text exactly if they are equal up to
the order of members. -/
theorem Json.asciiDumps_eq_iff {first second : Json} :
    first.asciiDumps = second.asciiDumps ↔ first.canonical = second.canonical := by
  rw [← Json.dumps_eq_iff]
  constructor
  · exact (Json.spelled_chars first.canonical).eq_of_ascii (Json.spelled_chars second.canonical)
  · intro same
    rw [asciiDumps, asciiDumps, same]

/-! ## Values in canonical form -/

namespace Json

theorem lookup_orderedInsert (member : String × Json) (members : List (String × Json))
    (key : String) :
    (members.orderedInsert (fun first second => first.1 ≤ second.1) member).lookup key =
      (member :: members).lookup key := by
  induction members with
  | nil => rfl
  | cons head rest ih =>
    by_cases before : member.1 ≤ head.1
    · rw [orderedInsert_cons, if_pos before]
    · rw [orderedInsert_cons, if_neg before, lookup_cons, ih, lookup_cons,
        lookup_cons, lookup_cons]
      -- Both keys at once would be equal keys.
      cases isHead : key == head.1 with
      | false => rfl
      | true =>
        cases isMember : key == member.1 with
        | false => rfl
        | true =>
          rw [beq_iff_eq] at isHead isMember
          rw [← isHead, ← isMember] at before
          exact absurd (String.le_refl key) before

theorem lookup_insertionSort (members : List (String × Json)) (key : String) :
    (members.insertionSort fun first second => first.1 ≤ second.1).lookup key =
      members.lookup key := by
  induction members with
  | nil => rfl
  | cons mem rest ih =>
    rw [insertionSort_cons, lookup_orderedInsert, lookup_cons, lookup_cons, ih]

theorem lookup_canonicalMembers (members : List (String × Json)) (key : String) :
    (canonicalMembers members).lookup key = (members.lookup key).map canonical := by
  induction members with
  | nil => rfl
  | cons member rest ih =>
    rw [canonicalMembers, lookup_cons, lookup_cons, ih]
    cases key == member.1 <;> rfl

theorem get?_of_canonical_eq {first second : JsonObject}
    (same : (Json.obj first).canonical = (Json.obj second).canonical) (key : String) :
    (first.get? key).map canonical = (second.get? key).map canonical := by
  rw [canonical, canonical, Json.obj.injEq] at same
  have looked := congrArg (List.lookup key) same
  rw [lookup_insertionSort, lookup_insertionSort, lookup_canonicalMembers,
    lookup_canonicalMembers] at looked
  exact looked

theorem canonicalItems_eq_map (items : List Json) : canonicalItems items = items.map canonical := by
  induction items with
  | nil => rfl
  | cons item rest ih => rw [canonicalItems, ih, map_cons]

theorem eq_str_of_canonical {value : Json} {text : String} (same : value.canonical = .str text) :
    value = .str text := by
  cases value with
  | arr | obj => simp [canonical] at same
  | null | bool | int | float | str => exact same

theorem exists_arr_of_canonical {value : Json} {items : List Json}
    (same : value.canonical = (Json.arr items).canonical) :
    ∃ others, value = .arr others ∧ others.map canonical = items.map canonical := by
  cases value with
  | arr others =>
    rw [canonical, canonical, Json.arr.injEq, canonicalItems_eq_map, canonicalItems_eq_map] at same
    exact ⟨others, rfl, same⟩
  | obj => simp [canonical] at same
  | null | bool | int | float | str => simp [canonical] at same

theorem exists_obj_of_canonical {value : Json} {members : JsonObject}
    (same : value.canonical = (Json.obj members).canonical) : ∃ others, value = .obj others := by
  cases value with
  | obj others => exact ⟨others, rfl⟩
  | arr => simp [canonical] at same
  | null | bool | int | float | str => simp [canonical] at same

end Json

namespace JsonObject

theorem set_eq_self {members : JsonObject} {key : String} {value : Json}
    (distinct : (members.map Prod.fst).Nodup) (found : members.get? key = some value) :
    members.set key value = members := by
  have member := mem_of_get? found
  unfold set
  rw [if_pos (any_eq_true.mpr ⟨_, member, beq_self_eq_true key⟩)]
  refine (map_congr_left fun other isOther => ?_).trans (map_id _)
  split
  · next same => exact (inj_on_of_nodup_map distinct isOther member same).symm
  · rfl

end JsonObject

end OhMyClass
