import Mathlib.Data.List.Basic

/-!
# JSON values

The values a JSON library exchanges with a dynamically typed language:
integers and floats are distinct, a float is known by its shortest decimal
text, and an object lists its members in insertion order.
-/

namespace OhMyClass

/-- Characters a float text is made of. -/
def isFloatChar (c : Char) : Bool :=
  c.isDigit || c == '-' || c == '+' || c == '.' || c == 'e'

/-- The texts a finite float prints as: digits with a point or an exponent. -/
def isFloatText (text : String) : Bool :=
  text.toList.all isFloatChar && text.toList.any fun c => c == '.' || c == 'e'

/-- A finite float, by the text it prints as. -/
structure FloatLiteral where
  text : String
  wellFormed : isFloatText text = true
  deriving DecidableEq

inductive Json where
  | null
  | bool (value : Bool)
  | int (value : Int)
  | float (value : FloatLiteral)
  | str (value : String)
  | arr (items : List Json)
  | obj (members : List (String × Json))

/-- Members of an object, in insertion order. -/
abbrev JsonObject := List (String × Json)

namespace JsonObject

/-- `dict.get`. -/
def get? (members : JsonObject) (key : String) : Option Json :=
  members.lookup key

/-- `{**members, key: value}`: a known key keeps its place. -/
def set (members : JsonObject) (key : String) (value : Json) : JsonObject :=
  if members.any fun member => member.1 == key then
    members.map fun member => if member.1 = key then (key, value) else member
  else
    members ++ [(key, value)]

end JsonObject

end OhMyClass

/-!
## Keys at any depth

Whether one of some keys occurs in a value, and the value without the members
under these keys.
-/

namespace OhMyClass.Json

mutual

/-- One of the keys occurs in the value, at any depth. -/
def hasKey (keys : List String) : Json → Bool
  | .arr items => itemsHaveKey keys items
  | .obj members => membersHaveKey keys members
  | _ => false

def itemsHaveKey (keys : List String) : List Json → Bool
  | [] => false
  | item :: rest => item.hasKey keys || itemsHaveKey keys rest

def membersHaveKey (keys : List String) : List (String × Json) → Bool
  | [] => false
  | member :: rest => keys.contains member.1 || member.2.hasKey keys || membersHaveKey keys rest

end

mutual

/-- The value without the members under the keys, at any depth. -/
def erase (keys : List String) : Json → Json
  | .arr items => .arr (eraseItems keys items)
  | .obj members => .obj (eraseMembers keys members)
  | value => value

def eraseItems (keys : List String) : List Json → List Json
  | [] => []
  | item :: rest => item.erase keys :: eraseItems keys rest

def eraseMembers (keys : List String) : List (String × Json) → List (String × Json)
  | [] => []
  | member :: rest =>
    if keys.contains member.1 then eraseMembers keys rest
    else (member.1, member.2.erase keys) :: eraseMembers keys rest

end

variable {keys extra : List String}

mutual

theorem hasKey_erase : ∀ value : Json, (value.erase keys).hasKey keys = false
  | .arr items => itemsHaveKey_eraseItems items
  | .obj members => membersHaveKey_eraseMembers members
  | .null | .bool _ | .int _ | .float _ | .str _ => rfl

theorem itemsHaveKey_eraseItems : ∀ items : List Json,
    itemsHaveKey keys (eraseItems keys items) = false
  | [] => rfl
  | item :: rest => by
    rw [eraseItems, itemsHaveKey, hasKey_erase item, itemsHaveKey_eraseItems rest]
    rfl

theorem membersHaveKey_eraseMembers : ∀ members : List (String × Json),
    membersHaveKey keys (eraseMembers keys members) = false
  | [] => rfl
  | member :: rest => by
    rw [eraseMembers]
    split
    · exact membersHaveKey_eraseMembers rest
    · next kept =>
      rw [membersHaveKey, hasKey_erase member.2, membersHaveKey_eraseMembers rest,
        Bool.eq_false_iff.mpr kept]
      rfl

end

mutual

theorem erase_append_of_not_hasKey : ∀ value : Json, value.hasKey extra = false →
    value.erase (keys ++ extra) = value.erase keys
  | .arr items, absent => congrArg Json.arr (eraseItems_append_of_not_hasKey items absent)
  | .obj members, absent => congrArg Json.obj (eraseMembers_append_of_not_hasKey members absent)
  | .null, _ | .bool _, _ | .int _, _ | .float _, _ | .str _, _ => rfl

theorem eraseItems_append_of_not_hasKey : ∀ items : List Json, itemsHaveKey extra items = false →
    eraseItems (keys ++ extra) items = eraseItems keys items
  | [], _ => rfl
  | item :: rest, absent => by
    rw [itemsHaveKey, Bool.or_eq_false_iff] at absent
    rw [eraseItems, eraseItems, erase_append_of_not_hasKey item absent.1,
      eraseItems_append_of_not_hasKey rest absent.2]

theorem eraseMembers_append_of_not_hasKey : ∀ members : List (String × Json),
    membersHaveKey extra members = false →
    eraseMembers (keys ++ extra) members = eraseMembers keys members
  | [], _ => rfl
  | member :: rest, absent => by
    rw [membersHaveKey, Bool.or_eq_false_iff, Bool.or_eq_false_iff] at absent
    have same : (keys ++ extra).contains member.1 = keys.contains member.1 := by
      rw [List.contains_append, absent.1.1, Bool.or_false]
    rw [eraseMembers, eraseMembers, same, erase_append_of_not_hasKey member.2 absent.1.2,
      eraseMembers_append_of_not_hasKey rest absent.2]

end

end OhMyClass.Json

/-!
## Objects with distinct keys

The objects a JSON library builds list every key once.
-/

namespace OhMyClass

namespace Json

mutual

/-- Every object inside the value lists its keys once. -/
def KeysDistinct : Json → Prop
  | .arr items => itemsKeysDistinct items
  | .obj members => (members.map Prod.fst).Nodup ∧ membersKeysDistinct members
  | _ => True

def itemsKeysDistinct : List Json → Prop
  | [] => True
  | item :: rest => item.KeysDistinct ∧ itemsKeysDistinct rest

def membersKeysDistinct : List (String × Json) → Prop
  | [] => True
  | member :: rest => member.2.KeysDistinct ∧ membersKeysDistinct rest

end

theorem itemsKeysDistinct_iff {items : List Json} :
    itemsKeysDistinct items ↔ ∀ item ∈ items, item.KeysDistinct := by
  induction items with
  | nil => simp [itemsKeysDistinct]
  | cons item rest ih => rw [itemsKeysDistinct, ih, List.forall_mem_cons]

theorem membersKeysDistinct_iff {members : List (String × Json)} :
    membersKeysDistinct members ↔ ∀ member ∈ members, member.2.KeysDistinct := by
  induction members with
  | nil => simp [membersKeysDistinct]
  | cons member rest ih => rw [membersKeysDistinct, ih, List.forall_mem_cons]

end Json

namespace JsonObject

theorem mem_of_get? {members : JsonObject} {key : String} {value : Json}
    (found : members.get? key = some value) : (key, value) ∈ members := by
  unfold JsonObject.get? at found
  induction members with
  | nil => cases found
  | cons mem rest ih =>
    rw [List.lookup_cons] at found
    split at found
    · next same =>
      cases found
      rw [beq_iff_eq.mp same]
      exact List.mem_cons_self
    · exact List.mem_cons_of_mem _ (ih found)

theorem get?_set_self (members : JsonObject) (key : String) (value : Json) :
    (members.set key value).get? key = some value := by
  unfold JsonObject.set JsonObject.get?
  split
  · next known =>
    induction members with
    | nil => cases known
    | cons member rest ih =>
      rw [List.map_cons]
      by_cases same : member.1 = key
      · rw [if_pos same, List.lookup_cons_self]
      · have other : (key == member.1) = false := beq_eq_false_iff_ne.mpr (Ne.symm same)
        rw [if_neg same, List.lookup_cons, other]
        apply ih
        simpa [same] using known
  · next unknown =>
    have missing : List.lookup key members = none := by
      rw [List.lookup_eq_none_iff]
      intro member isMember
      rw [bne_iff_ne]
      rintro rfl
      exact unknown (List.any_eq_true.mpr ⟨member, isMember, beq_self_eq_true _⟩)
    rw [List.lookup_append, missing, Option.none_or, List.lookup_cons_self]

theorem get?_set_of_ne (members : JsonObject) {key other : String} (value : Json)
    (different : key ≠ other) : (members.set other value).get? key = members.get? key := by
  have apart : (key == other) = false := beq_eq_false_iff_ne.mpr different
  unfold JsonObject.set JsonObject.get?
  split
  · next known =>
    clear known
    induction members with
    | nil => rfl
    | cons member rest ih =>
      rw [List.map_cons]
      by_cases same : member.1 = other
      · rw [if_pos same, List.lookup_cons, List.lookup_cons, same, apart]
        exact ih
      · rw [if_neg same, List.lookup_cons, List.lookup_cons, ih]
  · rw [List.lookup_append, List.lookup_cons, apart, List.lookup_nil, Option.or_none]

theorem get?_filter (members : JsonObject) {key : String} (keeps : String → Bool)
    (kept : keeps key = true) :
    JsonObject.get? (members.filter fun member => keeps member.1) key = members.get? key := by
  unfold JsonObject.get?
  induction members with
  | nil => rfl
  | cons member rest ih =>
    by_cases isKept : keeps member.1 = true
    · rw [List.filter_cons, if_pos isKept, List.lookup_cons, List.lookup_cons, ih]
    · have different : (key == member.1) = false := by
        rw [beq_eq_false_iff_ne]
        rintro rfl
        exact isKept kept
      rw [List.filter_cons, if_neg isKept, List.lookup_cons, different]
      exact ih

/-- Setting the keys of a list with distinct keys one after the other gives the
list back. -/
theorem foldl_set_of_nodup {members : List (String × Json)}
    (distinct : (members.map Prod.fst).Nodup) :
    members.foldl (fun dict member => JsonObject.set dict member.1 member.2) [] = members := by
  suffices general : ∀ done : JsonObject, (done.map Prod.fst ++ members.map Prod.fst).Nodup →
      members.foldl (fun dict member => JsonObject.set dict member.1 member.2) done =
        done ++ members from
    general [] distinct
  induction members with
  | nil => simp
  | cons member rest ih =>
    intro done nodup
    rw [List.nodup_append] at nodup
    have absent : ∀ other ∈ done, (other.1 == member.1) = false := by
      intro other isDone
      exact beq_eq_false_iff_ne.mpr
        (nodup.2.2 other.1 (List.mem_map_of_mem isDone) member.1 List.mem_cons_self)
    have appended : JsonObject.set done member.1 member.2 = done ++ [member] := by
      unfold JsonObject.set
      rw [if_neg]
      simp only [List.any_eq_true, not_exists, not_and]
      intro other isDone
      simp [absent other isDone]
    rw [List.foldl_cons, appended, ih (List.nodup_cons.mp distinct).2, List.append_assoc]
    · rfl
    · rw [List.map_append, List.append_assoc, List.nodup_append]
      exact ⟨nodup.1, nodup.2.1, nodup.2.2⟩

end JsonObject

end OhMyClass
