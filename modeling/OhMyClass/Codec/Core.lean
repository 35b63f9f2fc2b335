import OhMyClass.Json.Core

/-!
# Lawful codecs over JSON

A codec decodes JSON values of some shape and encodes them back.  It carries
its two laws: a valid value survives the round trip, and what was decoded is
valid.  Records are built field by field, so that their laws come with them.
-/

namespace OhMyClass

open List

/-- Why a value is refused: it is outside its shape, or a check raised. -/
inductive SchemaError where
  | invalid
  | custom (message : String)

structure Codec (α : Type) where
  decode : Json → Except SchemaError α
  encode : α → Json
  Valid : α → Prop
  decode_encode : ∀ {value : α}, Valid value → decode (encode value) = .ok value
  valid_of_decode : ∀ {json : Json} {value : α}, decode json = .ok value → Valid value

/-- How a lax decoder reads scalars; a scalar of the right type is kept. -/
structure Coercions where
  int : Json → Option Int
  bool : Json → Option Bool
  float : Json → Option FloatLiteral
  number : FloatLiteral → Rat
  int_int : ∀ value, int (.int value) = some value
  bool_bool : ∀ value, bool (.bool value) = some value
  float_float : ∀ value, float (.float value) = some value

namespace Codec

variable {α β : Type}

theorem valid_iff (codec : Codec α) {value : α} :
    codec.Valid value ↔ codec.decode (codec.encode value) = .ok value :=
  ⟨codec.decode_encode, codec.valid_of_decode⟩

/-! ## Scalars -/

/-- Any value, as it is. -/
def any : Codec Json where
  decode json := .ok json
  encode json := json
  Valid _ := True
  decode_encode _ := rfl
  valid_of_decode _ := trivial

/-- Texts within bounds on their length. -/
def text (shortest : Nat) (longest : Option Nat) : Codec String where
  decode
    | .str text =>
      if shortest ≤ text.length ∧ ∀ bound ∈ longest, text.length ≤ bound then .ok text
      else .error .invalid
    | _ => .error .invalid
  encode := .str
  Valid text := shortest ≤ text.length ∧ ∀ bound ∈ longest, text.length ≤ bound
  decode_encode valid := if_pos valid
  valid_of_decode decoded := by
    split at decoded
    · split at decoded
      · next inBounds =>
        cases decoded
        exact inBounds
      · cases decoded
    · cases decoded

theorem text_valid_of_unbounded {value : String} : (text 0 none).Valid value :=
  ⟨Nat.zero_le _, nofun⟩

variable {shortest longest : Nat}

theorem text_valid_iff {value : String} :
    (text shortest (some longest)).Valid value ↔
      shortest ≤ value.length ∧ value.length ≤ longest := by
  simp [text]

@[simp] theorem text_decode_str_eq_ok {given value : String} :
    (text shortest (some longest)).decode (.str given) = .ok value ↔
      given = value ∧ shortest ≤ value.length ∧ value.length ≤ longest := by
  simp only [text, Option.mem_some_iff, forall_eq']
  split
  · next inBounds =>
    simp only [Except.ok.injEq, iff_self_and]
    rintro rfl
    exact inBounds
  · next outOfBounds =>
    simp only [reduceCtorEq, false_iff, not_and]
    rintro rfl
    simpa using outOfBounds

/-- One of some texts. -/
def literal (values : List String) : Codec {text // text ∈ values} where
  decode
    | .str text => if listed : text ∈ values then .ok ⟨text, listed⟩ else .error .invalid
    | _ => .error .invalid
  encode text := .str text.1
  Valid _ := True
  decode_encode := fun {text} _ => dif_pos text.2
  valid_of_decode _ := trivial

theorem literal_valid {values : List String} {value : {text // text ∈ values}} :
    (literal values).Valid value :=
  trivial

/-- One of some numbers. -/
def intLiteral (values : List Int) : Codec {number // number ∈ values} where
  decode
    | .int number => if listed : number ∈ values then .ok ⟨number, listed⟩ else .error .invalid
    | _ => .error .invalid
  encode number := .int number.1
  Valid _ := True
  decode_encode := fun {number} _ => dif_pos number.2
  valid_of_decode _ := trivial

theorem intLiteral_valid {values : List Int} {value : {number // number ∈ values}} :
    (intLiteral values).Valid value :=
  trivial

/-- An enumeration, by the texts of its values. -/
def enum (values : List α) (name : α → String) : Codec α where
  decode
    | .str text =>
      match values.find? fun value => name value == text with
      | some value => .ok value
      | none => .error .invalid
    | _ => .error .invalid
  encode value := .str (name value)
  Valid value := values.find? (fun other => name other == name value) = some value
  decode_encode valid := by
    simp only
    rw [valid]
  valid_of_decode decoded := by
    split at decoded
    · split at decoded
      · next value found =>
        cases decoded
        have sameName := List.find?_some found
        rw [beq_iff_eq] at sameName
        rw [sameName]
        exact found
      · cases decoded
    · cases decoded

variable (coercions : Coercions)

def int (least : Option Int) : Codec Int where
  decode json :=
    match coercions.int json with
    | some number => if ∀ bound ∈ least, bound ≤ number then .ok number else .error .invalid
    | none => .error .invalid
  encode := .int
  Valid number := ∀ bound ∈ least, bound ≤ number
  decode_encode valid := by
    rw [coercions.int_int]
    exact if_pos valid
  valid_of_decode decoded := by
    split at decoded
    · split at decoded
      · next inBounds =>
        cases decoded
        exact inBounds
      · cases decoded
    · cases decoded

@[simp] theorem int_decode_int_eq_ok {least given value : Int} :
    (int coercions (some least)).decode (.int given) = .ok value ↔
      given = value ∧ least ≤ value := by
  simp only [int, coercions.int_int, Option.mem_some_iff, forall_eq']
  constructor
  · intro decoded
    split at decoded
    · next inBounds =>
      cases decoded
      exact ⟨rfl, inBounds⟩
    · cases decoded
  · rintro ⟨rfl, inBounds⟩
    exact if_pos inBounds

def bool : Codec Bool where
  decode json :=
    match coercions.bool json with
    | some value => .ok value
    | none => .error .invalid
  encode := .bool
  Valid _ := True
  decode_encode _ := by rw [coercions.bool_bool]
  valid_of_decode _ := trivial

theorem bool_valid {value : Bool} : (bool coercions).Valid value :=
  trivial

def float (least greatest : Rat) : Codec FloatLiteral where
  decode json :=
    match coercions.float json with
    | some value =>
      if least ≤ coercions.number value ∧ coercions.number value ≤ greatest then .ok value
      else .error .invalid
    | none => .error .invalid
  encode := .float
  Valid value := least ≤ coercions.number value ∧ coercions.number value ≤ greatest
  decode_encode valid := by
    rw [coercions.float_float]
    exact if_pos valid
  valid_of_decode decoded := by
    split at decoded
    · split at decoded
      · next inBounds =>
        cases decoded
        exact inBounds
      · cases decoded
    · cases decoded

/-! ## Lists, options and objects -/

def object : Codec JsonObject where
  decode
    | .obj members => .ok members
    | _ => .error .invalid
  encode := .obj
  Valid _ := True
  decode_encode _ := rfl
  valid_of_decode _ := trivial

variable {members : JsonObject}

@[simp] theorem object_decode_obj_eq_ok {value : JsonObject} :
    object.decode (.obj members) = .ok value ↔ members = value := by
  simp [object]

theorem object_valid : object.Valid members :=
  trivial

/-- Decode the items in turn; the first one that is refused decides. -/
def decodeItems (item : Codec α) : List Json → Except SchemaError (List α)
  | [] => .ok []
  | json :: rest => do
    let value ← item.decode json
    let values ← decodeItems item rest
    return value :: values

theorem decodeItems_map_encode (item : Codec α) {values : List α}
    (valid : ∀ value ∈ values, item.Valid value) :
    item.decodeItems (values.map item.encode) = .ok values := by
  induction values with
  | nil => rfl
  | cons value rest ih =>
    rw [forall_mem_cons] at valid
    rw [map_cons, decodeItems, item.decode_encode valid.1, ih valid.2]
    rfl

theorem valid_of_decodeItems (item : Codec α) {items : List Json} {values : List α}
    (decoded : item.decodeItems items = .ok values) : ∀ value ∈ values, item.Valid value := by
  induction items generalizing values with
  | nil =>
    cases decoded
    exact forall_mem_nil _
  | cons json rest ih =>
    rw [decodeItems] at decoded
    cases head : item.decode json with
    | error _ =>
      rw [head] at decoded
      cases decoded
    | ok value =>
      cases tail : item.decodeItems rest with
      | error _ =>
        rw [head, tail] at decoded
        cases decoded
      | ok others =>
        rw [head, tail] at decoded
        cases decoded
        exact forall_mem_cons.mpr ⟨item.valid_of_decode head, ih tail⟩

/-- Lists of at least some length. -/
def listOf (shortest : Nat) (item : Codec α) : Codec (List α) where
  decode
    | .arr items =>
      match item.decodeItems items with
      | .ok values => if shortest ≤ values.length then .ok values else .error .invalid
      | .error error => .error error
    | _ => .error .invalid
  encode values := .arr (values.map item.encode)
  Valid values := shortest ≤ values.length ∧ ∀ value ∈ values, item.Valid value
  decode_encode valid := by
    simp only
    rw [item.decodeItems_map_encode valid.2]
    exact if_pos valid.1
  valid_of_decode decoded := by
    split at decoded
    · split at decoded
      · next values isDecoded =>
        split at decoded
        · next longEnough =>
          cases decoded
          exact ⟨longEnough, item.valid_of_decodeItems isDecoded⟩
        · cases decoded
      · cases decoded
    · cases decoded

theorem listOf_valid_nil {item : Codec α} : (listOf 0 item).Valid [] :=
  ⟨Nat.le_refl 0, forall_mem_nil _⟩

/-- A value or null, for values that are not encoded as null. -/
def nullable (codec : Codec α)
    (notNull : ∀ value, codec.encode value ≠ .null := by exact fun _ => nofun) :
    Codec (Option α) where
  decode
    | .null => .ok none
    | json => (codec.decode json).map some
  encode
    | none => .null
    | some value => codec.encode value
  Valid value := ∀ inner ∈ value, codec.Valid inner
  decode_encode := by
    intro value valid
    cases value with
    | none => rfl
    | some inner =>
      simp only
      split
      · next isNull => exact absurd isNull (notNull inner)
      · rw [codec.decode_encode (valid inner rfl)]
        rfl
  valid_of_decode := by
    intro json value decoded
    split at decoded
    · cases decoded
      nofun
    · cases inner : codec.decode json with
      | error _ =>
        rw [inner] at decoded
        cases decoded
      | ok found =>
        rw [inner] at decoded
        cases decoded
        intro other isFound
        cases Option.mem_some_iff.mp isFound
        exact codec.valid_of_decode inner

variable {codec : Codec α}

theorem nullable_valid_none {notNull : ∀ value, codec.encode value ≠ .null} :
    (codec.nullable notNull).Valid none :=
  nofun

/-- A slot that is filled with a value at hand; nothing is decoded. -/
def given (value : α) : Codec α where
  decode _ := .ok value
  encode _ := .null
  Valid other := other = value
  decode_encode same := by rw [same]
  valid_of_decode decoded := by
    cases decoded
    rfl

variable {json : Json}

@[simp] theorem given_decode_eq_ok {slot value : α} :
    (given slot).decode json = .ok value ↔ slot = value := by
  simp [given]

/-- A codec whose values are checked after they are decoded. -/
def checked (codec : Codec α) (check : α → Except String Unit) : Codec α where
  decode json :=
    match codec.decode json with
    | .error error => .error error
    | .ok value =>
      match check value with
      | .error message => .error (.custom message)
      | .ok () => .ok value
  encode := codec.encode
  Valid value := codec.Valid value ∧ check value = .ok ()
  decode_encode valid := by
    rw [codec.decode_encode valid.1]
    simp only
    rw [valid.2]
  valid_of_decode decoded := by
    split at decoded
    · cases decoded
    · next isDecoded =>
      split at decoded
      · cases decoded
      · next passes =>
        cases decoded
        exact ⟨codec.valid_of_decode isDecoded, passes⟩

@[simp] theorem checked_decode_eq_ok {check : α → Except String Unit} {value : α} :
    (codec.checked check).decode json = .ok value ↔
      codec.decode json = .ok value ∧ check value = .ok () := by
  simp only [checked]
  cases codec.decode json with
  | error _ => simp
  | ok found =>
    simp only [Except.ok.injEq]
    constructor
    · intro decoded
      split at decoded
      · cases decoded
      · next passes =>
        cases decoded
        exact ⟨rfl, passes⟩
    · rintro ⟨rfl, passes⟩
      rw [passes]

theorem decode_encode_eq_ok {value other : α} (valid : codec.Valid value) :
    codec.decode (codec.encode value) = .ok other ↔ value = other := by
  rw [codec.decode_encode valid, Except.ok.injEq]

end Codec

/-! ## Records -/

/-- Fields of a record: which members they read and write.  Other members do
not matter to them. -/
structure Fields (α : Type) where
  names : List String
  read : JsonObject → Except SchemaError α
  write : α → JsonObject
  Valid : α → Prop
  keys_write : ∀ value, (write value).map Prod.fst = names
  read_write : ∀ {value : α} {members : JsonObject}, Valid value →
    (∀ name ∈ names, members.get? name = (write value).get? name) → read members = .ok value
  valid_of_read : ∀ {members : JsonObject} {value : α}, read members = .ok value → Valid value

namespace Fields

variable {α β : Type}

/-- A field that takes its default where the member is missing. -/
def one (name : String) (codec : Codec α) (default : Option α)
    (valid : ∀ value ∈ default, codec.Valid value) : Fields α where
  names := [name]
  read members :=
    match members.get? name with
    | some json => codec.decode json
    | none =>
      match default with
      | some value => .ok value
      | none => .error .invalid
  write value := [(name, codec.encode value)]
  Valid := codec.Valid
  keys_write _ := rfl
  read_write := by
    intro value members isValid same
    have found : members.get? name = some (codec.encode value) := by
      rw [same name List.mem_cons_self]
      simp [JsonObject.get?]
    simp only [found]
    exact codec.decode_encode isValid
  valid_of_read := by
    intro members value isRead
    split at isRead
    · exact codec.valid_of_decode isRead
    · cases default with
      | none => cases isRead
      | some _ =>
        cases isRead
        exact valid _ rfl

def required (name : String) (codec : Codec α) : Fields α :=
  one name codec none nofun

def optional (name : String) (codec : Codec α) (default : α) (valid : codec.Valid default) :
    Fields α :=
  one name codec (some default) fun _ isDefault => (Option.mem_some_iff.mp isDefault) ▸ valid

variable {name : String}

theorem get?_append_of_mem {first second : JsonObject} (listed : name ∈ first.map Prod.fst) :
    JsonObject.get? (first ++ second) name = first.get? name := by
  unfold JsonObject.get?
  rw [lookup_append]
  cases found : first.lookup name with
  | some _ => rfl
  | none =>
    rw [lookup_eq_none_iff] at found
    rcases mem_map.mp listed with ⟨mem, isMember, same⟩
    exact absurd same.symm (bne_iff_ne.mp (found mem isMember))

theorem get?_append_of_not_mem {first second : JsonObject} (unlisted : name ∉ first.map Prod.fst) :
    JsonObject.get? (first ++ second) name = second.get? name := by
  unfold JsonObject.get?
  have missing : first.lookup name = none := by
    rw [lookup_eq_none_iff]
    intro member isMember
    have other : name ≠ member.1 := fun same =>
      unlisted (same ▸ mem_map_of_mem isMember)
    exact bne_iff_ne.mpr other
  rw [lookup_append, missing, Option.none_or]

/-- Two groups of fields have no name in common. -/
structure Apart (first : Fields α) (second : Fields β) : Prop where
  disjoint : (second.names.all fun name => !first.names.contains name) = true

/-- Two groups of fields as one. -/
def and (first : Fields α) (second : Fields β) (apart : Apart first second := by exact ⟨rfl⟩) :
    Fields (α × β) where
  names := first.names ++ second.names
  read members := do
    let left ← first.read members
    let right ← second.read members
    return (left, right)
  write value := first.write value.1 ++ second.write value.2
  Valid value := first.Valid value.1 ∧ second.Valid value.2
  keys_write value := by rw [List.map_append, first.keys_write, second.keys_write]
  read_write := by
    intro value members valid same
    have left : first.read members = .ok value.1 := by
      apply first.read_write valid.1
      intro name listed
      rw [same name (List.mem_append_left _ listed)]
      exact get?_append_of_mem (by rwa [first.keys_write])
    have right : second.read members = .ok value.2 := by
      apply second.read_write valid.2
      intro name listed
      rw [same name (List.mem_append_right _ listed)]
      have unlisted := List.all_eq_true.mp apart.disjoint name listed
      apply get?_append_of_not_mem
      rw [first.keys_write]
      simpa using unlisted
    rw [left, right]
    rfl
  valid_of_read := by
    intro members value isRead
    cases left : first.read members with
    | error _ =>
      rw [left] at isRead
      cases isRead
    | ok one =>
      cases right : second.read members with
      | error _ =>
        rw [left, right] at isRead
        cases isRead
      | ok other =>
        rw [left, right] at isRead
        cases isRead
        exact ⟨first.valid_of_read left, second.valid_of_read right⟩

/-- Fields seen as those of an equivalent type. -/
def imap (fields : Fields α) (make : α → β) (take : β → α)
    (take_make : ∀ value, take (make value) = value)
    (make_take : ∀ value, make (take value) = value) : Fields β where
  names := fields.names
  read members := (fields.read members).map make
  write value := fields.write (take value)
  Valid value := fields.Valid (take value)
  keys_write value := fields.keys_write (take value)
  read_write := by
    intro value members valid same
    rw [fields.read_write valid same]
    exact congrArg Except.ok (make_take value)
  valid_of_read := by
    intro members value isRead
    cases inner : fields.read members with
    | error _ =>
      rw [inner] at isRead
      cases isRead
    | ok found =>
      rw [inner] at isRead
      cases isRead
      rw [take_make]
      exact fields.valid_of_read inner

variable {members : JsonObject} {codec : Codec α}

@[simp] theorem required_read_eq_ok {value : α} :
    (required name codec).read members = .ok value ↔
      ∃ json, members.get? name = some json ∧ codec.decode json = .ok value := by
  cases found : members.get? name with
  | none => simp [required, one, found]
  | some json => simp [required, one, found]

@[simp] theorem optional_read_eq_ok {default value : α} {valid : codec.Valid default} :
    (optional name codec default valid).read members = .ok value ↔
      (∃ json, members.get? name = some json ∧ codec.decode json = .ok value) ∨
        members.get? name = none ∧ default = value := by
  cases found : members.get? name with
  | none => simp [optional, one, found]
  | some json => simp [optional, one, found]

@[simp] theorem and_read_eq_ok {first : Fields α} {second : Fields β} {apart : Apart first second}
    {value : α × β} :
    (first.and second apart).read members = .ok value ↔
      first.read members = .ok value.1 ∧ second.read members = .ok value.2 := by
  rcases value with ⟨left, right⟩
  simp only [Fields.and]
  cases first.read members with
  | error _ => simp [bind, Except.bind]
  | ok _ =>
    cases second.read members with
    | error _ => simp [bind, Except.bind]
    | ok _ => simp [bind, Except.bind, pure, Except.pure]

@[simp] theorem imap_read_eq_ok {fields : Fields α} {make : α → β} {take : β → α}
    {take_make : ∀ value, take (make value) = value}
    {make_take : ∀ value, make (take value) = value} {value : β} :
    (fields.imap make take take_make make_take).read members = .ok value ↔
      fields.read members = .ok (take value) := by
  simp only [imap]
  cases fields.read members with
  | error _ => simp [Except.map]
  | ok found =>
    simp only [Except.map, Except.ok.injEq]
    constructor
    · rintro rfl
      exact (take_make found).symm
    · rintro rfl
      exact make_take value

end Fields

namespace Codec

variable {α : Type}

/-- Objects with given fields; other members are ignored. -/
def model (fields : Fields α) : Codec α where
  decode
    | .obj members => fields.read members
    | _ => .error .invalid
  encode value := .obj (fields.write value)
  Valid := fields.Valid
  decode_encode valid := fields.read_write valid fun _ _ => rfl
  valid_of_decode decoded := by
    split at decoded
    · exact fields.valid_of_read decoded
    · cases decoded

variable {fields : Fields α} {members : JsonObject}

@[simp] theorem model_decode_obj :
    (model fields).decode (.obj members) = fields.read members :=
  rfl

/-- Objects with given fields and no other members. -/
def strictModel (fields : Fields α) : Codec α where
  decode
    | .obj members =>
      if ∀ member ∈ members, member.1 ∈ fields.names then fields.read members
      else .error .invalid
    | _ => .error .invalid
  encode value := .obj (fields.write value)
  Valid := fields.Valid
  decode_encode := by
    intro value valid
    have listed : ∀ member ∈ fields.write value, member.1 ∈ fields.names := by
      intro member isMember
      rw [← fields.keys_write value]
      exact List.mem_map_of_mem isMember
    simp only
    rw [if_pos listed]
    exact fields.read_write valid fun _ _ => rfl
  valid_of_decode decoded := by
    split at decoded
    · split at decoded
      · exact fields.valid_of_read decoded
      · cases decoded
    · cases decoded

theorem read_of_strictModel_decode {value : α}
    (decoded : (strictModel fields).decode (.obj members) = .ok value) :
    fields.read members = .ok value := by
  simp only [strictModel] at decoded
  split at decoded
  · exact decoded
  · cases decoded

end Codec

end OhMyClass
