import OhMyClass.Codec.Core

/-!
# Faithful codecs

A faithful codec decodes the encoding of a value, valid or not, to that value
or not at all.
-/

namespace OhMyClass

variable {α β : Type}

/-- No encoding is decoded to another value. -/
class Codec.Faithful (codec : Codec α) : Prop where
  eq_of_decode : ∀ {value other}, codec.decode (codec.encode value) = .ok other → value = other

/-- No written record is read as another one. -/
class Fields.Faithful (fields : Fields α) : Prop where
  eq_of_read : ∀ {value other members},
    (∀ name ∈ fields.names, JsonObject.get? members name = (fields.write value).get? name) →
      fields.read members = .ok other → value = other

namespace Codec

/-- What the encoding of a value is decoded to. -/
theorem decode_encode_iff {codec : Codec α} [codec.Faithful] {value other : α} :
    codec.decode (codec.encode value) = .ok other ↔ value = other ∧ codec.Valid value := by
  constructor
  · intro decoded
    have same := Faithful.eq_of_decode decoded
    exact ⟨same, same ▸ codec.valid_of_decode decoded⟩
  · rintro ⟨rfl, valid⟩
    exact codec.decode_encode valid

/-! ## Scalars -/

instance (shortest : Nat) (longest : Option Nat) : (text shortest longest).Faithful where
  eq_of_decode := by
    intro value other decoded
    simp only [text] at decoded
    split at decoded
    · cases decoded
      rfl
    · cases decoded

instance (values : List String) : (literal values).Faithful where
  eq_of_decode := by
    intro value other decoded
    simp only [literal, dif_pos value.2] at decoded
    cases decoded
    rfl

instance (values : List Int) : (intLiteral values).Faithful where
  eq_of_decode := by
    intro value other decoded
    simp only [intLiteral, dif_pos value.2] at decoded
    cases decoded
    rfl

theorem enum_faithful {values : List α} {name : α → String}
    (apart : ∀ first second, name first = name second → first = second) :
    (enum values name).Faithful where
  eq_of_decode := by
    intro value other decoded
    simp only [enum] at decoded
    split at decoded
    · next found isFound =>
      cases decoded
      have sameName := List.find?_some isFound
      exact (apart _ _ (beq_iff_eq.mp sameName)).symm
    · cases decoded

instance (coercions : Coercions) (least : Option Int) : (int coercions least).Faithful where
  eq_of_decode := by
    intro value other decoded
    simp only [int, coercions.int_int] at decoded
    split at decoded
    · cases decoded
      rfl
    · cases decoded

instance (coercions : Coercions) : (bool coercions).Faithful where
  eq_of_decode := by
    intro value other decoded
    simp only [bool, coercions.bool_bool] at decoded
    cases decoded
    rfl

instance (coercions : Coercions) (least greatest : Rat) :
    (float coercions least greatest).Faithful where
  eq_of_decode := by
    intro value other decoded
    simp only [float, coercions.float_float] at decoded
    split at decoded
    · cases decoded
      rfl
    · cases decoded

instance : object.Faithful where
  eq_of_decode := object_decode_obj_eq_ok.mp

theorem eq_of_decodeItems {item : Codec α} [item.Faithful] {values others : List α}
    (decoded : item.decodeItems (values.map item.encode) = .ok others) : values = others := by
  induction values generalizing others with
  | nil =>
    cases decoded
    rfl
  | cons value rest ih =>
    rw [List.map_cons, decodeItems] at decoded
    cases head : item.decode (item.encode value) with
    | error _ =>
      rw [head] at decoded
      cases decoded
    | ok first =>
      cases tail : item.decodeItems (rest.map item.encode) with
      | error _ =>
        rw [head, tail] at decoded
        cases decoded
      | ok others =>
        rw [head, tail] at decoded
        cases decoded
        rw [Faithful.eq_of_decode head, ih tail]

instance (shortest : Nat) (item : Codec α) [item.Faithful] : (listOf shortest item).Faithful where
  eq_of_decode := by
    intro values others decoded
    simp only [listOf] at decoded
    split at decoded
    · next items =>
      split at decoded
      · cases decoded
        exact eq_of_decodeItems items
      · cases decoded
    · cases decoded

instance (codec : Codec α) [codec.Faithful] (notNull : ∀ value, codec.encode value ≠ .null) :
    (nullable codec notNull).Faithful where
  eq_of_decode := by
    intro value other decoded
    cases value with
    | none =>
      cases decoded
      rfl
    | some inner =>
      simp only [nullable] at decoded
      split at decoded
      · next isNull => exact absurd isNull (notNull inner)
      · cases read : codec.decode (codec.encode inner) with
        | error _ =>
          rw [read] at decoded
          cases decoded
        | ok found =>
          rw [read] at decoded
          cases decoded
          rw [Faithful.eq_of_decode read]

instance (codec : Codec α) [codec.Faithful] (check : α → Except String Unit) :
    (checked codec check).Faithful where
  eq_of_decode decoded := Faithful.eq_of_decode (checked_decode_eq_ok.mp decoded).1

instance (fields : Fields α) [fields.Faithful] : (model fields).Faithful where
  eq_of_decode read := Fields.Faithful.eq_of_read (fun _ _ => rfl) read

instance (fields : Fields α) [fields.Faithful] : (strictModel fields).Faithful where
  eq_of_decode decoded :=
    Fields.Faithful.eq_of_read (fun _ _ => rfl) (read_of_strictModel_decode decoded)

end Codec

namespace Fields

theorem one_faithful (name : String) (codec : Codec α) [codec.Faithful] (default : Option α)
    (valid : ∀ value ∈ default, codec.Valid value) : (one name codec default valid).Faithful where
  eq_of_read := by
    intro value other members same isRead
    have found : members.get? name = some (codec.encode value) := by
      rw [same name List.mem_cons_self]
      simp [one, JsonObject.get?]
    simp only [one, found] at isRead
    exact Codec.Faithful.eq_of_decode isRead

instance (name : String) (codec : Codec α) [codec.Faithful] : (required name codec).Faithful :=
  one_faithful name codec none nofun

instance (name : String) (codec : Codec α) [codec.Faithful] (default : α)
    (valid : codec.Valid default) : (optional name codec default valid).Faithful :=
  one_faithful name codec (some default) _

instance (first : Fields α) (second : Fields β) (apart : Apart first second) [first.Faithful]
    [second.Faithful] : (first.and second apart).Faithful where
  eq_of_read := by
    intro value other members same isRead
    rcases and_read_eq_ok.mp isRead with ⟨left, right⟩
    have sameLeft : value.1 = other.1 := by
      refine Faithful.eq_of_read (fun name listed => ?_) left
      rw [same name (List.mem_append_left _ listed)]
      exact get?_append_of_mem (by rwa [first.keys_write])
    have sameRight : value.2 = other.2 := by
      refine Faithful.eq_of_read (fun name listed => ?_) right
      rw [same name (List.mem_append_right _ listed)]
      have unlisted := List.all_eq_true.mp apart.disjoint name listed
      apply get?_append_of_not_mem
      rw [first.keys_write]
      simpa using unlisted
    exact Prod.ext sameLeft sameRight

instance (fields : Fields α) [fields.Faithful] (make : α → β) (take : β → α)
    (take_make : ∀ value, take (make value) = value)
    (make_take : ∀ value, make (take value) = value) :
    (fields.imap make take take_make make_take).Faithful where
  eq_of_read := by
    intro value other members same isRead
    have taken : take value = take other :=
      Faithful.eq_of_read same (imap_read_eq_ok.mp isRead)
    rw [← make_take value, taken, make_take]

end Fields

end OhMyClass
