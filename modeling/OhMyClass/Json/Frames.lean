import OhMyClass.Json.Core

/-!
# Frames of objects

Objects that agree on all members but a few, and objects in which one member
of a nested object is written.
-/

namespace OhMyClass.JsonObject

/-- The members agree on every other key. -/
def SameExcept (keys : List String) (before after : JsonObject) : Prop :=
  ∀ key ∉ keys, after.get? key = before.get? key

theorem SameExcept.refl (keys : List String) (members : JsonObject) :
    SameExcept keys members members :=
  fun _ _ => rfl

theorem SameExcept.set {before after : JsonObject} {keys : List String} {key : String}
    (same : SameExcept keys before after) (value : Json) (listed : key ∈ keys) :
    SameExcept keys before (after.set key value) := by
  intro other unlisted
  have different : other ≠ key := by
    rintro rfl
    exact unlisted listed
  rw [get?_set_of_ne after value different]
  exact same other unlisted

/-- A dict as it is, anything else as an empty one. -/
def orEmpty : Option Json → JsonObject
  | some (.obj members) => members
  | _ => []

@[simp] theorem orEmpty_none : orEmpty none = [] := rfl

@[simp] theorem orEmpty_obj (members : JsonObject) : orEmpty (some (.obj members)) = members := rfl

/-- The objects of a list, and none of anything else. -/
def objectsIn : Option Json → List Json
  | some (.arr items) => items.filter fun item => (item matches .obj _)
  | _ => []

theorem isObject_of_mem_objectsIn {value : Option Json} {item : Json}
    (mem : item ∈ objectsIn value) : ∃ members, item = .obj members := by
  unfold objectsIn at mem
  split at mem
  · have matched := (List.mem_filter.mp mem).2
    cases item with
    | obj members => exact ⟨members, rfl⟩
    | null | bool | int | float | str | arr => simp at matched
  · simp at mem

theorem objectsIn_arr_eq_self {items : List Json}
    (objects : ∀ item ∈ items, ∃ members, item = .obj members) :
    objectsIn (some (.arr items)) = items := by
  refine List.filter_eq_self.mpr fun item mem => ?_
  obtain ⟨members, rfl⟩ := objects item mem
  rfl

/-- The value is an object, or nothing is there. -/
def IsObjectOrAbsent (value : Option Json) : Prop :=
  ∀ found ∈ value, ∃ members, found = .obj members

/-- An object keeps everything but one member, and nothing may become an object
with that member. -/
def NestedFrame (key : String) : Option Json → Option Json → Prop
  | some (.obj before), some (.obj after) => SameExcept [key] before after
  | none, some (.obj after) => SameExcept [key] [] after
  | before, after => after = before

theorem nestedFrame_set_iff {key : String} {value : Option Json} {content : Json} :
    NestedFrame key value (some (.obj ((orEmpty value).set key content))) ↔
      IsObjectOrAbsent value := by
  have kept (members : JsonObject) : SameExcept [key] members (members.set key content) :=
    (SameExcept.refl _ members).set content List.mem_cons_self
  cases value with
  | none => exact iff_of_true (kept []) nofun
  | some found =>
    cases found with
    | obj members =>
      refine iff_of_true (kept members) ?_
      intro found isFound
      exact ⟨members, (Option.mem_some_iff.mp isFound).symm⟩
    | null | bool | int | float | str | arr => simp [NestedFrame, IsObjectOrAbsent]

end OhMyClass.JsonObject
