import OhMyClass.Gateway.Snapshots.AnswerKeys
import OhMyClass.Text.Core

/-!
# Tenant contexts and storage keys

Access is checked on the exact organization id, while a storage key is built of
the trimmed one.
-/

namespace OhMyClass.Tenancy

open List OhMyClass.Gateway OhMyClass.Text

inductive PrincipalRole where
  | teacher
  | reviewer
  | schoolAdmin
  | systemAdmin
  | worker

inductive TenantError where
  | accessDenied (organizationId resourceOrganizationId : String)
  | unsafeKeyPart (value : String)
  | invalidContext

/-- `Field(default=None, max_length=80)`. -/
def FitsId (value : Option String) : Prop :=
  ∀ text ∈ value, text.length ≤ 80

theorem fitsId_none : FitsId none :=
  nofun

/-- `TenantContext`: who acts, and for which organization. -/
structure TenantContext where
  organizationId : String
  principalId : String
  principalRole : PrincipalRole
  teacherId : Option String
  classId : Option String
  organizationId_bounds : 1 ≤ organizationId.length ∧ organizationId.length ≤ 80
  principalId_bounds : 1 ≤ principalId.length ∧ principalId.length ≤ 80
  teacherId_bounds : FitsId teacherId
  classId_bounds : FitsId classId

/-- `value.strip()`. -/
def strip (value : String) : String :=
  String.ofList (trim isSpace value.toList)

def safeKeyPart (value : String) : Except TenantError String :=
  let stripped := strip value
  if stripped = "" ∨ stripped = "." ∨ stripped = ".." ∨ '/' ∈ stripped.toList ∨
      '\\' ∈ stripped.toList then
    .error (.unsafeKeyPart value)
  else
    .ok stripped

namespace TenantContext

variable (tenant other : TenantContext)

def requireOrganization (resourceOrganizationId : String) : Except TenantError Unit :=
  if tenant.organizationId ≠ resourceOrganizationId then
    .error (.accessDenied tenant.organizationId resourceOrganizationId)
  else
    .ok ()

def storageKey (resourceKind : String) (parts : List String) : Except TenantError String := do
  let safeParts ← parts.mapM safeKeyPart
  let organization ← safeKeyPart tenant.organizationId
  return "/".intercalate ("organizations" :: organization :: resourceKind :: safeParts)

/-- Where all keys of an organization begin. -/
def organizationPrefix : Except TenantError String := do
  let organization ← safeKeyPart tenant.organizationId
  return "organizations/" ++ organization ++ "/"

/-- No key of the first tenant is a key of the second or lies below its prefix. -/
structure KeysApart : Prop where
  different : ∀ resourceKind parts otherKind otherParts key,
    tenant.storageKey resourceKind parts = .ok key → other.storageKey otherKind otherParts ≠ .ok key
  notBelow : ∀ resourceKind parts key above,
    tenant.storageKey resourceKind parts = .ok key → other.organizationPrefix = .ok above →
      ¬ above.toList <+: key.toList

end TenantContext

/-- `personal_tenant_context`, where an empty principal id is no id. -/
def personalTenantContext (teacherId : String) (principalId : Option String)
    (principalRole : PrincipalRole) : Except TenantError TenantContext :=
  let principal := if principalId.getD "" = "" then teacherId else principalId.getD ""
  if bounds : (1 ≤ ("teacher:" ++ teacherId).length ∧ ("teacher:" ++ teacherId).length ≤ 80) ∧
      (1 ≤ principal.length ∧ principal.length ≤ 80) ∧ teacherId.length ≤ 80 then
    .ok {
      organizationId := "teacher:" ++ teacherId
      principalId := principal
      principalRole := principalRole
      teacherId := some teacherId
      classId := none
      organizationId_bounds := bounds.1
      principalId_bounds := bounds.2.1
      teacherId_bounds := fun _ isTeacher => Option.mem_some.mp isTeacher ▸ bounds.2.2
      classId_bounds := fitsId_none }
  else
    .error .invalidContext

/-! ## Keys of two organizations -/

variable {tenant other : TenantContext}

theorem safeKeyPart_eq_ok {value part : String} (safe : safeKeyPart value = .ok part) :
    part = strip value ∧ '/' ∉ part.toList := by
  unfold safeKeyPart at safe
  simp only at safe
  split at safe
  · cases safe
  · next allowed =>
    cases safe
    exact ⟨rfl, fun slash => allowed (.inr (.inr (.inr (.inl slash))))⟩

theorem safeKeyPart_of_strip_eq {value similar part : String} (same : strip value = strip similar)
    (safe : safeKeyPart value = .ok part) : safeKeyPart similar = .ok part := by
  unfold safeKeyPart at safe ⊢
  rw [← same]
  simp only at safe ⊢
  split at safe
  · cases safe
  · next allowed =>
    rw [if_neg allowed]
    exact safe

theorem toList_of_storageKey {resourceKind key : String} {parts : List String}
    (built : tenant.storageKey resourceKind parts = .ok key) :
    ∃ organization rest, safeKeyPart tenant.organizationId = .ok organization ∧
      key.toList = "organizations".toList ++ '/' :: (organization.toList ++ '/' :: rest) := by
  unfold TenantContext.storageKey at built
  cases safe : parts.mapM safeKeyPart with
  | error _ =>
    rw [safe] at built
    cases built
  | ok safeParts =>
    cases isOrganization : safeKeyPart tenant.organizationId with
    | error _ =>
      rw [safe, isOrganization] at built
      cases built
    | ok organization =>
      rw [safe, isOrganization] at built
      cases built
      refine ⟨organization, List.intercalate ['/'] (resourceKind.toList ::
        safeParts.map String.toList), rfl, ?_⟩
      rw [String.toList_intercalate, map_cons, map_cons, map_cons,
        intercalate_cons_cons, intercalate_cons_cons, append_assoc,
        append_assoc]
      rfl

theorem toList_of_organizationPrefix {above : String}
    (built : tenant.organizationPrefix = .ok above) :
    ∃ organization, safeKeyPart tenant.organizationId = .ok organization ∧
      above.toList = "organizations".toList ++ '/' :: (organization.toList ++ ['/']) := by
  unfold TenantContext.organizationPrefix at built
  cases isOrganization : safeKeyPart tenant.organizationId with
  | error _ =>
    rw [isOrganization] at built
    cases built
  | ok organization =>
    rw [isOrganization] at built
    cases built
    refine ⟨organization, rfl, ?_⟩
    rw [String.toList_append, String.toList_append]
    rfl

theorem organization_of_keys {first second : String} {rest others : List Char}
    (isFirst : safeKeyPart tenant.organizationId = .ok first)
    (isSecond : safeKeyPart other.organizationId = .ok second)
    (same : "organizations".toList ++ '/' :: (first.toList ++ '/' :: rest) =
      "organizations".toList ++ '/' :: (second.toList ++ '/' :: others)) :
    strip tenant.organizationId = strip other.organizationId := by
  have tails := (List.cons.inj (append_cancel_left same)).2
  rcases safeKeyPart_eq_ok isFirst with ⟨rfl, freeFirst⟩
  rcases safeKeyPart_eq_ok isSecond with ⟨rfl, freeSecond⟩
  exact String.toList_inj.mp (split_at_first freeFirst freeSecond tails).1

theorem keysApart_of_strip_ne (differ : strip tenant.organizationId ≠ strip other.organizationId) :
    tenant.KeysApart other where
  different := by
    intro resourceKind parts otherKind otherParts key built otherBuilt
    rcases toList_of_storageKey built with ⟨first, rest, isFirst, keyEq⟩
    rcases toList_of_storageKey otherBuilt with ⟨second, others, isSecond, otherKeyEq⟩
    exact differ (organization_of_keys isFirst isSecond (keyEq.symm.trans otherKeyEq))
  notBelow := by
    rintro resourceKind parts key above built isAbove ⟨tail, split⟩
    rcases toList_of_storageKey built with ⟨first, rest, isFirst, keyEq⟩
    rcases toList_of_organizationPrefix isAbove with ⟨second, isSecond, aboveEq⟩
    rw [aboveEq, keyEq] at split
    have same : "organizations".toList ++ '/' :: (first.toList ++ '/' :: rest) =
        "organizations".toList ++ '/' :: (second.toList ++ '/' :: tail) := by
      rw [← split]
      simp
    exact differ (organization_of_keys isFirst isSecond same)

/-- Two organizations share keys if and only if their trimmed ids are one
storable id. -/
theorem keysApart_iff : tenant.KeysApart other ↔
    (strip tenant.organizationId = strip other.organizationId →
      ∃ error, safeKeyPart tenant.organizationId = .error error) := by
  constructor
  · intro apart same
    cases safe : safeKeyPart tenant.organizationId with
    | error error => exact ⟨error, rfl⟩
    | ok part =>
      have built (tenant : TenantContext) (safe : safeKeyPart tenant.organizationId = .ok part) :
          tenant.storageKey "artifacts" [] =
            .ok ("/".intercalate ["organizations", part, "artifacts"]) := by
        unfold TenantContext.storageKey
        rw [safe]
        rfl
      exact absurd (built other (safeKeyPart_of_strip_eq same safe))
        (apart.different _ _ _ _ _ (built tenant safe))
  · intro separate
    by_cases same : strip tenant.organizationId = strip other.organizationId
    · rcases separate same with ⟨error, isUnsafe⟩
      have noKey (resourceKind : String) (parts : List String) (key : String) :
          tenant.storageKey resourceKind parts ≠ .ok key := by
        intro built
        rcases toList_of_storageKey built with ⟨_, _, isSafe, _⟩
        rw [isUnsafe] at isSafe
        cases isSafe
      exact ⟨fun _ _ _ _ _ built => absurd built (noKey _ _ _),
        fun _ _ _ _ built => absurd built (noKey _ _ _)⟩
    · exact keysApart_of_strip_ne same

end OhMyClass.Tenancy
