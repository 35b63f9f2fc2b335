import Mathlib.Logic.Function.Basic

/-!
# A store of counters with lifetimes

Keys with integer values that may expire, and the commands on them.  Times are in
milliseconds, lifetimes in seconds.
-/

namespace OhMyClass.Redis

structure Entry where
  value : Nat
  expiresAt : Option Nat

def Entry.isLive (entry : Entry) (now : Nat) : Bool :=
  entry.expiresAt.all (now < ·)

/-- What was last written to every key, expired or not. -/
abbrev Store := String → Option Entry

namespace Store

def empty : Store := fun _ => none

def live (store : Store) (now : Nat) (key : String) : Option Entry :=
  (store key).filter (·.isLive now)

def incr (store : Store) (now : Nat) (key : String) : Nat × Store :=
  let entry : Entry :=
    match store.live now key with
    | none => ⟨1, none⟩
    | some entry => { entry with value := entry.value + 1 }
  (entry.value, Function.update store key (some entry))

def expire (store : Store) (now : Nat) (key : String) (seconds : Nat) : Store :=
  match store.live now key with
  | none => store
  | some entry =>
    Function.update store key (some { entry with expiresAt := some (now + 1000 * seconds) })

/-- `SET` with `EX`. -/
def setEx (store : Store) (now : Nat) (key : String) (value seconds : Nat) : Store :=
  Function.update store key (some ⟨value, some (now + 1000 * seconds)⟩)

/-- `TTL`: rounded to seconds, -1 without a lifetime, -2 without the key. -/
def ttl (store : Store) (now : Nat) (key : String) : Int :=
  match store.live now key with
  | none => -2
  | some ⟨_, none⟩ => -1
  | some ⟨_, some expiresAt⟩ => (expiresAt - now + 500) / 1000

/-- How long a key with a lifetime still lives. -/
def remaining (store : Store) (now : Nat) (key : String) : Nat :=
  match store key with
  | some ⟨_, some expiresAt⟩ => expiresAt - now
  | _ => 0

variable {store : Store} {now : Nat} {key other : String}

theorem incr_of_ne (different : other ≠ key) : (store.incr now key).2 other = store other :=
  Function.update_of_ne different _ _

theorem expire_of_ne {seconds : Nat} (different : other ≠ key) :
    store.expire now key seconds other = store other := by
  unfold expire
  cases store.live now key with
  | none => rfl
  | some entry => exact Function.update_of_ne different _ _

theorem setEx_of_ne {value seconds : Nat} (different : other ≠ key) :
    store.setEx now key value seconds other = store other :=
  Function.update_of_ne different _ _

@[simp]
theorem setEx_self {value seconds : Nat} :
    store.setEx now key value seconds key = some ⟨value, some (now + 1000 * seconds)⟩ :=
  Function.update_self _ _ _

end Store

end OhMyClass.Redis
