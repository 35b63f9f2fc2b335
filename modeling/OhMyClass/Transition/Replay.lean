import OhMyClass.Transition.Machine
import OhMyClass.Transition.Session

/-!
# Repeated requests

A request first looks for the record an earlier copy of it left, then inspects
the store, then writes and commits.  Copies of one request overlap between
these steps.  What a writer has not committed is invisible to the others, and
a second writer waits until the first one is done.
-/

namespace OhMyClass.Transition

variable {σ ε α κ ι ρ : Type}

/-- A request handler, cut where its statements reach the store. -/
structure Command (σ ε α κ ι : Type) where
  lookup : σ → Option (Except ε α)
  inspect : σ → Except ε κ
  insert : ι → κ → Session σ ε α

/-- The handler without interruption. -/
def Command.call (command : Command σ ε α κ ι) (fresh : ι) : Session σ ε α := fun store =>
  match command.lookup store with
  | some answer => (answer, store)
  | none =>
    match command.inspect store with
    | .error exception => (.error exception, store)
    | .ok found => command.insert fresh found store

/-- How far one copy of the request has come. -/
inductive Phase (ε α κ : Type) where
  | sent
  | missed
  | inspected (found : κ)
  | writing
  | answered (result : Except ε α)

/-- A write that waits for its commit. -/
structure Pending (σ α : Type) where
  index : Nat
  after : σ
  answer : α

/-- The committed store, the write in progress, the copies of the request, and
the rows before and after each commit that changed them, newest first. -/
structure Server (σ ε α κ ρ : Type) where
  store : σ
  writer : Option (Pending σ α)
  phases : List (Phase ε α κ)
  effects : List (ρ × ρ)

inductive CopyStep (ι : Type) where
  | lookup (index : Nat)
  | inspect (index : Nat)
  | insert (index : Nat) (fresh : ι)
  | commit

namespace Server

/-- The copies before any of them is handled. -/
def start (store : σ) (copies : Nat) : Server σ ε α κ ρ :=
  ⟨store, none, List.replicate copies .sent, []⟩

def setPhase (server : Server σ ε α κ ρ) (index : Nat) (phase : Phase ε α κ) : Server σ ε α κ ρ :=
  { server with phases := server.phases.set index phase }

/-- Copy `index` was answered with a result. -/
def Answered (server : Server σ ε α κ ρ) (index : Nat) (result : Except ε α) : Prop :=
  server.phases[index]? = some (.answered result)

end Server

namespace Command

variable (command : Command σ ε α κ ι)

def lookupStep (server : Server σ ε α κ ρ) (index : Nat) : Server σ ε α κ ρ :=
  match server.phases[index]? with
  | some .sent =>
    match command.lookup server.store with
    | some result => server.setPhase index (.answered result)
    | none => server.setPhase index .missed
  | _ => server

def inspectStep (server : Server σ ε α κ ρ) (index : Nat) : Server σ ε α κ ρ :=
  match server.phases[index]? with
  | some .missed =>
    match command.inspect server.store with
    | .error exception => server.setPhase index (.answered (.error exception))
    | .ok found => server.setPhase index (.inspected found)
  | _ => server

/-- A copy that raises is rolled back; one that returns holds its writes back
until the commit. -/
def insertStep (server : Server σ ε α κ ρ) (index : Nat) (fresh : ι) : Server σ ε α κ ρ :=
  match server.writer, server.phases[index]? with
  | none, some (.inspected found) =>
    match command.insert fresh found server.store with
    | (.error exception, _) => server.setPhase index (.answered (.error exception))
    | (.ok answer, after) =>
      { server.setPhase index .writing with writer := some ⟨index, after, answer⟩ }
  | _, _ => server

def commitStep [DecidableEq ρ] (rows : σ → ρ) (server : Server σ ε α κ ρ) : Server σ ε α κ ρ :=
  match server.writer with
  | none => server
  | some pending =>
    { store := pending.after
      writer := none
      phases := server.phases.set pending.index (.answered (.ok pending.answer))
      effects :=
        if rows pending.after = rows server.store then server.effects
        else (rows server.store, rows pending.after) :: server.effects }

def step [DecidableEq ρ] (rows : σ → ρ) (server : Server σ ε α κ ρ) :
    CopyStep ι → Server σ ε α κ ρ
  | .lookup index => command.lookupStep server index
  | .inspect index => command.inspectStep server index
  | .insert index fresh => command.insertStep server index fresh
  | .commit => commitStep rows server

/-- Any number of copies on a store without a record of the request. -/
def copiesMachine [DecidableEq ρ] (rows : σ → ρ) :
    Machine (Server σ ε α κ ρ) (CopyStep ι) Unit where
  initial server := ∃ store copies, command.lookup store = none ∧ server = .start store copies
  step server input := (command.step rows server input, ())

/-- The inspection with which a copy that is not kept waiting inserts. -/
def inserting (server : Server σ ε α κ ρ) : CopyStep ι → Option κ
  | .insert index _ =>
    match server.writer, server.phases[index]? with
    | none, some (.inspected found) => some found
    | _, _ => none
  | _ => none

/-- Every insertion meets a condition on its inspection and the store. -/
def InsertionGuard (safe : κ → σ → Prop) :
    Guard (Server σ ε α κ ρ) (CopyStep ι) Unit := fun server _ input =>
  ∀ found ∈ inserting server input, safe found server.store

/-- All copies that succeed give one answer, exactly one of them has had an
effect, and the right one, and a copy still to be handled will be given the same
answer. -/
structure ReplaySafe [DecidableEq ρ] (rows : σ → ρ) (effect : ρ → ρ → Prop)
    (server : Server σ ε α κ ρ) : Prop where
  same : ∀ {first second : Nat} {left right : α}, server.Answered first (.ok left) →
    server.Answered second (.ok right) → left = right
  once : ∀ {index : Nat} {answer : α}, server.Answered index (.ok answer) →
    ∃ before after, server.effects = [(before, after)] ∧ effect before after
  later : ∀ {index next : Nat} {answer : α}, server.Answered index (.ok answer) →
    server.phases[next]? = some .sent →
    (command.step rows server (.lookup next)).Answered next (.ok answer)

/-- Some store gave this inspection. -/
def Inspected (found : κ) : Prop :=
  ∃ store, command.inspect store = .ok found

/-- What a record guarantees: the lookup finds it, a first safe insertion leaves
one and has the effect, and a safe insertion beside one either raises or repeats
its answer without an effect. -/
structure Recording (rows : σ → ρ) (effect : ρ → ρ → Prop) (safe : κ → σ → Prop)
    (recorded : α → σ → Prop) : Prop where
  found : ∀ {answer : α} {store : σ}, recorded answer store →
    command.lookup store = some (.ok answer)
  first : ∀ {fresh : ι} {found : κ} {store after : σ} {answer : α},
    command.lookup store = none → command.Inspected found → safe found store →
    command.insert fresh found store = (.ok answer, after) →
    recorded answer after ∧ rows after ≠ rows store ∧ effect (rows store) (rows after)
  again : ∀ {fresh : ι} {found : κ} {store after : σ} {answer repeated : α},
    recorded answer store → command.Inspected found → safe found store →
    command.insert fresh found store = (.ok repeated, after) →
    repeated = answer ∧ recorded answer after ∧ rows after = rows store

/-- Either no copy has succeeded and none is recorded, or one answer is recorded
and every success has given it. -/
inductive Settled (rows : σ → ρ) (effect : ρ → ρ → Prop) (recorded : α → σ → Prop)
    (server : Server σ ε α κ ρ) : Prop
  | unrecorded : command.lookup server.store = none →
      (∀ index answer, ¬ server.Answered index (.ok answer)) → server.effects = [] →
      (∀ pending ∈ server.writer, recorded pending.answer pending.after ∧
        rows pending.after ≠ rows server.store ∧
        effect (rows server.store) (rows pending.after)) →
      Settled rows effect recorded server
  | recorded (answer : α) : recorded answer server.store →
      (∀ index other, server.Answered index (.ok other) → other = answer) →
      (∃ before after, server.effects = [(before, after)] ∧ effect before after) →
      (∀ pending ∈ server.writer, pending.answer = answer ∧ recorded answer pending.after ∧
        rows pending.after = rows server.store) →
      Settled rows effect recorded server

/-- Every inspection a copy holds was given by some store. -/
def Genuine (server : Server σ ε α κ ρ) : Prop :=
  ∀ (index : Nat) (found : κ), server.phases[index]? = some (.inspected found) →
    command.Inspected found

/-! ## One step -/

namespace Genuine

variable {command} {server : Server σ ε α κ ρ}

theorem set (genuine : command.Genuine server) {store : σ} {writer : Option (Pending σ α)}
    {effects : List (ρ × ρ)} (index : Nat) {phase : Phase ε α κ}
    (given : ∀ found, phase = .inspected found → command.Inspected found) :
    command.Genuine ⟨store, writer, server.phases.set index phase, effects⟩ := by
  intro other found holds
  rw [List.getElem?_set] at holds
  split at holds
  · split at holds
    · exact given found (Option.some.inj holds)
    · cases holds
  · exact genuine other found holds

theorem step [DecidableEq ρ] {rows : σ → ρ} (genuine : command.Genuine server)
    (input : CopyStep ι) : command.Genuine (command.step rows server input) := by
  cases input with
  | lookup index =>
    simp only [Command.step, Command.lookupStep]
    split
    · split
      · exact genuine.set index fun _ isFound => by cases isFound
      · exact genuine.set index fun _ isFound => by cases isFound
    · exact genuine
  | inspect index =>
    simp only [Command.step, Command.inspectStep]
    split
    · split
      · exact genuine.set index fun _ isFound => by cases isFound
      · next found inspected =>
        refine genuine.set index fun _ isFound => ?_
        cases isFound
        exact ⟨server.store, inspected⟩
    · exact genuine
  | insert index fresh =>
    simp only [Command.step, Command.insertStep]
    split
    · split
      · exact genuine.set index fun _ isFound => by cases isFound
      · exact genuine.set index fun _ isFound => by cases isFound
    · exact genuine
  | commit =>
    simp only [Command.step, Command.commitStep]
    split
    · exact genuine
    · exact genuine.set _ fun _ isFound => by cases isFound

theorem inserting (genuine : command.Genuine server) {input : CopyStep ι} {found : κ}
    (isInserting : found ∈ Command.inserting server input) : command.Inspected found := by
  cases input with
  | insert index fresh =>
    rw [Command.inserting] at isInserting
    split at isInserting
    · next held _ inspected =>
      cases isInserting
      exact genuine index found inspected
    · cases isInserting
  | lookup | inspect | commit => cases isInserting

end Genuine

namespace Settled

variable {command} {rows : σ → ρ} {effect : ρ → ρ → Prop} {safe : κ → σ → Prop}
  {recorded : α → σ → Prop} {server : Server σ ε α κ ρ}

variable {phase : Phase ε α κ}

theorem answered_of_setPhase {index other : Nat} {answer : α}
    (answered : (server.setPhase index phase).Answered other (.ok answer)) :
    server.Answered other (.ok answer) ∨ phase = .answered (.ok answer) := by
  unfold Server.Answered Server.setPhase at answered
  rw [List.getElem?_set] at answered
  split at answered
  · split at answered
    · exact .inr (Option.some.inj answered)
    · cases answered
  · exact .inl answered

theorem setPhase (settled : command.Settled rows effect recorded server) (index : Nat)
    (silent : ∀ answer, phase ≠ .answered (.ok answer)) :
    command.Settled rows effect recorded (server.setPhase index phase) := by
  cases settled with
  | unrecorded missing unanswered noEffect pending =>
    refine .unrecorded missing (fun other answer answered => ?_) noEffect pending
    rcases answered_of_setPhase answered with before | now
    · exact unanswered other answer before
    · exact silent answer now
  | recorded answer holds same once pending =>
    refine .recorded answer holds (fun other given answered => ?_) once pending
    rcases answered_of_setPhase answered with before | now
    · exact same other given before
    · exact absurd now (silent given)

theorem lookupStep (recording : command.Recording rows effect safe recorded)
    (settled : command.Settled rows effect recorded server) (index : Nat) :
    command.Settled rows effect recorded (command.lookupStep server index) := by
  unfold Command.lookupStep
  split
  · cases settled with
    | unrecorded missing unanswered noEffect pending =>
      rw [missing]
      exact setPhase (.unrecorded missing unanswered noEffect pending) index
        fun _ isAnswer => by cases isAnswer
    | recorded answer holds same once pending =>
      rw [recording.found holds]
      refine .recorded answer holds (fun other given answered => ?_) once pending
      rcases answered_of_setPhase answered with before | now
      · exact same other given before
      · cases now
        rfl
  · exact settled

theorem inspectStep (settled : command.Settled rows effect recorded server) (index : Nat) :
    command.Settled rows effect recorded (command.inspectStep server index) := by
  unfold Command.inspectStep
  split
  · split
    · exact settled.setPhase index fun _ isAnswer => by cases isAnswer
    · exact settled.setPhase index fun _ isAnswer => by cases isAnswer
  · exact settled

theorem insertStep (recording : command.Recording rows effect safe recorded)
    (settled : command.Settled rows effect recorded server) (index : Nat) (fresh : ι)
    (allowed : ∀ found ∈ inserting server (.insert index fresh),
      command.Inspected found ∧ safe found server.store) :
    command.Settled rows effect recorded (command.insertStep server index fresh) := by
  unfold Command.insertStep
  unfold inserting at allowed
  split
  · next found free inspected =>
    simp only [free, inspected, Option.mem_some_iff, forall_eq'] at allowed
    split
    · exact settled.setPhase index fun _ isAnswer => by cases isAnswer
    · next answer after inserted =>
      have quiet : command.Settled rows effect recorded (server.setPhase index .writing) :=
        settled.setPhase index fun _ isAnswer => by cases isAnswer
      cases quiet with
      | unrecorded missing unanswered noEffect _ =>
        refine .unrecorded missing unanswered noEffect fun pending isPending => ?_
        cases Option.mem_some_iff.mp isPending
        exact recording.first missing allowed.1 allowed.2 inserted
      | recorded given holds same once _ =>
        refine .recorded given holds same once fun pending isPending => ?_
        cases Option.mem_some_iff.mp isPending
        exact recording.again holds allowed.1 allowed.2 inserted
  · exact settled

theorem commitStep [DecidableEq ρ] (settled : command.Settled rows effect recorded server) :
    command.Settled rows effect recorded (Command.commitStep rows server) := by
  unfold Command.commitStep
  split
  · exact settled
  · next pending isPending =>
    cases settled with
    | unrecorded missing unanswered noEffect written =>
      rcases written pending isPending with ⟨holds, effective, effect⟩
      refine .recorded pending.answer holds (fun other given answered => ?_) ?_
        fun _ none => by cases none
      · rcases answered_of_setPhase answered with before | now
        · exact absurd before (unanswered other given)
        · cases now
          rfl
      · rw [if_neg effective, noEffect]
        exact ⟨_, _, rfl, effect⟩
    | recorded answer holds same once written =>
      rcases written pending isPending with ⟨sameAnswer, stillHolds, noEffect⟩
      refine .recorded answer stillHolds (fun other given answered => ?_) ?_
        fun _ none => by cases none
      · rcases answered_of_setPhase answered with before | now
        · exact same other given before
        · cases now
          exact sameAnswer
      · rw [if_pos noEffect]
        exact once

/-! ## Whole runs -/

theorem step [DecidableEq ρ] (recording : command.Recording rows effect safe recorded)
    (settled : command.Settled rows effect recorded server) (input : CopyStep ι)
    (allowed : ∀ found ∈ inserting server input,
      command.Inspected found ∧ safe found server.store) :
    command.Settled rows effect recorded (command.step rows server input) := by
  cases input with
  | lookup index => exact settled.lookupStep recording index
  | inspect index => exact settled.inspectStep index
  | insert index fresh => exact settled.insertStep recording index fresh allowed
  | commit => exact settled.commitStep

theorem start {store : σ} (missing : command.lookup store = none) (copies : Nat) :
    command.Settled rows effect recorded (.start store copies) := by
  refine .unrecorded missing (fun index answer answered => ?_) rfl fun _ none => by cases none
  have among := List.mem_of_getElem? answered
  cases List.eq_of_mem_replicate among

theorem of_run [DecidableEq ρ] (recording : command.Recording rows effect safe recorded)
    {history : History (CopyStep ι) Unit}
    (run : (command.copiesMachine rows).Run (InsertionGuard safe) server history) :
    command.Settled rows effect recorded server ∧ command.Genuine server := by
  induction run with
  | start isInitial =>
    rcases isInitial with ⟨store, copies, missing, rfl⟩
    refine ⟨start missing copies, fun index found holds => ?_⟩
    cases List.eq_of_mem_replicate (List.mem_of_getElem? holds)
  | next input _ allowed ih =>
    exact ⟨ih.1.step recording input fun found isInserting =>
      ⟨ih.2.inserting isInserting, allowed found isInserting⟩, ih.2.step input⟩

theorem replaySafe [DecidableEq ρ] (recording : command.Recording rows effect safe recorded)
    (settled : command.Settled rows effect recorded server) :
    command.ReplaySafe rows effect server := by
  cases settled with
  | unrecorded _ unanswered =>
    exact
      { same := fun left _ => absurd left (unanswered _ _)
        once := fun answered => absurd answered (unanswered _ _)
        later := fun answered _ => absurd answered (unanswered _ _) }
  | recorded answer holds same once =>
    refine
      { same := fun left right => (same _ _ left).trans (same _ _ right).symm
        once := fun _ => once
        later := fun {index next given} answered unhandled => ?_ }
    rw [same index given answered]
    simp only [Command.step, Command.lookupStep, unhandled, recording.found holds,
      Server.Answered, Server.setPhase]
    exact List.getElem?_set_self (List.getElem?_eq_some_iff.mp unhandled).1

end Settled

variable {command : Command σ ε α κ ι} {rows : σ → ρ} {server : Server σ ε α κ ρ}
  {history : History (CopyStep ι) Unit}

theorem replaySafe_of_run [DecidableEq ρ] {effect : ρ → ρ → Prop} {safe : κ → σ → Prop}
    {recorded : α → σ → Prop} (recording : command.Recording rows effect safe recorded)
    (run : (command.copiesMachine rows).Run (InsertionGuard safe) server history) :
    command.ReplaySafe rows effect server :=
  (Settled.of_run recording run).1.replaySafe recording

theorem missing_of_run [DecidableEq ρ] {guard : Guard (Server σ ε α κ ρ) (CopyStep ι) Unit}
    (run : (command.copiesMachine rows).Run guard server history) :
    ∃ store, command.lookup store = none := by
  induction run with
  | start isInitial =>
    rcases isInitial with ⟨store, _, missing, _⟩
    exact ⟨store, missing⟩
  | next _ _ _ ih => exact ih

end Command

end OhMyClass.Transition
