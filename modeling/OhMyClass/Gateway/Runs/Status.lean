import Mathlib.Logic.Basic

/-!
# The run status machine

`_ALLOWED_TRANSITIONS` and its validator.  A status may always be written over
itself; the three terminal statuses allow nothing else.
-/

namespace OhMyClass.Gateway

inductive RunStatus where
  | pending
  | planning
  | researching
  | generating
  | reviewing
  | awaitingApproval
  | exporting
  | completed
  | failed
  | cancelled
  deriving DecidableEq

namespace RunStatus

/-- The stored text of a status. -/
def value : RunStatus → String
  | pending => "pending"
  | planning => "planning"
  | researching => "researching"
  | generating => "generating"
  | reviewing => "reviewing"
  | awaitingApproval => "awaiting_approval"
  | exporting => "exporting"
  | completed => "completed"
  | failed => "failed"
  | cancelled => "cancelled"

def allowedTransitions : RunStatus → List RunStatus
  | pending => [planning, awaitingApproval, cancelled, failed]
  | planning => [researching, awaitingApproval, cancelled, failed]
  | researching => [generating, cancelled, failed]
  | generating => [reviewing, awaitingApproval, cancelled, failed]
  | reviewing => [awaitingApproval, exporting, cancelled, failed]
  | awaitingApproval => [planning, generating, exporting, cancelled, failed]
  | exporting => [completed, failed, cancelled]
  | completed => []
  | failed => []
  | cancelled => []

def IsTerminal (status : RunStatus) : Prop :=
  status = completed ∨ status = failed ∨ status = cancelled
  deriving Decidable

theorem IsTerminal.ne {status target : RunStatus} (terminal : status.IsTerminal)
    (ongoing : ¬ target.IsTerminal) : status ≠ target := by
  rintro rfl
  exact ongoing terminal

end RunStatus

inductive StatusTransitionResult where
  | accepted (fromStatus toStatus : RunStatus)
  | rejected (fromStatus toStatus : RunStatus) (reason : String)
  deriving DecidableEq

def validateStatusTransition (fromStatus toStatus : RunStatus) : StatusTransitionResult :=
  if fromStatus = toStatus then
    .accepted fromStatus toStatus
  else if toStatus ∈ fromStatus.allowedTransitions then
    .accepted fromStatus toStatus
  else
    .rejected fromStatus toStatus "transition_not_allowed"

theorem validateStatusTransition_of_terminal {fromStatus toStatus : RunStatus}
    (terminal : fromStatus.IsTerminal) (different : fromStatus ≠ toStatus) :
    validateStatusTransition fromStatus toStatus =
      .rejected fromStatus toStatus "transition_not_allowed" := by
  have none : fromStatus.allowedTransitions = [] := by
    rcases terminal with rfl | rfl | rfl <;> rfl
  rw [validateStatusTransition, if_neg different, none, if_neg List.not_mem_nil]

end OhMyClass.Gateway
