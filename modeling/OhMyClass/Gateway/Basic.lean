import Mathlib.Data.Int.Order.Basic

/-!
# Times and identifiers of the gateway

Timestamps are microseconds since the epoch; the code only compares them and
adds durations to them.
-/

namespace OhMyClass.Gateway

section

abbrev DateTime := Int

/-- The computable order of the integers. -/
instance : Preorder DateTime :=
  Int.instLinearOrder.toPartialOrder.toPreorder

abbrev RunId := String

/-- `timedelta(seconds=n)`. -/
def seconds (n : Int) : Int :=
  n * 1000000

/-- `timedelta(days=n)`. -/
def days (n : Int) : Int :=
  seconds (n * 86400)

/-- `text[:n]`, counted in code points. -/
def sliceTo (text : String) (n : Nat) : String :=
  String.ofList (text.toList.take n)

end

/-!
## Domain errors of the gateway

An error carries a machine-readable code, a message and structured details.
-/

section

inductive ErrorCode where
  | validationError
  | pipelineError
  | agentError
  | qualityGateError
  | exportError
  | authenticationError
  | authorizationError
  | notFound
  | rateLimited
  | internalError
  deriving DecidableEq

/-- A field and what is wrong with it. -/
structure ErrorDetail where
  field : String
  reason : String
  deriving DecidableEq

structure OMCError where
  errorCode : ErrorCode
  message : String
  details : List ErrorDetail
  deriving DecidableEq

end

end OhMyClass.Gateway
