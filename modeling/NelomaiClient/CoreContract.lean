import NelomaiClient.ConnectionContract

/-!
# Errors, phases and the published state of the client core

What `ClientCore` reports to its callers: the failures of a panel request, the
failures of an operation, and the phase with the connection it is about.
-/

namespace NelomaiClient.CoreContract

open ConnectionContract

inductive CoreApiError where
  | unauthorized
  | accessExpired
  | retryable
  | rejected (code message : String) (retryAfterSeconds : Option Nat)
  deriving DecidableEq

inductive CoreError where
  | authenticationOutcomeUnknown
  | authRecoveryRequired
  | signedOut
  | accessExpired
  | updateRequired
  | savedConnectionUnavailable
  | startCancelled
  | storage
  | api (error : CoreApiError)
  | tunnel (code : String)
  | splitTunnel (code : String)
  deriving DecidableEq

def CoreError.ofApi : CoreApiError → CoreError
  | .unauthorized => .signedOut
  | .accessExpired => .accessExpired
  | .rejected code message retryAfterSeconds =>
    if code = "critical_update_required" then .updateRequired
    else .api (.rejected code message retryAfterSeconds)
  | .retryable => .api .retryable

inductive Phase where
  | signedOut
  | authenticating
  | needsPeerBinding
  | accessExpired
  | ready
  | measuring
  | connecting
  | connected
  | stopping
  | updateRequired
  | serverUnavailable
  | error
  deriving DecidableEq

structure CoreState where
  phase : Phase
  connection : Option Connection
  deriving DecidableEq

def CoreState.initial : CoreState := ⟨.signedOut, none⟩

end NelomaiClient.CoreContract
