import NelomaiClient.ConnectionContract

/-!
# Requests and answers of the panel

The messages of the connection endpoints as far as the core reads them, and
what the local tunnel reports.
-/

namespace NelomaiClient.PanelContract

open ConnectionContract

structure ConnectionStartRequest where
  operationId : String
  layer : Layer
  ticConnectionMode : TicConnectionMode
  routeMode : RouteMode
  egressMode : EgressMode
  probes : List ProbeResult
  allowAlternate : Bool
  /-- Whether the selection must rest on measurements. -/
  requireMeasuredSelection : Bool
  recoveryContractVersion : Option Nat
  redundancyContractVersion : Option Nat
  reserveEnabled : Option Bool
  requestFingerprint : Option String

inductive RedundancyState where
  | warming
  | ready
  | degraded
  | disabled
  deriving DecidableEq

structure RedundancySession where
  /-- Whether the panel finishes a cancelled start by itself. -/
  asyncStopV1 : Bool
  sessionId : String
  state : RedundancyState
  standbyDesired : Bool
  /-- Whether the answer carries a standby member. -/
  standby : Bool

structure ConnectionStartResponse where
  connection : Connection
  configuration : String
  /-- Whether the answer carries a health probe of the primary. -/
  healthProbe : Bool
  /-- The redundant session, if one was started. -/
  redundancy : Option RedundancySession

inductive ConnectionOperation where
  | stop
  | pinStray
  | unpinStray
  deriving DecidableEq

structure ConnectionOperationRequest where
  operationId : String
  leaseId : String
  failureCode : Option String

/-- `RedundantStopRequest`; the core always sends contract 2 and neither option. -/
structure RedundantStopRequest where
  operationId : String
  leaseId : String
  sessionId : String

inductive OperationKind where
  | start
  | redundantStart
  | redundantStop
  | stalledStop

inductive OperationState where
  | notFound
  | pending
  | applying
  | compensating
  | applied
  | terminal
  | cancelled

structure OperationReconcileRequest where
  operationId : String
  kind : OperationKind
  contractVersion : Nat
  requestFingerprint : String
  /-- Whether the panel cancels the operation if it does not know it. -/
  cancelIfAbsent : Bool

structure OperationReconcileResponse where
  state : OperationState
  cancelRequested : Bool
  leaseId : Option String
  leaseStatus : Option LeaseStatus
  retryCount : Nat

structure Bootstrap where
  /-- Whether access is active and allows a connection. -/
  accessActive : Bool
  peerBound : Bool
  updateRequired : Bool
  connection : Option Connection

inductive TunnelStatus where
  | stopped
  | starting
  | running
  | stopping
  | failed
  deriving DecidableEq

inductive TunnelTransport where
  | wireGuard
  | amneziaWg3
  deriving DecidableEq

end NelomaiClient.PanelContract
