import NelomaiClient.RecoveryPolicy
import NelomaiClient.RuntimeRecord
import NelomaiClient.PanelContract

/-!
# Decisions of the core that read no state

The pure functions behind the operations of `ClientCore`: which status ends a
stop, which answer ends an operation, which phase shows a failure, when a
failed start keeps its journal, and how a start request is identified.
-/

namespace NelomaiClient.CorePolicy

open ConnectionContract RecoveryPolicy CoreContract RuntimeRecord PanelContract

def unresolvedStartOperationErrorAfter (retryAfterSeconds : Nat) : CoreError :=
  .api (.rejected "operation_in_progress" "Предыдущее подключение ещё не завершено."
    (some retryAfterSeconds))

def unresolvedStartOperationError : CoreError := unresolvedStartOperationErrorAfter 1

def unresolvedStartOperationRetryError (retryCount : Nat) : CoreError :=
  unresolvedStartOperationErrorAfter (max (RetrySchedule.standard.delaySeconds retryCount) 1)

def invalidOperationReconcileResponse : CoreError :=
  .api (.rejected "invalid_client_api_response"
    "Панель вернула некорректное состояние операции подключения." none)

def stalledStopNotRecyclableError : CoreError :=
  .api (.rejected "connection_stall_not_recyclable"
    "Панель не подтвердила завершение stalled подключения." none)

def compensationStopNotTerminalError : CoreError :=
  .api (.rejected "connection_release_pending"
    "Панель ещё не завершила отменённое подключение." none)

/-- The panel has not finished the connection that a replacement follows. -/
def connectionReleaseFailedError : CoreError :=
  .api (.rejected "connection_release_failed"
    "Панель ещё не завершила предыдущее подключение." none)

def invalidStartResponse (message : String) : CoreError :=
  .api (.rejected "invalid_client_api_response" message none)

def terminalLeaseStatus (status : LeaseStatus) : Bool := status == .released || status == .failed

def compensationStopConfirmsFinished (failureCode : Option String) (acceptWarm : Bool)
    (status : LeaseStatus) : Bool :=
  terminalLeaseStatus status ||
    ((failureCode == none || failureCode == some "tunnel_handshake_timeout") && acceptWarm &&
      status == .warm)

def requireCompensationStopFinished (failureCode : Option String) (acceptWarm : Bool)
    (status : LeaseStatus) : Except CoreError Unit :=
  if compensationStopConfirmsFinished failureCode acceptWarm status then .ok ()
  else .error compensationStopNotTerminalError

def reconcileConfirmsTerminalOrAbsent : Option String → Option LeaseStatus → Bool
  | none, none => true
  | some _, some status => terminalLeaseStatus status
  | _, _ => false

def legacyReplayConfirmsOperationAbsent (code : String) : Bool :=
  ["probe_results_required", "invalid_probe_results", "duplicate_candidate", "stale_probe_result",
    "invalid_probe_result", "invalid_candidate", "candidate_expired",
    "candidate_unavailable"].contains code

def storedConnectionKind (connection : Connection) : StoredConnectionKind :=
  if connection.pinned then .pinned
  else if connection.layer == .tic && connection.ticConnectionMode == .personal then .fixed
  else .dynamicWarm

def storedConnectionAcceptsWarm (connection : Connection) : Bool :=
  storedConnectionKind connection != .fixed

def saturatingAddI64 (a b : Int) : Int := max i64Min (min i64Max (a + b))

def pinnedConnectionRetryAllowed (connection : StoredConnection) (nowUnix : Int) : Bool :=
  match connection.validUntilUnix with
  | none => true
  | some retryNotBefore => decide (retryNotBefore ≤ nowUnix)

def pinnedConnectionOfflineAllowed (connection : StoredConnection) : Bool :=
  connection.validUntilUnix.isNone

def storedMatchesOptions (saved : StoredConnection) (options : ConnectOptions) : Bool :=
  saved.layer == options.layer && saved.ticConnectionMode == options.ticConnectionMode &&
    saved.routeMode == options.routeMode && saved.egressMode == options.egressMode

def reusableOperationId (stored : RuntimeState) (options : ConnectOptions) (nowUnix : Int) :
    Option String :=
  let saved := stored.savedConnection.filter fun saved =>
    storedMatchesOptions saved options &&
      match saved.kind with
      | .pinned => pinnedConnectionRetryAllowed saved nowUnix
      | .fixed => false
      | .dynamicWarm => saved.validUntilUnix.any fun expiry => decide (nowUnix < expiry)
  let pinned := stored.pinnedConnection.filter fun saved =>
    storedMatchesOptions saved options && pinnedConnectionRetryAllowed saved nowUnix
  (saved.or pinned).map (·.leaseId)

def storedFor (stored : RuntimeState) (leaseId : String) : Option StoredConnection :=
  (stored.savedConnection.filter (·.leaseId == leaseId)).or
    (stored.pinnedConnection.filter (·.leaseId == leaseId))

def pendingCompensationRedundantSession (pending : StoredPendingCompensationStop) :
    Except CoreError (Option String) :=
  match pending.recoveryContractVersion, pending.redundantSessionId with
  | none, none => .ok none
  | some 2, some sessionId => if sessionId == "" then .error .storage else .ok (some sessionId)
  | _, _ => .error .storage

def pendingStartMatchesOptions (pending : StoredPendingStart) (options : ConnectOptions) : Bool :=
  pending.layer == options.layer && pending.ticConnectionMode == options.ticConnectionMode &&
    pending.routeMode == options.routeMode && pending.egressMode == options.egressMode &&
    pending.allowAlternate == options.allowAlternate

section Contract

inductive ConnectionStartContract where
  | legacy
  | recoveryV1
  | recoveryV2
  deriving DecidableEq

structure PendingStartContractParts where
  contract : ConnectionStartContract
  recoveryContractVersion : Option Nat
  redundancyContractVersion : Option Nat
  reserveEnabled : Option Bool
  requestFingerprint : Option String

def pendingStartContract (pending : StoredPendingStart) :
    Except CoreError PendingStartContractParts :=
  match pending.recoveryContractVersion, pending.redundancyContractVersion,
      pending.reserveEnabled, pending.requestFingerprint with
  | none, none, none, none => .ok ⟨.legacy, none, none, none, none⟩
  | some 1, none, none, some fingerprint =>
    if fingerprint == "" then .error .storage
    else .ok ⟨.recoveryV1, some 1, none, none, some fingerprint⟩
  | some 2, some 1, some reserveEnabled, some fingerprint =>
    if fingerprint == "" then .error .storage
    else .ok ⟨.recoveryV2, some 2, some 1, some reserveEnabled, some fingerprint⟩
  | _, _, _, _ => .error .storage

def requireMeasuredSelection (contract : ConnectionStartContract) (options : ConnectOptions) :
    Bool :=
  (contract == .recoveryV1 || contract == .recoveryV2) &&
    (options.layer != .tic || options.ticConnectionMode == .dynamic)

def egressName : EgressMode → String
  | .ipv4 => "ipv4"
  | .preferIpv6 => "prefer_ipv6"

def layerName : Layer → String
  | .tic => "tic"
  | .stray => "stray"

def routeName : RouteMode → String
  | .standalone => "standalone"
  | .viaTak => "via_tak"

def ticConnectionModeName : TicConnectionMode → String
  | .personal => "personal"
  | .dynamic => "dynamic"

def jsonBool (b : Bool) : String := if b then "true" else "false"

def canonicalStartV1 (options : ConnectOptions) (measured : Bool) : String :=
  "\x7b\"egress_mode\":\"" ++ egressName options.egressMode ++ "\",\"kind\":\"start\",\"layer\":\"" ++
    layerName options.layer ++ "\",\"require_measured_selection\":" ++ jsonBool measured ++
    ",\"route_mode\":\"" ++ routeName options.routeMode ++ "\",\"tic_connection_mode\":\"" ++
    ticConnectionModeName options.ticConnectionMode ++ "\"\x7d"

def canonicalStartV2 (options : ConnectOptions) (measured reserveEnabled : Bool) : String :=
  "\x7b\"egress_mode\":\"" ++ egressName options.egressMode ++
    "\",\"kind\":\"redundant_start\",\"layer\":\"" ++ layerName options.layer ++
    "\",\"redundancy_contract_version\":1,\"require_measured_selection\":" ++ jsonBool measured ++
    ",\"reserve_enabled\":" ++ jsonBool reserveEnabled ++ ",\"route_mode\":\"" ++
    routeName options.routeMode ++ "\",\"tic_connection_mode\":\"" ++
    ticConnectionModeName options.ticConnectionMode ++ "\"\x7d"

def canonicalStalledStop (leaseId : String) : String :=
  "\x7b\"failure_code\":\"tunnel_data_plane_stalled\",\"kind\":\"stalled_stop\",\"lease_id\":\"" ++
    leaseId ++ "\"\x7d"

/-- What the core takes from other libraries and from its configuration: the
hexadecimal digest of a text, the transport of a tunnel configuration and the
delays of the retry policy. -/
structure CoreParameters where
  sha256Hex : String → String
  transport : String → TunnelTransport
  delaysMillis : List Nat

variable (env : CoreParameters)

def requestFingerprintV1 (options : ConnectOptions) (measured : Bool) : String :=
  env.sha256Hex (canonicalStartV1 options measured)

def requestFingerprintV2 (options : ConnectOptions) (measured reserveEnabled : Bool) : String :=
  env.sha256Hex (canonicalStartV2 options measured reserveEnabled)

def stalledStopRequestFingerprintV1 (leaseId : String) : String :=
  env.sha256Hex (canonicalStalledStop leaseId)

def freshContractParts (contract : ConnectionStartContract) (options : ConnectOptions)
    (reserveEnabled : Bool) : PendingStartContractParts :=
  let measured := requireMeasuredSelection contract options
  match contract with
  | .legacy => ⟨.legacy, none, none, none, none⟩
  | .recoveryV1 => ⟨.recoveryV1, some 1, none, none, some (requestFingerprintV1 env options measured)⟩
  | .recoveryV2 =>
    ⟨.recoveryV2, some 2, some 1, some reserveEnabled,
      some (requestFingerprintV2 env options measured reserveEnabled)⟩

end Contract

def transientStartRejection (code : String) : Bool := code == "configuration_fetch_failed"

def phaseForApiError : CoreApiError → Phase
  | .unauthorized => .signedOut
  | .accessExpired => .accessExpired
  | .retryable => .serverUnavailable
  | .rejected code _ _ => if transientStartRejection code then .serverUnavailable else .error

def phaseForStartError : CoreError → Phase
  | .signedOut | .authenticationOutcomeUnknown | .authRecoveryRequired => .signedOut
  | .api .unauthorized => .signedOut
  | .accessExpired => .accessExpired
  | .api .accessExpired => .accessExpired
  | .updateRequired => .updateRequired
  | .startCancelled => .ready
  | .api .retryable => .serverUnavailable
  | .api (.rejected code _ _) => if transientStartRejection code then .serverUnavailable else .error
  | .savedConnectionUnavailable | .storage | .tunnel _ | .splitTunnel _ => .ready

def rejectionContext (retryAfterSeconds : Option Nat) : RecoveryPolicyContext :=
  { RecoveryPolicyContext.fresh with retryAfterSeconds := retryAfterSeconds }

def startErrorPreservesOperation : CoreError → Bool
  | .startCancelled => true
  | .api .retryable => (classifyRecovery "transport_error" .fresh).preservesOperation
  | .api (.rejected code _ retryAfterSeconds) =>
    (classifyRecovery code (rejectionContext retryAfterSeconds)).preservesOperation
  | _ => false

def structuredRetryDelayMillis : CoreApiError → Option Nat
  | .rejected code _ retryAfterSeconds =>
    match classifyRecovery code (rejectionContext retryAfterSeconds) with
    | .retryAfter delaySeconds => some (min u64Max (delaySeconds * 1000))
    | _ => none
  | _ => none

/-- `redundant_tunnel_start`, without the data it hands to the tunnel: whether
the start is redundant, or why the answer is refused. -/
def redundantTunnelStart (response : ConnectionStartResponse) (requestFingerprint : Option String)
    (reserveEnabled : Option Bool) : Except CoreError Bool :=
  match response.redundancy with
  | none => .ok false
  | some redundancy =>
    if !(requestFingerprint.any fun value => value.utf8ByteSize == 64) then
      .error (invalidStartResponse "Панель вернула резервную сессию без отпечатка операции.")
    else if reserveEnabled.isNone then
      .error (invalidStartResponse "Панель вернула резервную сессию без исходного режима резерва.")
    else if redundancy.state != .disabled && !response.healthProbe then
      .error (invalidStartResponse "Панель не вернула проверку основного подключения.")
    else if redundancy.state == .disabled &&
        (redundancy.standbyDesired || redundancy.standby || response.healthProbe) then
      .error (invalidStartResponse "Панель вернула противоречивую отключённую резервную сессию.")
    else .ok true

def recoverPhase (response : Bootstrap) (status : TunnelStatus) : Phase :=
  if response.updateRequired then .updateRequired
  else if !response.accessActive then .accessExpired
  else if !response.peerBound then .needsPeerBinding
  else
    match status with
    | .running => .connected
    | .starting => .connecting
    | .stopping => .stopping
    | .stopped | .failed => .ready

inductive FailedStartStage where
  | preparation
  | storage
  | local
  deriving DecidableEq

def FailedStartStage.localStartMayBeIncomplete (stage : FailedStartStage) : Bool := stage == .local

end NelomaiClient.CorePolicy
