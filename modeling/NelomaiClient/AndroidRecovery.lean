import Mathlib.Data.List.Basic
import NelomaiClient.CancelTombstones
import NelomaiClient.ConnectionContract

/-!
# The recovery record of the Android service

The record that the service keeps of its connection intent: the intent with its
template and retry state, the lease transaction, the transaction of a redundant
session and the stops that were accepted. A record is written only if
`validateEnvelope` accepts it. Times and counters are the source's 64-bit and
32-bit integers; counters are natural numbers since negative ones are refused.
-/

namespace NelomaiClient.AndroidRecovery

open ConnectionContract
open CancelTombstones (isWhitespace)

def longMax : Nat := 9223372036854775807

def intMax : Nat := 2147483647

def androidRecoveryFormat : Nat := 3

def maxAcceptedStopCleanups : Nat := 8

def checkedIncrement (value : Nat) : Option Nat :=
  if value = longMax then none else some (value + 1)

def saturatingIncrement (value : Nat) : Nat := if value = intMax then value else value + 1

def saturatingAdd (value delay : Int) : Int :=
  if value > longMax - delay then longMax else value + delay

structure AndroidParameters where
  /-- Canonical form of a UUID, if the text is one. -/
  uuid : String → Option String
  /-- SHA-256 of a text, as lower-case hexadecimal digits. -/
  sha256 : String → String

structure AndroidTunnelOptions where
  splitActive : Bool := false
  policyHash : Option String := none
  applicationMode : Option String := none
  excludedPackages : List String := []
  includedPackages : List String := []
  splitTunnelRoutes : List String := []
  excludeLocalNetworks : Bool := false
  dnsServers : List String := []
  dns46DotHostname : Option String := none
  dns46DotEndpointIpv4s : List String := []
  dns46DotExpiresAtUnix : Int := 0
  deriving DecidableEq

structure AndroidIntentTemplate where
  deviceId : String
  accountScope : String
  layer : Layer
  ticConnectionMode : TicConnectionMode
  routeMode : RouteMode
  egressMode : EgressMode
  allowAlternate : Bool
  /-- Binding preferences are sent before a new allocation. -/
  syncBindingPreferences : Bool := false
  options : AndroidTunnelOptions := {}
  /-- Whether a redundant session is asked for, and with a reserve. -/
  reserveEnabled : Option Bool := none
  quickPlanRevision : Option String := none
  deriving DecidableEq

inductive PendingAction where
  | reconcile
  | localRestart
  | validateCapability
  | legacyRuntimeStop
  | newOperationAfterCleanup
  | terminalAfterCleanup
  | initialTerminalReportPending
  | initialTerminalAfterCleanup
  | redundantTotalLossRestart
  deriving DecidableEq

structure AndroidRetryState where
  attempt : Nat := 0
  nextRetryAtUnix : Option Int := none
  scheduledDelaySeconds : Option Int := none
  lastErrorCode : Option String := none
  slowRecoveryNotified : Bool := false
  /-- The one retry after an unavailable service was used. -/
  serviceRecoveryUsed : Bool := false
  /-- The one retry after a profile mismatch was used. -/
  profileRetryUsed : Bool := false
  reconcileOnceUsed : Bool := false
  terminalDiagnosticPending : Bool := false
  pendingAction : Option PendingAction := none
  redundantTotalLossSourceStartOperationId : Option String := none
  deriving DecidableEq

structure AndroidConnectionIntent where
  generation : Nat
  diagnosticsEpisodeId : Nat
  bootCount : Nat
  desiredActive : Bool
  /-- A connection of this intent has been active. -/
  armedHistory : Bool := false
  template : Option AndroidIntentTemplate
  retry : AndroidRetryState
  deriving DecidableEq

def AndroidConnectionIntent.empty (bootCount : Nat) : AndroidConnectionIntent where
  generation := 0
  diagnosticsEpisodeId := 0
  bootCount := bootCount
  desiredActive := false
  template := none
  retry := {}

inductive LeasePhase where
  | startPending
  | leaseAcquired
  | activeCheckpoint
  | cleanupPending
  | staleCleanup
  deriving DecidableEq

def LeasePhase.cleaning : LeasePhase → Bool
  | cleanupPending | staleCleanup => true
  | startPending | leaseAcquired | activeCheckpoint => false

structure AndroidStartReplay where
  startOperationId : String
  contractVersion : Nat
  requestFingerprint : String
  deriving DecidableEq

structure AndroidLeaseTransaction where
  generation : Nat
  bootCount : Nat
  phase : LeasePhase
  leaseId : Option String
  stopOperationId : Option String
  replay : AndroidStartReplay
  localStopPending : Bool := false
  cleanupFailureCode : Option String := none
  deriving DecidableEq

def AndroidLeaseTransaction.startOperationId (transaction : AndroidLeaseTransaction) : String :=
  transaction.replay.startOperationId

inductive RedundantSlot where
  | a
  | b
  deriving DecidableEq

inductive RedundantStopState where
  | none
  | pending
  | acknowledged
  deriving DecidableEq

structure AndroidRedundantRetryState where
  attempt : Nat := 0
  nextRetryAtUnix : Option Int := none
  lastErrorCode : Option String := none
  sessionStalledRecorded : Bool := false
  stopState : RedundantStopState := .none
  roleObservationPending : Bool := false
  pendingRoleLeaseId : Option String := none
  pendingRoleReason : Option String := none
  acquirePending : Bool := false
  acquireOperationId : Option String := none
  acquireReplaceLeaseId : Option String := none
  standbyReleasePending : Bool := false
  pendingNativeSourceLeaseId : Option String := none
  pendingNativeActiveLeaseId : Option String := none
  pendingNativeActiveSlot : Option RedundantSlot := none
  pendingNativeMembershipGeneration : Option Nat := none
  pendingNativeSwitchReason : Option String := none
  pendingNativeSwitchAttempt : Nat := 0
  totalLossRestartReplay : Option AndroidStartReplay := none
  totalLossIntentGeneration : Option Nat := none
  totalLossSourceStartOperationId : Option String := none
  deriving DecidableEq

structure AndroidRedundantTransaction where
  desiredActive : Bool
  template : AndroidIntentTemplate
  sessionId : String
  slotALeaseId : Option String
  slotBLeaseId : Option String
  localActiveLeaseId : Option String
  standbyDesired : Bool
  roleGeneration : Nat
  membershipGeneration : Nat
  startOperationId : String
  startRequestFingerprint : String
  startReserveEnabled : Bool := true
  stopOperationId : Option String := none
  candidateLeaseId : Option String := none
  candidateSlot : Option RedundantSlot := none
  retry : AndroidRedundantRetryState := {}
  /-- The panel accepts stops in the background. -/
  asyncStopSupported : Bool := false
  /-- The stop is cleaned up in the background. -/
  backgroundCleanupOnStop : Bool := false
  warmStopSupported : Bool := false
  retainActivePeerOnStop : Bool := false
  deriving DecidableEq

def AndroidRedundantTransaction.containsCurrentLease (transaction : AndroidRedundantTransaction)
    (leaseId : Option String) : Bool :=
  leaseId.isSome && (leaseId == transaction.slotALeaseId || leaseId == transaction.slotBLeaseId)

/-- `AcceptedStopCleanup`, with the parts of its credential that are checked. -/
structure AcceptedStopCleanup where
  operationId : String
  sessionId : String
  leaseId : String
  startOperationId : String
  intentGeneration : Nat
  accountScope : String
  requestFingerprint : String
  acceptedAtUnix : Int
  credentialDeviceId : String
  credentialPanelBase : String
  credentialToken : String
  deriving DecidableEq

structure AndroidRecoveryEnvelope where
  formatVersion : Nat := androidRecoveryFormat
  intent : AndroidConnectionIntent
  leaseTransaction : Option AndroidLeaseTransaction
  redundantTransaction : Option AndroidRedundantTransaction := none
  acceptedStops : List AcceptedStopCleanup := []
  deriving DecidableEq

def AndroidRecoveryEnvelope.empty (bootCount : Nat) : AndroidRecoveryEnvelope where
  intent := .empty bootCount
  leaseTransaction := none

def AndroidRecoveryEnvelope.isTerminalConnectionIntent (envelope : AndroidRecoveryEnvelope) :
    Bool :=
  envelope.intent.desiredActive && envelope.intent.armedHistory &&
    envelope.intent.retry.lastErrorCode.isSome && envelope.intent.retry.nextRetryAtUnix.isNone &&
    envelope.intent.retry.pendingAction != some .terminalAfterCleanup

section Validation

variable (params : AndroidParameters)
variable (value : String) (intent : AndroidConnectionIntent)

def utf16Length : Nat :=
  value.toList.foldl (fun length c => length + if c.val > 65535 then 2 else 1) 0

def validateSafeValue : Bool :=
  value.toList.any (!isWhitespace ·) && utf16Length value ≤ 512 &&
    !value.toList.contains (Char.ofNat 0)

def safeIfPresent : Option String → Bool
  | none => true
  | some value => validateSafeValue value

def notBlank : Option String → Bool
  | none => false
  | some value => value.toList.any (!isWhitespace ·)

def notNegative : Option Int → Bool
  | none => true
  | some value => value ≥ 0

def validateOptions (options : AndroidTunnelOptions) : Bool :=
  safeIfPresent options.policyHash &&
    (options.applicationMode == none || options.applicationMode == some "exclude_selected" ||
      options.applicationMode == some "include_selected") &&
    options.excludedPackages.length ≤ 512 && options.includedPackages.length ≤ 512 &&
    options.splitTunnelRoutes.length ≤ 16384 && options.dnsServers.length ≤ 4 &&
    (options.excludedPackages ++ options.includedPackages ++ options.splitTunnelRoutes ++
      options.dnsServers).all validateSafeValue

def validateTemplate (template : AndroidIntentTemplate) : Bool :=
  params.uuid template.deviceId == some template.deviceId &&
    validateSafeValue template.accountScope && validateOptions template.options

def isDigest : Bool :=
  value.toList.length == 64 && value.toList.all fun c => c.isDigit || ('a' ≤ c && c ≤ 'f')

def validateAcceptedStop (entry : AcceptedStopCleanup) : Bool :=
  [entry.operationId, entry.sessionId, entry.leaseId, entry.startOperationId, entry.accountScope,
    entry.credentialDeviceId, entry.credentialPanelBase, entry.credentialToken].all
      validateSafeValue &&
    entry.acceptedAtUnix ≥ 0 && isDigest entry.requestFingerprint

def validateRetry (retry : AndroidRetryState) : Bool :=
  notNegative retry.nextRetryAtUnix && notNegative retry.scheduledDelaySeconds &&
    safeIfPresent retry.lastErrorCode &&
    ((retry.pendingAction == some .redundantTotalLossRestart) ==
      retry.redundantTotalLossSourceStartOperationId.isSome) &&
    safeIfPresent retry.redundantTotalLossSourceStartOperationId &&
    (retry.terminalDiagnosticPending == (retry.pendingAction == some .initialTerminalReportPending))

def phaseFields (transaction : AndroidLeaseTransaction) : Bool :=
  match transaction.phase with
  | .startPending => transaction.leaseId.isNone && transaction.stopOperationId.isNone
  | .leaseAcquired | .activeCheckpoint =>
    transaction.leaseId.isSome && transaction.stopOperationId.isNone
  | .cleanupPending => transaction.leaseId.isSome && transaction.stopOperationId.isSome
  | .staleCleanup => true

def validateLease (transaction : AndroidLeaseTransaction) : Bool :=
  transaction.generation > 0 && transaction.generation == intent.generation &&
    (transaction.phase == .staleCleanup || transaction.bootCount == intent.bootCount) &&
    validateSafeValue transaction.replay.startOperationId &&
    transaction.replay.contractVersion > 0 &&
    validateSafeValue transaction.replay.requestFingerprint &&
    safeIfPresent transaction.leaseId && safeIfPresent transaction.stopOperationId &&
    (transaction.cleanupFailureCode == none ||
      transaction.cleanupFailureCode == some "tunnel_data_plane_stalled") &&
    (transaction.cleanupFailureCode.isNone || transaction.phase.cleaning) &&
    (!transaction.localStopPending || transaction.phase.cleaning) && phaseFields transaction

def validateSwitch (transaction : AndroidRedundantTransaction) : Bool :=
  let retry := transaction.retry
  let present := [retry.pendingNativeSourceLeaseId.isSome, retry.pendingNativeActiveLeaseId.isSome,
    retry.pendingNativeActiveSlot.isSome, retry.pendingNativeMembershipGeneration.isSome,
    retry.pendingNativeSwitchReason.isSome]
  (present.all (!·) || present.all id) &&
    match retry.pendingNativeActiveLeaseId with
    | none => retry.pendingNativeSwitchAttempt == 0
    | some target =>
      transaction.desiredActive && retry.stopState == .none &&
        transaction.localActiveLeaseId == retry.pendingNativeSourceLeaseId &&
        retry.pendingNativeSourceLeaseId != some target &&
        transaction.containsCurrentLease retry.pendingNativeSourceLeaseId &&
        transaction.containsCurrentLease (some target) &&
        retry.pendingNativeMembershipGeneration == some transaction.membershipGeneration &&
        (retry.pendingNativeActiveSlot == some .a && transaction.slotALeaseId == some target ||
          retry.pendingNativeActiveSlot == some .b && transaction.slotBLeaseId == some target)

def validateTotalLoss
    (transaction : AndroidRedundantTransaction) : Bool :=
  let retry := transaction.retry
  let present := [retry.totalLossRestartReplay.isSome, retry.totalLossIntentGeneration.isSome,
    retry.totalLossSourceStartOperationId.isSome]
  (present.all (!·) || present.all id) &&
    (retry.sessionStalledRecorded == retry.totalLossRestartReplay.isSome) &&
    match retry.totalLossRestartReplay with
    | none => true
    | some replay =>
      replay.contractVersion > 0 && replay.startOperationId != transaction.startOperationId &&
        retry.totalLossIntentGeneration == some intent.generation &&
        retry.totalLossSourceStartOperationId == some transaction.startOperationId &&
        intent.desiredActive

def validateRedundant
    (transaction : AndroidRedundantTransaction) : Bool :=
  let retry := transaction.retry
  params.uuid transaction.sessionId == some transaction.sessionId &&
    notNegative retry.nextRetryAtUnix && validateTemplate params transaction.template &&
    [transaction.slotALeaseId, transaction.slotBLeaseId, transaction.localActiveLeaseId,
      some transaction.startOperationId, some transaction.startRequestFingerprint,
      transaction.stopOperationId, transaction.candidateLeaseId, retry.lastErrorCode,
      retry.pendingNativeSourceLeaseId, retry.pendingNativeActiveLeaseId,
      retry.pendingNativeSwitchReason, retry.totalLossRestartReplay.map (·.startOperationId),
      retry.totalLossRestartReplay.map (·.requestFingerprint),
      retry.totalLossSourceStartOperationId].all safeIfPresent &&
    (transaction.localActiveLeaseId.isNone ||
      transaction.containsCurrentLease transaction.localActiveLeaseId) &&
    (transaction.candidateLeaseId.isNone == transaction.candidateSlot.isNone) &&
    (retry.stopState == .none ||
      !transaction.desiredActive && notBlank transaction.stopOperationId) &&
    (retry.roleObservationPending ==
      (retry.pendingRoleLeaseId.isSome && retry.pendingRoleReason.isSome)) &&
    (!retry.roleObservationPending || transaction.containsCurrentLease retry.pendingRoleLeaseId) &&
    (retry.acquirePending == retry.acquireOperationId.isSome) &&
    (retry.acquirePending || retry.acquireReplaceLeaseId.isNone) &&
    safeIfPresent retry.acquireOperationId && safeIfPresent retry.acquireReplaceLeaseId &&
    (retry.acquireReplaceLeaseId.isNone ||
      transaction.containsCurrentLease retry.acquireReplaceLeaseId &&
        retry.acquireReplaceLeaseId != transaction.localActiveLeaseId) &&
    validateSwitch transaction && validateTotalLoss intent transaction

def initialTerminalFields (transaction : AndroidLeaseTransaction) : Bool :=
  transaction.phase == .startPending && transaction.leaseId.isNone &&
      transaction.stopOperationId.isNone ||
    transaction.phase.cleaning && notBlank transaction.leaseId &&
      notBlank transaction.stopOperationId

def validateAction (envelope : AndroidRecoveryEnvelope) : Bool :=
  let intent := envelope.intent
  match intent.retry.pendingAction with
  | some .redundantTotalLossRestart =>
    match envelope.leaseTransaction with
    | none => false
    | some transaction =>
      envelope.redundantTransaction.isNone && intent.desiredActive &&
        transaction.phase == .startPending && transaction.leaseId.isNone &&
        transaction.stopOperationId.isNone &&
        intent.retry.redundantTotalLossSourceStartOperationId != some transaction.startOperationId
  | some .terminalAfterCleanup =>
    match envelope.leaseTransaction with
    | none => false
    | some transaction =>
      intent.desiredActive && intent.armedHistory && intent.retry.lastErrorCode.isSome &&
        transaction.phase.cleaning && notBlank transaction.leaseId &&
        notBlank transaction.stopOperationId
  | some .initialTerminalAfterCleanup =>
    match envelope.leaseTransaction with
    | none => false
    | some transaction =>
      !intent.desiredActive && !intent.armedHistory && intent.retry.lastErrorCode.isSome &&
        !intent.retry.terminalDiagnosticPending && initialTerminalFields transaction
  | some .initialTerminalReportPending =>
    match envelope.leaseTransaction with
    | none => false
    | some transaction =>
      !intent.desiredActive && !intent.armedHistory && intent.retry.lastErrorCode.isSome &&
        intent.retry.terminalDiagnosticPending && initialTerminalFields transaction
  | _ => true

def validateEnvelope (envelope : AndroidRecoveryEnvelope) : Bool :=
  envelope.formatVersion == androidRecoveryFormat &&
    envelope.acceptedStops.length ≤ maxAcceptedStopCleanups &&
    decide (envelope.acceptedStops.map fun entry => (entry.operationId, entry.sessionId)).Nodup &&
    envelope.acceptedStops.all validateAcceptedStop && validateRetry envelope.intent.retry &&
    (match envelope.intent.template with
      | none => true
      | some template => validateTemplate params template) &&
    (match envelope.leaseTransaction with
      | none => true
      | some transaction => validateLease envelope.intent transaction) &&
    (match envelope.redundantTransaction with
      | none => true
      | some transaction =>
        envelope.leaseTransaction.isNone && validateRedundant params envelope.intent transaction) &&
    validateAction envelope

end Validation

def layerName : Layer → String
  | .tic => "tic"
  | .stray => "stray"

def ticConnectionModeName : TicConnectionMode → String
  | .personal => "personal"
  | .dynamic => "dynamic"

def routeModeName : RouteMode → String
  | .standalone => "standalone"
  | .viaTak => "via_tak"

def egressModeName : EgressMode → String
  | .ipv4 => "ipv4"
  | .preferIpv6 => "prefer_ipv6"

def flagName (value : Bool) : String := if value then "true" else "false"

def requiresMeasuredCandidateSelection (layer : Layer) (ticConnectionMode : TicConnectionMode)
    (allowAlternate : Bool) : Bool :=
  allowAlternate && (layer != .tic || ticConnectionMode != .personal)

def AndroidIntentTemplate.measured (template : AndroidIntentTemplate) : Bool :=
  requiresMeasuredCandidateSelection template.layer template.ticConnectionMode
    template.allowAlternate

def canonicalStart (template : AndroidIntentTemplate) (requireMeasuredSelection : Bool)
    (reserveEnabled : Option Bool) : String :=
  "\x7b\"egress_mode\":\"" ++ egressModeName template.egressMode ++ "\",\"kind\":\"" ++
    (if reserveEnabled.isNone then "start" else "redundant_start") ++ "\",\"layer\":\"" ++
    layerName template.layer ++ "\"" ++
    (if reserveEnabled.isSome then ",\"redundancy_contract_version\":1" else "") ++
    ",\"require_measured_selection\":" ++ flagName requireMeasuredSelection ++
    (match reserveEnabled with
      | none => ""
      | some value => ",\"reserve_enabled\":" ++ flagName value) ++
    ",\"route_mode\":\"" ++ routeModeName template.routeMode ++ "\",\"tic_connection_mode\":\"" ++
    ticConnectionModeName template.ticConnectionMode ++ "\"\x7d"

def androidConnectionIntentFingerprint (params : AndroidParameters)
    (template : AndroidIntentTemplate) (requireMeasuredSelection : Bool)
    (reserveEnabled : Option Bool) : String :=
  params.sha256 (canonicalStart template requireMeasuredSelection reserveEnabled)

def AndroidIntentTemplate.replay (params : AndroidParameters) (template : AndroidIntentTemplate)
    (startOperationId : String) : AndroidStartReplay where
  startOperationId := startOperationId
  contractVersion := if template.reserveEnabled.isNone then 1 else 2
  requestFingerprint :=
    androidConnectionIntentFingerprint params template template.measured template.reserveEnabled

end NelomaiClient.AndroidRecovery
