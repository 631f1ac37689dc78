import NelomaiClient.ConnectionContract

/-!
# Recovery decisions and the retry schedule

The pure policy half of `connection_intent.rs`: what a failure code asks the
client to do, the fixed retry delays, and the plan for a stalled data plane.
Unsigned 64-bit seconds are natural numbers and Unix times are integers that
saturate at the bounds of the source's `i64`.
-/

namespace NelomaiClient.RecoveryPolicy

open ConnectionContract

def u64Max : Nat := 18446744073709551615

def i64Max : Int := 9223372036854775807

def i64Min : Int := -9223372036854775808

def saturatingAdd (left right : Int) : Int := max i64Min (min i64Max (left + right))

def secondsToI64 (seconds : Nat) : Int := min i64Max (seconds : Int)

inductive RecoveryDecision where
  | accept
  | retrySameOperation
  | retryNewOperation
  | retryAfter (seconds : Nat)
  | retryOnce
  | reconcileThenRetry
  | reconcileOnce
  | restartLocalTunnel
  | terminal
  | discardAndCompensate
  deriving DecidableEq

def RecoveryDecision.preservesOperation : RecoveryDecision → Bool
  | retrySameOperation | retryAfter _ | retryOnce | reconcileThenRetry | reconcileOnce
  | restartLocalTunnel => true
  | accept | retryNewOperation | terminal | discardAndCompensate => false

structure RetrySchedule where
  delaysSeconds : List Nat
  nonempty : delaysSeconds ≠ []

/-- Delay before the retry of this index; past the end the last delay repeats. -/
def RetrySchedule.delaySeconds (schedule : RetrySchedule) (retryIndex : Nat) : Nat :=
  if h : retryIndex < schedule.delaysSeconds.length then schedule.delaysSeconds.get ⟨retryIndex, h⟩
  else schedule.delaysSeconds.getLast schedule.nonempty

def RetrySchedule.standard : RetrySchedule := ⟨[0, 2, 5, 15, 30, 60, 300], by simp⟩

structure RecoveryPolicyContext where
  retryAfterSeconds : Option Nat
  serviceRecoveryAttempted : Bool
  profileReissueAttempted : Bool
  stalledReconcileAttempted : Bool
  deriving DecidableEq

def RecoveryPolicyContext.fresh : RecoveryPolicyContext := ⟨none, false, false, false⟩

def retrySameOperationCodes : List String :=
  ["transport_error", "http_5xx", "connection_unavailable", "candidate_unavailable",
    "configuration_fetch_failed", "binding_sync_failed", "connection_release_pending",
    "connection_release_failed", "connection_stop_failed", "probe_results_required",
    "saved_connection_unavailable", "saved_stray_unavailable",
    "connection_stall_verification_unavailable", "endpoint_route_lost",
    "endpoint_route_unavailable", "physical_network_monitor_unavailable",
    "physical_egress_unavailable", "local_networks_unavailable",
    "installed_applications_unavailable"]

def reconcileThenRetryCodes : List String :=
  ["connection_already_active", "service_timeout", "tunnel_service_timeout",
    "tunnel_start_timeout", "service_stopping", "android_service_dispatch_unavailable"]

def classifyRecovery (code : String) (context : RecoveryPolicyContext) : RecoveryDecision :=
  if code ∈ retrySameOperationCodes then .retrySameOperation
  else if code ∈ ["connection_no_longer_active", "tunnel_handshake_timeout"] then .retryNewOperation
  else if code ∈ ["connection_stall_recycle_rate_limited", "operation_in_progress",
      "device_operation_busy"] then
    .retryAfter (max 1 (min 900 (context.retryAfterSeconds.getD 300)))
  else if code = "service_unavailable" then
    if context.serviceRecoveryAttempted then .terminal else .retryOnce
  else if code ∈ ["amneziawg_profile_mismatch", "awg3_profile_apply_failed",
      "awg3_profile_transform_mismatch"] then
    if context.profileReissueAttempted then .terminal else .retryOnce
  else if code ∈ reconcileThenRetryCodes then .reconcileThenRetry
  else if code = "connection_stall_not_recyclable" then
    if context.stalledReconcileAttempted then .terminal else .reconcileOnce
  else if code ∈ ["udp_rebind_failed", "udp_rebind_timeout"] then .restartLocalTunnel
  else .terminal

inductive RecoveryTransport where
  | amneziaWg3
  | other
  deriving DecidableEq

inductive StallRecoveryPlan where
  | replaceDynamic (failureCode : String) (allowAlternate : Bool)
  | preservePeer
  deriving DecidableEq

def stallRecoveryPlan (options : ConnectOptions) (pinned : Bool)
    (transport : RecoveryTransport) : StallRecoveryPlan :=
  if pinned = false ∧ transport = .amneziaWg3 ∧
      (options.layer ≠ .tic ∨ options.ticConnectionMode ≠ .personal) then
    .replaceDynamic "tunnel_data_plane_stalled" true
  else .preservePeer

end NelomaiClient.RecoveryPolicy
