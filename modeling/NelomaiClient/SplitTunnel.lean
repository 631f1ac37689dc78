import NelomaiClient.SplitRecord
import NelomaiClient.AwaitFallible

/-!
# The writers of the split-tunnel state

The operations of `ClientCore` that load the split-tunnel half of the record,
wait, and save it, with the gates they hold meanwhile. The published state, the
epoch, the running plan and the tunnel belong to other components: what an
operation reads of them is supplied to it, and warnings leave only their await
points. A restoration keeps what it loaded until it saves, and the machine
remembers that for the statements about it.
-/

namespace NelomaiClient.SplitTunnel

open ConnectionContract CoreContract RuntimeRecord PanelContract CorePolicy SplitRecord
open AwaitProgram AwaitPool AwaitFallible

section Data

inductive SplitTunnelMode where
  | excludeSelected
  | includeSelected
  deriving DecidableEq

inductive TunnelPlatform where
  | android
  | windows
  | linux
  | macos
  | unknown
  deriving DecidableEq

structure TunnelCapabilities where
  platform : TunnelPlatform
  androidApiLevel : Option Nat
  /-- Whether routes can be excluded by address. -/
  addressSplitTunnel : Bool

structure TunnelOptions where
  applicationMode : Option SplitTunnelMode := none
  packageIds : List String := []
  excludedIpv4Cidrs : List String := []
  excludeLocalNetworks : Bool := false
  policyHash : Option String := none
  deriving DecidableEq

def TunnelOptions.hasSameEffectiveRoutes (a b : TunnelOptions) : Bool :=
  a.applicationMode == b.applicationMode && a.packageIds == b.packageIds &&
    a.excludedIpv4Cidrs == b.excludedIpv4Cidrs &&
    a.excludeLocalNetworks == b.excludeLocalNetworks

def physicalNetworkTrackingActive (options : TunnelOptions) : Bool :=
  options.policyHash.isSome && (options.excludeLocalNetworks || !options.excludedIpv4Cidrs.isEmpty)

structure RunningPlan where
  options : TunnelOptions
  available : Bool
  confirmed : Bool

structure SplitTunnelRevision where
  enabled : Bool
  revision : Int
  forceRevision : Int
  addressRevision : Int

inductive PolicyRequest where
  | current
  | settings
  | addRule (value : String)
  | removeRule (ruleId : Int)
  deriving DecidableEq

inductive OwnedRedundantPolicyOutcome where
  | applied
  | unchanged
  | rolledBack
  | failed

inductive DomainResolutionMode where
  | refresh
  | resolveMissing
  | cachedOnly
  deriving DecidableEq

inductive ConnectedPolicyApplyOutcome where
  | unchanged
  | configurationUnavailable
  | appliedWithoutReconnect
  | applied
  | rolledBack
  | stopFailed
  | applyFailed
  | applyBusy
  | failed

def ConnectedPolicyApplyOutcome.errorCode : ConnectedPolicyApplyOutcome → Option String
  | unchanged | appliedWithoutReconnect | applied => none
  | configurationUnavailable => some "split_tunnel_saved_connection_unavailable"
  | rolledBack => some "split_tunnel_apply_failed"
  | stopFailed => some "split_tunnel_stop_failed"
  | applyFailed => some "split_tunnel_apply_failed"
  | applyBusy => some "split_tunnel_apply_busy"
  | failed => some "split_tunnel_rollback_failed"

variable (policy : SplitTunnelPolicy) (state : StoredSplitTunnelState)

/-- `split_tunnel_active`; every layer and route of a policy that is on takes part. -/
def splitTunnelActive (capabilities : TunnelCapabilities) : Bool :=
  policy.enabled &&
    !(capabilities.platform == .android && capabilities.androidApiLevel.any (decide <| · ≤ 32))

def addressRulesActive (capabilities : TunnelCapabilities) : Bool :=
  capabilities.addressSplitTunnel && splitTunnelActive policy capabilities

def policyDomains : List String :=
  (((policy.addressRules.filter (·.kind == .domain)).map (·.value)).insertionSort (· ≤ ·)).dedup

def activeResolutions :
    List StoredSplitTunnelDomainResolution :=
  state.domainResolutions.filter fun resolution => (policyDomains policy).contains resolution.domain

def domainsToResolve
    (mode : DomainResolutionMode) : List String :=
  (policyDomains policy).filter fun domain =>
    mode != .cachedOnly &&
      (mode == .refresh || !(activeResolutions policy state).any (·.domain == domain))

def maxIpv4AddressesPerDomain : ℕ := 64

/-- One lookup that answered addresses replaces what is known of its domain. -/
def insertLookup (nowUnix : Int) (cached : List StoredSplitTunnelDomainResolution) :
    String × Option (List String) → List StoredSplitTunnelDomainResolution
  | (domain, some cidrs) =>
    let cidrs := ((cidrs.insertionSort (· ≤ ·)).dedup).take maxIpv4AddressesPerDomain
    if cidrs.isEmpty then cached
    else ⟨domain, cidrs, nowUnix⟩ :: cached.filter (·.domain ≠ domain)
  | (_, none) => cached

/-- `resolve_policy_domains`: the resolutions after the lookups that ended in time. -/
def resolvePolicyDomains (nowUnix : Int) (lookups : List (String × Option (List String))) :
    List StoredSplitTunnelDomainResolution :=
  (lookups.foldl (insertLookup nowUnix) (activeResolutions policy state)).insertionSort
    (·.domain ≤ ·.domain)

def missingCache
    (resolutions : List StoredSplitTunnelDomainResolution) : Bool :=
  (policyDomains policy).any fun domain => !resolutions.any (·.domain == domain)

def resolvedCidrs
    (resolutions : List StoredSplitTunnelDomainResolution) : List String :=
  (((policyDomains policy).flatMap fun domain =>
    (resolutions.filter (·.domain == domain)).flatMap (·.ipv4Cidrs)).insertionSort (· ≤ ·)).dedup

def clockValid (nowUnix : Int) : Bool :=
  decide (-62167219200 ≤ nowUnix) && decide (nowUnix ≤ 253402300799)

def applyResult (status : SplitTunnelApplyStatus)
    (errorCode : Option String) : SplitTunnelApplyResult :=
  ⟨policy.revision, policy.forceRevision, policy.addressRevision, policy.policyHash, status,
    errorCode⟩

end Data

inductive SplitGate where
  | split
  | connection
  deriving DecidableEq

structure Held where
  thread : ℕ
  value : StoredSplitTunnelState
  cleared : Bool

structure SplitWorld where
  record : RuntimeState
  holder : SplitGate → Option ℕ
  held : List Held

def SplitWorld.fresh (record : RuntimeState) : SplitWorld := ⟨record, fun _ => none, []⟩

inductive StoreCall where
  | load
  | loadForRestoration
  | save (state : StoredSplitTunnelState)
  | saveRestored (state : StoredSplitTunnelState)
  | delete
  | loadRuntime
  | saveRuntime (value : RuntimeState)
  | completeCleanup (frozen : RuntimeCleanupSnapshot)
  | bindEmptyScope (scope : RuntimeAuthScope)
  deriving DecidableEq

@[reducible]
def StoreCall.Result : StoreCall → Type
  | load | loadForRestoration => StoredSplitTunnelState
  | loadRuntime => RuntimeState
  | save _ | saveRestored _ | delete | saveRuntime _ | completeCleanup _ | bindEmptyScope _ => Unit

def StoreCall.run : (f : StoreCall) → Storage f.Result
  | load | loadForRestoration => SplitRecord.load
  | save state | saveRestored state => SplitRecord.save state
  | delete => SplitRecord.delete
  | loadRuntime => Storage.loadRuntime
  | saveRuntime value => Storage.save value
  | completeCleanup frozen => SplitRecord.completeCleanup frozen
  | bindEmptyScope scope => SplitRecord.bindEmptyScope scope

def StoreCall.clears : StoreCall → Bool
  | delete | completeCleanup _ => true
  | _ => false

/-- What the restorations hold after a record function of thread `t` that
turned the state `before` into `after`. -/
def StoreCall.heldAfter (t : ℕ) (before after : StoredSplitTunnelState) (held : List Held) :
    (f : StoreCall) → Except CoreError f.Result → List Held
  | loadForRestoration, .ok state => ⟨t, state, false⟩ :: held.filter (·.thread ≠ t)
  | saveRestored _, _ => held.filter (·.thread ≠ t)
  | f, _ =>
    if f.clears ∧ after ≠ before then held.map fun entry => { entry with cleared := true }
    else held

def StoreCall.perform (t : ℕ) (outcomes : List StoreOutcome) (w : SplitWorld) (f : StoreCall) :
    Except CoreError f.Result × SplitWorld :=
  let (r, d) := f.run ⟨w.record, outcomes, false⟩
  (r, { w with
    record := d.record
    held := f.heldAfter t w.record.appliedSplitTunnel d.record.appliedSplitTunnel w.held r })

inductive Question where
  | access
  | refreshAccess
  | retireConfirmation
  | ensureStartNotCancelled
  | publishState
  | ensureOfflineStartCurrent
  | revision
  | policy (request : PolicyRequest)
  | validate (policy : SplitTunnelPolicy)
  | normalizeAddressRule (value : String)
  | reportApplyResult (result : SplitTunnelApplyResult)
  | capabilities
  | lookups (domains : List String)
  | effectiveOptions (policy : SplitTunnelPolicy) (layer : Layer) (routeMode : RouteMode)
      (resolved : List String)
  | connectedConnection
  | stillCurrent (connection : Connection)
  | ownsRedundantSession
  | runningPlan (leaseId : String)
  | applyOwnedPolicy (options : TunnelOptions)
  | tunnelStatus
  | stopForRestart
  | startForRestart (options : TunnelOptions)
  | physicalNetworkFingerprint
  deriving DecidableEq

@[reducible]
def Question.Resp : Question → Type
  | access | refreshAccess | retireConfirmation | ensureStartNotCancelled | publishState
  | ensureOfflineStartCurrent => Except CoreError Unit
  | revision => Except CoreApiError SplitTunnelRevision
  | policy _ => Except CoreApiError SplitTunnelPolicy
  | validate _ => Except String Unit
  | normalizeAddressRule _ => Except String String
  | reportApplyResult _ => Except CoreApiError Unit
  | capabilities => Except String TunnelCapabilities
  | lookups _ => List (String × Option (List String))
  | effectiveOptions _ _ _ _ => Except String TunnelOptions
  | connectedConnection => Option Connection
  | stillCurrent _ => Except CoreError Bool
  | ownsRedundantSession => Except String Bool
  | runningPlan _ => RunningPlan
  | applyOwnedPolicy _ => Except String OwnedRedundantPolicyOutcome
  | tunnelStatus => Except String TunnelStatus
  | stopForRestart | startForRestart _ => Except String Unit
  | physicalNetworkFingerprint => Except String (Option String)

inductive Cmd where
  | question (q : Question)
  | store (f : StoreCall)
  | acquire (gate : SplitGate)
  | release (gate : SplitGate)
  deriving DecidableEq

@[reducible]
def Cmd.Resp : Cmd → Type
  | question q => q.Resp
  | store f => Except CoreError f.Result
  | acquire _ | release _ => Unit

inductive Input where
  | go
  | answer (q : Question) (a : q.Resp)
  | store (outcomes : List StoreOutcome)

def Question.answer (q : Question) : Input → Option q.Resp
  | .answer q' a => if h : q' = q then some (h ▸ a) else none
  | _ => none

def sem (c : Cmd) (t : ℕ) (i : Input) (w : SplitWorld) : Option (c.Resp × SplitWorld) :=
  match c with
  | .question q => (q.answer i).map fun a => (a, w)
  | .store f =>
    match i with
    | .store outcomes => some (f.perform t outcomes w)
    | _ => none
  | .acquire gate =>
    if w.holder gate = none then
      some ((), { w with holder := Function.update w.holder gate (some t) })
    else none
  | .release gate => some ((), { w with holder := Function.update w.holder gate none })

abbrev split : Machine := ⟨SplitWorld, Cmd, Cmd.Resp, Input, sem⟩

abbrev Split (α : Type) : Type 1 := Fallible split CoreError α

abbrev Updating (α : Type) : Type 1 := Local split CoreError StoredSplitTunnelState α

def inquire (q : Question) : Split q.Resp := surely (Prog.ask (M := split) (.question q))

def consult (q : Question) : Split q.Resp := surely (Prog.call (M := split) (.question q))

def stored (f : StoreCall) : Split f.Result := attempt (Prog.call (M := split) (.store f))

def pause : Split Unit := surely Prog.pause

def tunnelFailure {α : Type} : Except String α → Except CoreError α
  | .ok a => .ok a
  | .error code => .error (.tunnel code)

def apiFailure {α : Type} : Except CoreApiError α → Except CoreError α
  | .ok a => .ok a
  | .error error => .error (.ofApi error)

def policyFailure {α : Type} : Except String α → Except CoreError α
  | .ok a => .ok a
  | .error code => .error (.splitTunnel code)

def withSplitGate {α : Type} (x : Split α) : Split α := ExceptT.mk do
  Prog.ask (M := split) (.acquire .split)
  let r ← x.run
  Prog.call (M := split) (.release .split)
  return r

def withConnectionGate {α : Type} (x : Updating α) : Updating α := ExceptT.mk fun state => do
  Prog.ask (M := split) (.acquire .connection)
  let r ← x.run.run state
  Prog.call (M := split) (.release .connection)
  return r

/-- A panel request that is repeated once after a refresh of the access token. -/
def refreshing {α : Type} (ask : Split (Except CoreApiError α)) : Split α := do
  let first ← ask
  match first with
  | .error .unauthorized => do
    let refreshed ← inquire .refreshAccess
    decided refreshed
    let second ← ask
    decided (apiFailure second)
  | _ => decided (apiFailure first)

def accessSnapshot : Split Unit := do
  let _ ← stored .loadRuntime
  let answer ← inquire .access
  decided answer

def requestSplitTunnelRevision : Split SplitTunnelRevision := refreshing (inquire .revision)

def requestSplitTunnelPolicy : Split SplitTunnelPolicy := refreshing (inquire (.policy .current))

def requestSplitTunnelSettings : Split SplitTunnelPolicy := refreshing (inquire (.policy .settings))

def requestAddSplitTunnelAddressRule (value : String) : Split SplitTunnelPolicy :=
  refreshing (inquire (.policy (.addRule value)))

def requestRemoveSplitTunnelAddressRule (ruleId : Int) : Split SplitTunnelPolicy :=
  refreshing (inquire (.policy (.removeRule ruleId)))

def sendApplyResult (result : SplitTunnelApplyResult) : Split Unit :=
  refreshing (inquire (.reportApplyResult result))

def reportOrQueueApplyResult (result : SplitTunnelApplyResult) : Updating Unit := do
  let sent ← Local.lift (outcome (sendApplyResult result))
  match sent with
  | .ok () => pure ()
  | .error _ => do
    let state ← get
    set { state with pendingApplyResults := state.pendingApplyResults ++ [result] }

def flushResults : List SplitTunnelApplyResult → Updating Unit
  | [] => pure ()
  | result :: rest => do
    reportOrQueueApplyResult result
    flushResults rest

def flushPendingApplyResults : Updating Unit := do
  let state ← get
  set { state with pendingApplyResults := [] }
  flushResults state.pendingApplyResults

def saveState : Updating Unit := do
  let state ← get
  Local.lift (stored (.save state))

def trySaveState : Updating Unit := do
  let state ← get
  let _ ← Local.lift (outcome (stored (.save state)))
  Local.lift pause

def updateState (change : StoredSplitTunnelState → StoredSplitTunnelState) : Updating Unit := do
  let state ← get
  set (change state)

def requireClock (nowUnix : Int) : Split Unit :=
  require (clockValid nowUnix) (.splitTunnel "split_tunnel_invalid_clock")

section Options
variable (policy : SplitTunnelPolicy) (layer : Layer)
variable (routeMode : RouteMode) (nowUnix : Int)

def effectiveOptions
    (resolved : List String) : Split TunnelOptions := do
  let options ← consult (.effectiveOptions policy layer routeMode resolved)
  decided (policyFailure options)

def effectiveTunnelOptionsWithState (mode : DomainResolutionMode) :
    Updating TunnelOptions := do
  let answer ← Local.lift (inquire .capabilities)
  let capabilities ← Local.lift (decided (tunnelFailure answer))
  if addressRulesActive policy capabilities then do
    let state ← get
    let lookups ← Local.lift (inquire (.lookups (domainsToResolve policy state mode)))
    let resolutions := resolvePolicyDomains policy state nowUnix lookups
    set { state with domainResolutions := resolutions }
    Local.lift pause
    if missingCache policy resolutions then
      throw (.splitTunnel "split_tunnel_domain_resolution_unavailable")
    else Local.lift (effectiveOptions policy layer routeMode (resolvedCidrs policy resolutions))
  else do
    updateState fun state => { state with domainResolutions := [] }
    Local.lift pause
    Local.lift (effectiveOptions policy layer routeMode [])

/-- The middle of `effective_tunnel_options`: the plan and the state it leaves. -/
def planFromState (refreshDomains : Bool) (state : StoredSplitTunnelState) :
    Split (Except CoreError TunnelOptions × StoredSplitTunnelState) :=
  Local.observe state (effectiveTunnelOptionsWithState policy layer routeMode nowUnix
    (if refreshDomains then .refresh else .resolveMissing))

def effectiveTunnelOptions (refreshDomains : Bool) : Split TunnelOptions := do
  let state ← stored .load
  let (result, state) ← planFromState policy layer routeMode nowUnix refreshDomains state
  let _ ← outcome (stored (.save state))
  pause
  decided result

def effectiveTunnelOptionsForRestoration : Split TunnelOptions := do
  let state ← stored .loadForRestoration
  let (result, state) ← planFromState policy layer routeMode nowUnix false state
  let _ ← outcome (stored (.saveRestored state))
  pause
  decided result

def fallbackTunnelOptions : Split TunnelOptions := do
  let answer ← inquire .capabilities
  let capabilities ← decided (tunnelFailure answer)
  pause
  return { excludeLocalNetworks := capabilities.platform == .windows }

/-- `restore_running_split_tunnel_options`: the published state and the running
plan decide whether it goes on, and what follows the plan changes no record. -/
def restoreRunningSplitTunnelOptions (connection : Connection) (nowUnix : Int) : Split Unit := do
  let current ← inquire (.stillCurrent connection)
  let current ← decided current
  if current then do
    let state ← stored .load
    let _ ← inquire .capabilities
    let _ ← outcome (match workingPolicy state with
      | some policy => effectiveTunnelOptionsForRestoration policy connection.layer
          connection.routeMode nowUnix
      | none => fallbackTunnelOptions)
    pause
  else pure ()

def validPolicy : Option SplitTunnelPolicy → Split (Option SplitTunnelPolicy)
  | none => pure none
  | some policy => do
    let verdict ← consult (.validate policy)
    match verdict with
    | .ok () => pure (some policy)
    | .error _ => pure none

def orElsePolicy (first : Option SplitTunnelPolicy) (second : Split (Option SplitTunnelPolicy)) :
    Split (Option SplitTunnelPolicy) :=
  match first with
  | some policy => pure (some policy)
  | none => second

def failedCachedPolicy (state : StoredSplitTunnelState) : Bool :=
  state.cachedPolicy.any fun policy => state.failedPolicyHash == some policy.policyHash

def cachedPolicyForStart : Split (Option SplitTunnelPolicy) := do
  let state ← stored .load
  let usable ← validPolicy (if failedCachedPolicy state then
    (workingPolicy state).or state.previousWorkingPolicy else none)
  orElsePolicy usable do
    let cached ← validPolicy state.cachedPolicy
    orElsePolicy cached (validPolicy state.previousWorkingPolicy)

end Options

section Apply

structure ApplyCall where
  policy : SplitTunnelPolicy
  connection : Connection
  configuration : Option String
  nowUnix : Int
  mode : DomainResolutionMode

structure Plan where
  options : TunnelOptions
  resolutions : List StoredSplitTunnelDomainResolution

variable (call : ApplyCall) (next : Plan)

def markFailed : Updating Unit :=
  updateState fun state => markPolicyFailure state call.policy call.nowUnix

def confirmPolicy (plan : Plan) (state : StoredSplitTunnelState) :
    StoredSplitTunnelState :=
  clearPolicyFailure
    { state with
      domainResolutions := plan.resolutions, workingPolicyHash := some call.policy.policyHash }

def reportResult (status : SplitTunnelApplyStatus)
    (errorCode : Option String) : Updating Unit := do
  Local.lift (requireClock call.nowUnix)
  reportOrQueueApplyResult (applyResult call.policy status errorCode)

def reportPolicyApplyOutcome (status : SplitTunnelApplyStatus)
    (errorCode : Option String) : Updating Unit := do
  Local.lift (requireClock call.nowUnix)
  trySaveState
  reportOrQueueApplyResult (applyResult call.policy status errorCode)

/-- A plan for a policy on a copy of the state; a failure of the policy gives none. -/
def planOnCopy (policy : SplitTunnelPolicy) (mode : DomainResolutionMode) :
    Updating (Option Plan) := do
  let state ← get
  let (result, copy) ← Local.lift (Local.observe state (effectiveTunnelOptionsWithState policy
    call.connection.layer call.connection.routeMode call.nowUnix mode))
  match result with
  | .ok options => pure (some ⟨options, copy.domainResolutions⟩)
  | .error (.splitTunnel _) => do
    Local.lift pause
    markFailed call
    pure none
  | .error error => throw error

def rollbackMode : DomainResolutionMode → DomainResolutionMode
  | .cachedOnly => .cachedOnly
  | _ => .resolveMissing

def rollbackPlan (nativeOwned : Bool) (running : RunningPlan) :
    Updating (Option Plan) := do
  let state ← get
  let options := if running.available then running.options else {}
  match (if !nativeOwned && !running.available then workingPolicy state else none) with
  | some policy => planOnCopy call policy (rollbackMode call.mode)
  | none => pure (some ⟨options, state.domainResolutions⟩)

def initializePhysicalNetworkDetector (options : TunnelOptions) : Split (Option String) := do
  pause
  if physicalNetworkTrackingActive options then do
    let answer ← inquire .physicalNetworkFingerprint
    match answer with
    | .ok fingerprint => pure fingerprint
    | .error _ => pure none
  else pure none

def applyWithoutReconnect :
    Updating ConnectedPolicyApplyOutcome := do
  updateState (confirmPolicy call next)
  trySaveState
  Local.lift pause
  reportResult call .applied none
  return .appliedWithoutReconnect

def ownedPolicyBusy (code : String) : Bool :=
  code == "redundant_policy_busy" || code == "tunnel_operation_in_progress"

def demand (q : Question) (h : q.Resp = Except CoreError Unit) : Split Unit := do
  let answer ← inquire q
  decided (h ▸ answer)

def ensureStartNotCancelled : Split Unit := do
  let answer ← consult .ensureStartNotCancelled
  decided answer

def ownedAnswered (next previous : Plan) :
    OwnedRedundantPolicyOutcome → Updating (ConnectedPolicyApplyOutcome × SplitTunnelApplyStatus)
  | .applied => do
    updateState fun state =>
      { confirmPolicy call next state with appliedPhysicalNetworkFingerprint := none }
    Local.lift pause
    pure (.applied, .applied)
  | .unchanged => do
    updateState fun state =>
      { confirmPolicy call next state with appliedPhysicalNetworkFingerprint := none }
    Local.lift pause
    pure (.appliedWithoutReconnect, .applied)
  | .rolledBack => do
    updateState fun state => { state with domainResolutions := previous.resolutions }
    markFailed call
    pure (.rolledBack, .rolledBack)
  | .failed => do
    updateState fun state => { state with appliedPhysicalNetworkFingerprint := none }
    markFailed call
    pure (.failed, .failed)

def applyOwnedPolicy (next previous : Plan) :
    Updating ConnectedPolicyApplyOutcome := do
  Local.lift (demand .retireConfirmation rfl)
  let result ← Local.lift (inquire (.applyOwnedPolicy next.options))
  Local.lift ensureStartNotCancelled
  match result with
  | .ok answer => do
    Local.lift (demand .publishState rfl)
    let (outcome, status) ← ownedAnswered call next previous answer
    Local.lift pause
    reportPolicyApplyOutcome call status outcome.errorCode
    pure outcome
  | .error code => do
    let _ ← Local.lift (inquire .tunnelStatus)
    Local.lift (demand .publishState rfl)
    if ownedPolicyBusy code then do
      updateState fun state =>
        { state with workingPolicyHash := none, appliedPhysicalNetworkFingerprint := none }
      Local.lift pause
      pure .applyBusy
    else do
      markFailed call
      Local.lift pause
      reportPolicyApplyOutcome call .failed ConnectedPolicyApplyOutcome.applyFailed.errorCode
      pure .applyFailed

def ownedUnscoped : Updating ConnectedPolicyApplyOutcome := do
  markFailed call
  Local.lift pause
  reportPolicyApplyOutcome call .failed (some "split_tunnel_saved_connection_unavailable")
  return .configurationUnavailable

def restartApplied : Updating ConnectedPolicyApplyOutcome := do
  Local.lift pause
  let fingerprint ← Local.lift (initializePhysicalNetworkDetector next.options)
  updateState fun state =>
    { confirmPolicy call next state with appliedPhysicalNetworkFingerprint := fingerprint }
  Local.lift pause
  Local.lift (demand .publishState rfl)
  reportPolicyApplyOutcome call .applied none
  return .applied

def restartRolledBack (previous : Plan) :
    Updating ConnectedPolicyApplyOutcome := do
  Local.lift ensureStartNotCancelled
  let rollback ← Local.lift (inquire (.startForRestart previous.options))
  Local.lift (demand .ensureOfflineStartCurrent rfl)
  match rollback with
  | .ok () => do
    updateState fun state => { state with domainResolutions := previous.resolutions }
    markFailed call
    let fingerprint ← Local.lift (initializePhysicalNetworkDetector previous.options)
    updateState fun state => { state with appliedPhysicalNetworkFingerprint := fingerprint }
    Local.lift (demand .publishState rfl)
    Local.lift pause
    reportPolicyApplyOutcome call .rolledBack (some "split_tunnel_apply_failed")
    pure .rolledBack
  | .error _ => do
    markFailed call
    Local.lift pause
    updateState fun state => { state with appliedPhysicalNetworkFingerprint := none }
    Local.lift (demand .publishState rfl)
    Local.lift pause
    reportPolicyApplyOutcome call .failed (some "split_tunnel_rollback_failed")
    pure .failed

def restartStopFailed : Updating ConnectedPolicyApplyOutcome := do
  markFailed call
  let _ ← Local.lift (inquire .tunnelStatus)
  Local.lift (demand .publishState rfl)
  Local.lift pause
  Local.lift (requireClock call.nowUnix)
  trySaveState
  reportOrQueueApplyResult (applyResult call.policy .failed (some "split_tunnel_stop_failed"))
  return .stopFailed

def restartTunnel (next previous : Plan) :
    Updating ConnectedPolicyApplyOutcome := do
  Local.lift (demand .retireConfirmation rfl)
  let stopped ← Local.lift (inquire .stopForRestart)
  match stopped with
  | .error _ => restartStopFailed call
  | .ok () => do
    Local.lift (demand .ensureStartNotCancelled rfl)
    let started ← Local.lift (inquire (.startForRestart next.options))
    Local.lift (demand .ensureOfflineStartCurrent rfl)
    match started with
    | .ok () => restartApplied call next
    | .error _ => restartRolledBack call previous

def configurationUnavailable : Updating ConnectedPolicyApplyOutcome := do
  markFailed call
  Local.lift pause
  reportResult call .failed (some "split_tunnel_saved_connection_unavailable")
  return .configurationUnavailable

def applyLegacyPolicy (next previous : Plan) :
    Updating ConnectedPolicyApplyOutcome := do
  let answer ← Local.lift (inquire .ownsRedundantSession)
  let owned ← Local.lift (decided (tunnelFailure answer))
  if owned then throw .startCancelled
  else if call.configuration.isNone then configurationUnavailable call
  else restartTunnel call next previous

def applyHoldingGate (nativeOwned inactiveAndroid : Bool)
    (running : RunningPlan) (next previous : Plan) : Updating ConnectedPolicyApplyOutcome := do
  let answer ← Local.lift (inquire (.stillCurrent call.connection))
  let current ← Local.lift (decided answer)
  if !current then pure .unchanged
  else if !nativeOwned && next.options.hasSameEffectiveRoutes previous.options &&
      (running.confirmed || inactiveAndroid) then applyWithoutReconnect call next
  else if !nativeOwned && previous.options.policyHash.isNone &&
      previous.options.excludeLocalNetworks then do
    Local.lift pause
    pure .unchanged
  else if nativeOwned then
    if call.connection.sessionId.isSome then applyOwnedPolicy call next previous
    else ownedUnscoped call
  else applyLegacyPolicy call next previous

def inactiveAndroidSplit : Split Bool :=
  if next.options.hasSameEffectiveRoutes {} then do
    let answer ← inquire .capabilities
    let capabilities ← decided (tunnelFailure answer)
    pure (capabilities.platform == .android && capabilities.androidApiLevel.any (decide <| · ≤ 32))
  else pure false

def nativeOwner (connection : Connection) : Split Bool :=
  if connection.sessionId.isSome then pure true
  else do
    let answer ← inquire .ownsRedundantSession
    decided (tunnelFailure answer)

def applyPlans : Updating ConnectedPolicyApplyOutcome := do
  let nativeOwned ← Local.lift (nativeOwner call.connection)
  let running ← Local.lift (inquire (.runningPlan call.connection.leaseId))
  let previous ← rollbackPlan call nativeOwned running
  match previous with
  | none => pure .unchanged
  | some previous => do
    let inactiveAndroid ← Local.lift (inactiveAndroidSplit next)
    withConnectionGate (applyHoldingGate call nativeOwned inactiveAndroid running next previous)

def configurationFor (record : RuntimeState) (leaseId : String) : Option String :=
  ((record.savedConnection.toList ++ record.pinnedConnection.toList).find?
    fun saved => saved.leaseId == leaseId).map (·.configuration)

def applyPolicyIfConnected (policy : SplitTunnelPolicy) (nowUnix : Int)
    (mode : DomainResolutionMode) : Updating ConnectedPolicyApplyOutcome := do
  let current ← Local.lift (inquire .connectedConnection)
  match current with
  | none => pure .unchanged
  | some connection => do
    let record ← Local.lift (stored .loadRuntime)
    let call : ApplyCall :=
      ⟨policy, connection, configurationFor record connection.leaseId, nowUnix, mode⟩
    let next ← planOnCopy call policy mode
    match next with
    | none => pure .unchanged
    | some next => applyPlans call next

end Apply

def withLoaded {α : Type} (x : Updating α) : Split α := do
  let state ← stored .load
  Local.forget state x

def resetSplitTunnelState : Split Unit :=
  withSplitGate do
    stored .delete
    pause

def revisionCheckRecent (state : StoredSplitTunnelState) (nowUnix : Int) : Bool :=
  state.lastRevisionCheckUnix.any fun last => decide (saturatingAddI64 nowUnix (-last) < revisionPollSeconds)

def fullSyncDue (state : StoredSplitTunnelState) (revision : SplitTunnelRevision) (nowUnix : Int)
    (forceFull : Bool) : Bool :=
  forceFull || state.cachedPolicy.isNone ||
    state.lastFullSyncUnix.all (fun last => decide (fullSyncSeconds ≤ saturatingAddI64 nowUnix (-last))) ||
    state.cachedPolicy.any (fun policy =>
      policy.revision != revision.revision || policy.enabled != revision.enabled) ||
    decide (state.lastSeenForceRevision < revision.forceRevision) ||
    revision.addressRevision != state.lastSeenAddressRevision

/-- A request that a retryable failure turns into a synchronisation from the cache. -/
def orCachedOffline {α : Type} (ask : Split α) : Updating (Option α) := do
  let answer ← Local.lift (outcome ask)
  match answer with
  | .ok a => pure (some a)
  | .error (.api .retryable) => pure none
  | .error error => throw error

/-- The revisions did not change; a policy that waits for its retry is applied. -/
def synchronizeUnchanged (revision : SplitTunnelRevision) (nowUnix : Int) : Updating Unit := do
  updateState fun state =>
    { state with
      lastSeenForceRevision := revision.forceRevision
      lastSeenAddressRevision := revision.addressRevision }
  let connected ← Local.lift (inquire .connectedConnection)
  let state ← get
  match state.cachedPolicy.filter (fun policy => connected.isSome &&
      state.workingPolicyHash != some policy.policyHash &&
      policyRetryDue state policy nowUnix) with
  | some policy => do
    let _ ← applyPolicyIfConnected policy nowUnix .refresh
    saveState
  | none => do
    saveState
    Local.lift pause

def adoptPolicy (policy : SplitTunnelPolicy) (nowUnix : Int) (state : StoredSplitTunnelState) :
    StoredSplitTunnelState :=
  { clearStalePolicyFailure (rememberPreviousWorkingPolicy state) policy with
    cachedPolicy := some policy, lastFullSyncUnix := some nowUnix }

def policyChanged (state : StoredSplitTunnelState) (policy : SplitTunnelPolicy) : Bool :=
  state.cachedPolicy.all fun cached => cached.policyHash != policy.policyHash

def synchronizePolicy (revision : SplitTunnelRevision) (policy : SplitTunnelPolicy)
    (nowUnix : Int) (forceFull : Bool) : Updating Unit := do
  let before ← get
  updateState fun state =>
    { adoptPolicy policy nowUnix state with
      lastSeenForceRevision := revision.forceRevision
      lastSeenAddressRevision := revision.addressRevision }
  saveState
  Local.lift pause
  let state ← get
  if forceFull || policyChanged before policy ||
      state.workingPolicyHash != some policy.policyHash ||
      policy.addressRules.any (·.kind == .domain) then do
    let _ ← applyPolicyIfConnected policy nowUnix .refresh
    saveState
  else saveState

def synchronizeFull (revision : SplitTunnelRevision) (nowUnix : Int) (forceFull : Bool) :
    Updating Unit := do
  let answer ← orCachedOffline requestSplitTunnelPolicy
  match answer with
  | none => do
    saveState
    Local.lift pause
  | some policy => do
    let verdict ← Local.lift (consult (.validate policy))
    match verdict with
    | .error _ => do
      saveState
      Local.lift pause
    | .ok () => synchronizePolicy revision policy nowUnix forceFull

def synchronizeHoldingGate (nowUnix : Int) (forceFull : Bool) : Updating Unit := do
  let state ← get
  if !forceFull && revisionCheckRecent state nowUnix then pure ()
  else do
    Local.lift accessSnapshot
    flushPendingApplyResults
    let answer ← orCachedOffline requestSplitTunnelRevision
    updateState fun state => { state with lastRevisionCheckUnix := some nowUnix }
    let state ← get
    match answer with
    | none => do
      saveState
      Local.lift pause
    | some revision =>
      if fullSyncDue state revision nowUnix forceFull then
        synchronizeFull revision nowUnix forceFull
      else synchronizeUnchanged revision nowUnix

def synchronizeSplitTunnel (nowUnix : Int) (forceFull : Bool) : Split Unit :=
  withSplitGate (withLoaded (synchronizeHoldingGate nowUnix forceFull))

def adoptChangedPolicy (policy : SplitTunnelPolicy) (nowUnix : Int)
    (state : StoredSplitTunnelState) : StoredSplitTunnelState :=
  { adoptPolicy policy nowUnix state with
    lastRevisionCheckUnix := some nowUnix, lastSeenForceRevision := policy.forceRevision
    lastSeenAddressRevision := policy.addressRevision }

def storeChangedPolicy (policy : SplitTunnelPolicy) (nowUnix : Int) : Updating Unit := do
  let verdict ← Local.lift (consult (.validate policy))
  Local.lift (decided (policyFailure verdict))
  updateState (adoptChangedPolicy policy nowUnix)
  saveState

/-- Apply a policy, save, and fail with the code of a failed application. -/
def applyAndSave (policy : SplitTunnelPolicy) (nowUnix : Int) (mode : DomainResolutionMode) :
    Updating Unit := do
  let outcome ← applyPolicyIfConnected policy nowUnix mode
  saveState
  match outcome.errorCode with
  | some code => throw (.splitTunnel code)
  | none => pure ()

def saveSettingsHoldingGate (nowUnix : Int) : Updating Unit := do
  Local.lift accessSnapshot
  flushPendingApplyResults
  let policy ← Local.lift requestSplitTunnelSettings
  let before ← get
  storeChangedPolicy policy nowUnix
  Local.lift pause
  let state ← get
  let connected ← Local.lift (inquire .connectedConnection)
  if policyChanged before policy || state.workingPolicyHash != some policy.policyHash ||
      connected.isSome then
    applyAndSave policy nowUnix .cachedOnly
  else saveState

def saveSplitTunnelSettings (nowUnix : Int) : Split Unit :=
  withSplitGate (withLoaded (saveSettingsHoldingGate nowUnix))

def applyUpdatedAddressRulePolicy (policy : SplitTunnelPolicy) (nowUnix : Int) :
    Updating Unit := do
  storeChangedPolicy policy nowUnix
  applyAndSave policy nowUnix .refresh

def changeRulesHoldingGate (request : Split SplitTunnelPolicy) (nowUnix : Int) :
    Updating Unit := do
  Local.lift accessSnapshot
  flushPendingApplyResults
  let policy ← Local.lift request
  applyUpdatedAddressRulePolicy policy nowUnix

def addSplitTunnelAddressRule (value : String) (nowUnix : Int) : Split Unit :=
  withSplitGate do
    let normalized ← consult (.normalizeAddressRule value)
    let value ← decided (policyFailure normalized)
    withLoaded (changeRulesHoldingGate (requestAddSplitTunnelAddressRule value) nowUnix)

def removeSplitTunnelAddressRule (ruleId : Int) (nowUnix : Int) : Split Unit :=
  withSplitGate
    (withLoaded (changeRulesHoldingGate (requestRemoveSplitTunnelAddressRule ruleId) nowUnix))

def retryResultsHoldingGate : Updating Unit := do
  let state ← get
  if state.pendingApplyResults.isEmpty then pure ()
  else do
    Local.lift accessSnapshot
    flushPendingApplyResults
    saveState

def retryPendingSplitTunnelResults : Split Unit :=
  withSplitGate (withLoaded retryResultsHoldingGate)

/-- `record_started_split_tunnel_policy` after a start without a session. -/
def recordStartedSplitTunnelPolicy (policy : SplitTunnelPolicy) (options : TunnelOptions)
    (fingerprint : Option String) (nowUnix : Int) : Updating Unit := do
  updateState fun state => { state with appliedPhysicalNetworkFingerprint := fingerprint }
  if options.policyHash.isNone then saveState
  else do
    updateState fun state =>
      { rememberPreviousWorkingPolicy state with workingPolicyHash := some policy.policyHash }
    saveState
    Local.lift (requireClock nowUnix)
    updateState fun state =>
      { state with
        pendingApplyResults := state.pendingApplyResults ++ [applyResult policy .applied none] }
    saveState

def startChosen (layer : Layer) (routeMode : RouteMode) (nowUnix : Int) :
    Option SplitTunnelPolicy → Split Unit
  | none => do
    let _ ← fallbackTunnelOptions
    pure ()
  | some policy => do
    let options ← effectiveTunnelOptions policy layer routeMode nowUnix true
    let started ← inquire (.startForRestart options)
    decided (tunnelFailure started)
    let fingerprint ← initializePhysicalNetworkDetector options
    withLoaded (recordStartedSplitTunnelPolicy policy options fingerprint nowUnix)

/-- The split-tunnel part of a start, which holds the gate from the choice of
the policy until its tunnel is recorded. -/
def startWithPolicy (layer : Layer) (routeMode : RouteMode) (nowUnix : Int) : Split Unit :=
  withSplitGate do
    let policy ← cachedPolicyForStart
    startChosen layer routeMode nowUnix policy

def connectionIntentTunnelOptions (layer : Layer) (routeMode : RouteMode) (nowUnix : Int) :
    Split TunnelOptions := do
  let policy ← cachedPolicyForStart
  match policy with
  | some policy => effectiveTunnelOptions policy layer routeMode nowUnix false
  | none => fallbackTunnelOptions

def recordPhysicalNetwork (fingerprint : Option String) : Split Unit :=
  withLoaded do
    updateState fun state => { state with appliedPhysicalNetworkFingerprint := fingerprint }
    saveState

inductive SplitOp where
  | restoreRunningSplitTunnelOptions (connection : Connection) (nowUnix : Int)
  | resetSplitTunnelState
  | synchronizeSplitTunnel (nowUnix : Int) (forceFull : Bool)
  | saveSplitTunnelSettings (nowUnix : Int)
  | addSplitTunnelAddressRule (value : String) (nowUnix : Int)
  | removeSplitTunnelAddressRule (ruleId nowUnix : Int)
  | retryPendingSplitTunnelResults
  | startWithPolicy (layer : Layer) (routeMode : RouteMode) (nowUnix : Int)
  | connectionIntentTunnelOptions (layer : Layer) (routeMode : RouteMode) (nowUnix : Int)
  | recordPhysicalNetwork (fingerprint : Option String)
  | saveRuntime (value : RuntimeState)
  | completeCleanup (frozen : RuntimeCleanupSnapshot)
  | bindEmptyScope (scope : RuntimeAuthScope)

def task {α : Type} (x : Split α) : Prog split Unit := do
  let _ ← x.run
  return ()

def SplitOp.program : SplitOp → Prog split Unit
  | restoreRunningSplitTunnelOptions connection nowUnix =>
    task (SplitTunnel.restoreRunningSplitTunnelOptions connection nowUnix)
  | resetSplitTunnelState => task SplitTunnel.resetSplitTunnelState
  | synchronizeSplitTunnel nowUnix forceFull =>
    task (SplitTunnel.synchronizeSplitTunnel nowUnix forceFull)
  | saveSplitTunnelSettings nowUnix => task (SplitTunnel.saveSplitTunnelSettings nowUnix)
  | addSplitTunnelAddressRule value nowUnix =>
    task (SplitTunnel.addSplitTunnelAddressRule value nowUnix)
  | removeSplitTunnelAddressRule ruleId nowUnix =>
    task (SplitTunnel.removeSplitTunnelAddressRule ruleId nowUnix)
  | retryPendingSplitTunnelResults => task SplitTunnel.retryPendingSplitTunnelResults
  | startWithPolicy layer routeMode nowUnix =>
    task (SplitTunnel.startWithPolicy layer routeMode nowUnix)
  | connectionIntentTunnelOptions layer routeMode nowUnix =>
    task (SplitTunnel.connectionIntentTunnelOptions layer routeMode nowUnix)
  | recordPhysicalNetwork fingerprint => task (SplitTunnel.recordPhysicalNetwork fingerprint)
  | saveRuntime value => task (stored (.saveRuntime value))
  | completeCleanup frozen => task (stored (.completeCleanup frozen))
  | bindEmptyScope scope => task (stored (.bindEmptyScope scope))

/-- The system of all split-tunnel operations; a new process keeps the record. -/
abbrev splitSystem : System where
  machine := split
  Op := SplitOp
  program := SplitOp.program
  restart := fun w => .fresh w.record

end NelomaiClient.SplitTunnel
