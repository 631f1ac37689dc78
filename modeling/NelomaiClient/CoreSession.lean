import NelomaiClient.CoreStart

/-!
# Sessions of the core

The operations of `ClientCore` outside the intent gate: the owner's stop, the
bootstrap with the restoration of a running connection, pinning and unpinning
of a Stray lease, the end of a binding and the offline start.
-/

namespace NelomaiClient.CoreSession

open ConnectionContract CoreContract RuntimeRecord PanelContract CorePolicy RuntimeJournal
open AwaitProgram AwaitFallible CoreMachine CoreStop CoreCancel CoreStart

def stopLocalWithSuccessPhase (successPhase : Phase) : Core Unit := do
  surely (locked .ownerPublish)
  let result ← surely (inquire .tunnelStop)
  match result with
  | .ok () => surely (locked (.ownerFinish true successPhase))
  | .error code => do
    surely (locked (.ownerFinish false successPhase))
    throw (.tunnel code)

def stopLocal : Core Unit := stopLocalWithSuccessPhase .signedOut

def stopLocalForTransition : Core Unit := stopLocalWithSuccessPhase .ready

def stopLocalOnDisconnect : Core Unit := stopLocalWithSuccessPhase .error

def signalStartCancellation : Core Unit := do
  let _ ← surely (atomic .signalStartCancellation)
  pure ()

section Restore
variable (connection : Connection) (nowUnix : Int)

/-- The request under which a running connection's configuration is fetched:
the lease stands for the operation. -/
def restoreRequest : ConnectionStartRequest :=
  { operationId := connection.leaseId
    layer := connection.layer, ticConnectionMode := connection.ticConnectionMode
    routeMode := connection.routeMode, egressMode := connection.egressMode, probes := []
    allowAlternate := false, requireMeasuredSelection := false, recoveryContractVersion := none
    redundancyContractVersion := none, reserveEnabled := none, requestFingerprint := none }

def fetchConfiguration :
    Core (Except CoreApiError ConnectionStartResponse) := do
  surely (take (.sendStart .restore (restoreRequest connection)))
  surely (receive (.startAnswer connection.leaseId))

def fetchAgain :
    Except CoreApiError ConnectionStartResponse → Core (Except CoreApiError ConnectionStartResponse)
  | .error .unauthorized => do
    refreshAccessToken
    fetchConfiguration connection
  | result => pure result

/-- Remember a fetched configuration if its connection is still the published
one. The record was loaded before the lock was awaited. -/
def rememberRestored (epoch : UInt64)
    (recovered : ConnectionStartResponse) : Core Unit := do
  let current ← stored .loadRuntime
  let state ← readCore
  ensureStartNotCancelled epoch
  whenever (state.phase == .connected && state.connection == some connection)
    (stored (.saveRuntime .restore
      (withStartedConnection (rememberedConnection nowUnix recovered false) current)))

def restoreFromPanel (epoch : UInt64) : Core Unit := do
  ensureStartNotCancelled epoch
  accessSnapshot
  let first ← fetchConfiguration connection
  ensureStartNotCancelled epoch
  let recovered ← fetchAgain connection first
  match recovered with
  | .error _ => pure ()
  | .ok recovered =>
    whenever (recovered.connection.leaseId == connection.leaseId && recovered.configuration != "")
      (rememberRestored connection nowUnix epoch recovered)

def restoreConfiguration (epoch : UInt64) :
    Core Unit := do
  let found ← stored .loadRuntime
  if (storedFor found connection.leaseId).isSome then pure ()
  else do
    let owned ← surely (inquire .ownsRedundantSession)
    match owned with
    | .ok false => restoreFromPanel connection nowUnix epoch
    | _ => pure ()

/-- `restore_running_connection_configuration`: every failure only ends it. -/
def restoreRunningConnectionConfiguration
    (epoch : UInt64) : Core Unit := do
  let _ ← outcome (restoreConfiguration connection nowUnix epoch)
  pure ()

end Restore

def askBootstrap (epoch : UInt64) : Core (Except CoreApiError Bootstrap) := do
  let result ← surely (receive .bootstrapAnswer)
  ensureStartNotCancelled epoch
  return result

def bootstrapFailed {α : Type} (preserveLocal : Bool) (error : CoreApiError) : Core α := do
  surely (locked (.applyBootstrapError error preserveLocal))
  throw (.ofApi error)

def bootstrapAgain (epoch : UInt64) (preserveLocal : Bool) :
    Except CoreApiError Bootstrap → Core Bootstrap
  | .ok response => pure response
  | .error .unauthorized => do
    refreshAccessToken
    ensureStartNotCancelled epoch
    let result ← askBootstrap epoch
    match result with
    | .ok response => pure response
    | .error error => bootstrapFailed preserveLocal error
  | .error error => bootstrapFailed preserveLocal error

def restoreRunning (connection : Connection) (nowUnix : Int) (epoch : UInt64) : Core Unit := do
  restoreRunningConnectionConfiguration connection nowUnix epoch
  ensureStartNotCancelled epoch
  surely Prog.pause
  ensureStartNotCancelled epoch

def restorable (phase : Phase) (connection : Option Connection) : Option Connection :=
  if phase == .connected then connection else none

def tunnelStatusOrStopped : Core TunnelStatus := do
  let status ← surely (inquire .tunnelStatus)
  match status with
  | .ok status => pure status
  | .error _ => pure .stopped

def finishBootstrap (nowUnix : Int) (epoch : UInt64) : Option Connection → Core Unit
  | none => pure ()
  | some connection => restoreRunning connection nowUnix epoch

def completeBootstrap (response : Bootstrap) (nowUnix : Int) (epoch : UInt64) :
    Core Bootstrap := do
  ensureStartNotCancelled epoch
  stored (.saveBootstrap response nowUnix)
  let status ← tunnelStatusOrStopped
  let _ ← readCore
  let phase := recoverPhase response status
  attempt (locked (.writeCoreIf epoch ⟨phase, response.connection⟩))
  finishBootstrap nowUnix epoch (restorable phase response.connection)
  surely Prog.pause
  ensureStartNotCancelled epoch
  return response

def bootstrapWithLocalPresentation (nowUnix : Int) (preserveLocal : Bool) : Core Bootstrap := do
  let epoch ← surely (atomic .readEpoch)
  accessSnapshot
  let first ← askBootstrap epoch
  let response ← bootstrapAgain epoch preserveLocal first
  completeBootstrap response nowUnix epoch

def bootstrap (nowUnix : Int) : Core Bootstrap := bootstrapWithLocalPresentation nowUnix false

def bootstrapForForeground (nowUnix : Int) : Core Bootstrap :=
  bootstrapWithLocalPresentation nowUnix true

def bootstrapWithoutRefresh (nowUnix : Int) : Core Bootstrap := do
  let epoch ← surely (atomic .readEpoch)
  accessSnapshot
  let first ← askBootstrap epoch
  match first with
  | .ok response => completeBootstrap response nowUnix epoch
  | .error error => do
    setPhase (phaseForApiError error)
    throw (.ofApi error)

section Stray

variable (env : CoreParameters)

def available {α : Type} : Option α → Core α
  | some a => pure a
  | none => throw .savedConnectionUnavailable

def pinnable (state : CoreState) : Option Connection :=
  state.connection.filter fun connection =>
    state.phase == .connected && connection.layer == .stray && !connection.pinned

/-- The record that a pin saves: the cached connection becomes the pinned one. -/
def pinnedRecord (found : RuntimeState) (saved : StoredConnection) : RuntimeState :=
  { found with
    savedConnection := none
    pinnedConnection := some { saved with kind := .pinned, validUntilUnix := none } }

/-- The record that an unpin saves: the pinned connection becomes the cached one, if none is. -/
def unpinnedRecord (found : RuntimeState) (saved : StoredConnection) (nowUnix : Int) :
    RuntimeState :=
  { found with
    pinnedConnection := none
    savedConnection :=
      if found.savedConnection.isNone then
        some { saved with
          kind := .dynamicWarm, validUntilUnix := some (saturatingAddI64 nowUnix 3600) }
      else found.savedConnection }

def strayOperation (operation : ConnectionOperation) (leaseId : String) : Core Connection := do
  accessSnapshot
  let operationId ← newOperationId
  retryOperation env operation ⟨operationId, leaseId, none⟩

def pinHoldingGate (epoch : UInt64) : Core Connection := do
  let state ← readCore
  let current ← available (pinnable state)
  let found ← stored .loadForStray
  let saved ← available (found.savedConnection.filter (·.leaseId == current.leaseId))
  let answered ← strayOperation env .pinStray current.leaseId
  attempt (locked (.ensureStartNotCancelled epoch))
  stored (.saveRuntime .stray (pinnedRecord found saved))
  surely (atomic (.clearQuarantine answered.leaseId))
  attempt (atomic (.writeCoreIf epoch ⟨.connected, some answered⟩))
  return answered

def pinStray : Core Connection := do
  let epoch ← surely (atomic .readEpoch)
  withGate .connection (pinHoldingGate env epoch)

def unpinHoldingGate (leaseId : String) (nowUnix : Int) : Core Connection := do
  let found ← stored .loadForStray
  let saved ← available (found.pinnedConnection.filter (·.leaseId == leaseId))
  let answered ← strayOperation env .unpinStray leaseId
  stored (.saveRuntime .stray (unpinnedRecord found saved nowUnix))
  surely (locked (.replaceConnection leaseId answered))
  return answered

def unpinStray (leaseId : String) (nowUnix : Int) : Core Connection :=
  withGate .connection (unpinHoldingGate env leaseId nowUnix)

def completeUnbind : Core Unit :=
  withGate .connection do
    attempt (tunnelError <$> inquire .tunnelStop)
    stored .saveUnbound
    surely (atomic .clearAllQuarantines)
    writeCore ⟨.needsPeerBinding, none⟩

end Stray

section Offline

variable (env : CoreParameters)
variable (nowUnix : Int) (epoch : UInt64)

/-- `ensure_offline_start_current`: a start that came too late is stopped again. -/
def ensureOfflineStartCurrent : Core Unit := do
  let current ← outcome (ensureStartNotCancelled epoch)
  match current with
  | .ok () => pure ()
  | .error _ => do
    let stopped ← surely (inquire .tunnelStop)
    match stopped with
    | .ok () => throw .startCancelled
    | .error code => do
      writeCore ⟨.error, none⟩
      throw (.tunnel code)

def savedOfflineAllowed (connection : StoredConnection) : Bool :=
  connection.layer == .stray &&
    match connection.kind with
    | .pinned => pinnedConnectionOfflineAllowed connection
    | .dynamicWarm => connection.validUntilUnix.any fun expiry => decide (nowUnix < expiry)
    | .fixed => false

def pinnedOfflineAllowed (connection : StoredConnection) : Bool :=
  connection.layer == .stray && pinnedConnectionOfflineAllowed connection

def offlineCandidate (stored : RuntimeState) (nowUnix : Int) : Option StoredConnection :=
  (stored.savedConnection.filter (savedOfflineAllowed nowUnix)).or
    (stored.pinnedConnection.filter pinnedOfflineAllowed)

def offlineForbidden (stored : RuntimeState) : Bool :=
  stored.pendingCompensationStop.isSome ||
    stored.pendingStart.any (·.recoveryContractVersion == some 2)

def offlineConnection (saved : StoredConnection) : Connection :=
  { leaseId := saved.leaseId
    sessionId := none, poolId := saved.poolId, layer := saved.layer
    transportProtocol :=
      if env.transport saved.configuration = .amneziaWg3 then .amneziawg3 else .wireguard
    ticConnectionMode := saved.ticConnectionMode, routeMode := saved.routeMode
    egressMode := saved.egressMode, probeUrl := saved.probeUrl, status := .connected
    pinned := saved.kind == .pinned, stoppedAt := none }

def writeCoreIf (state : CoreState) : Core Unit := attempt (locked (.writeCoreIf epoch state))

def offlineCleanupFailed (connection : Connection) (stopError : CoreError) :
    Core Unit := do
  let current ← surely (locked (.writeCoreIf epoch ⟨.stopping, some connection⟩))
  match current with
  | .ok () => throw stopError
  | .error _ => do
    surely (atomic (.writeCore ⟨.error, none⟩))
    throw stopError

def offlineCleanedUp (connection : Connection) (error : CoreError) :
    Core Unit := do
  writeCoreIf epoch ⟨.ready, none⟩
  whenever (isHandshakeTimeout error)
    (reconcileHandshakeTimeoutStorage .offlineTimeout connection.leaseId connection)
  throw error

def offlineHandshakeFailed (connection : Connection) (error : CoreError) :
    Core Unit := do
  let stopped ← surely (inquire .tunnelStop)
  match stopped with
  | .error code => offlineCleanupFailed epoch connection (.tunnel code)
  | .ok () => offlineCleanedUp epoch connection error

def offlineHandshake (transport : TunnelTransport) (connection : Connection) :
    Core Unit :=
  if transport == .amneziaWg3 then do
    let handshake ← outcome (ensureAwg3Handshake (some epoch))
    match handshake with
    | .ok () => pure ()
    | .error error => offlineHandshakeFailed epoch connection error
  else pure ()

def offlineStarted (saved : StoredConnection) : Core String := do
  ensureOfflineStartCurrent epoch
  offlineHandshake epoch (env.transport saved.configuration) (offlineConnection env saved)
  surely Prog.pause
  ensureOfflineStartCurrent epoch
  writeCoreIf epoch ⟨.connected, some (offlineConnection env saved)⟩
  surely Prog.pause
  return saved.leaseId

def startOffline (saved : StoredConnection) : Core String := do
  let quarantined ← surely (atomic (.quarantined saved.leaseId))
  require (!quarantined) .savedConnectionUnavailable
  let splitPolicy ← preflight
  whenever splitPolicy (surely Prog.pause)
  writeCoreIf epoch ⟨.connecting, some (offlineConnection env saved)⟩
  let result ← surely (begun (.tunnelStart .offline saved.leaseId))
  match result with
  | .ok () => offlineStarted env epoch saved
  | .error code => do
    ensureOfflineStartCurrent epoch
    writeCoreIf epoch ⟨.ready, none⟩
    throw (.tunnel code)

def offlineHoldingGates : Core String := do
  let found ← stored .loadRuntime
  require (!offlineForbidden found) .savedConnectionUnavailable
  require (!(found.compatibility.any (·.updateRequired))) .updateRequired
  let saved ← available (offlineCandidate found nowUnix)
  startOffline env epoch saved

def startSavedStrayOffline : Core String := do
  let epoch ← surely (atomic .readEpoch)
  let active ← attempt (inquire .authActive)
  require active .signedOut
  withGate .split (withGate .connection (offlineHoldingGates env nowUnix epoch))

end Offline

/-- A read of the presentation (`state`, `reconcile_external_tunnel_state`,
`foreground_state`) shows the tunnel's status; which phase it chooses is left open. -/
def presentPhase (phase : Phase) : Core Unit := setPhase phase

/-- A call that only loads the record (`access_snapshot`, `local_stop_pending_cleanup`). -/
def readRuntime : Core Unit := do
  let _ ← stored .loadRuntime
  pure ()

section Readiness

structure Dns46DotCapability where
  ready : Bool := true
  hostname : String
  endpointIpv4s : List String
  deriving DecidableEq

structure ConnectionIntentCapability where
  dns46Dot : Option Dns46DotCapability
  revision : Int
  expiresAt : String

/-- The fence of DNS46 readiness: the newest revision, and its metadata with the
time until which they are valid. -/
structure Dns46Dot where
  revision : Int := 0
  ready : Option (Dns46DotCapability × Int) := none
  deriving DecidableEq

/-- A response that reaches `complete_bootstrap`, at a time. -/
structure BootstrapResponse where
  capabilities : Option ConnectionIntentCapability
  nowUnix : Int
  startCancelled : Bool := false
  lockPoisoned : Bool := false

-- RFC 3339 times as seconds.
variable (parse : String → Option Int)

def ConnectionIntentCapability.expiresAtUnix (capability : ConnectionIntentCapability) :
    Option Int :=
  parse capability.expiresAt

def incomingDot (nowUnix : Int) (capability : ConnectionIntentCapability) :
    Option (Dns46DotCapability × Int) :=
  ((capability.expiresAtUnix parse).filter (nowUnix < ·)).bind fun expiry =>
    capability.dns46Dot.map fun dot => (dot, expiry)

def shortened : Option (Dns46DotCapability × Int) → Option (Dns46DotCapability × Int) →
    Option (Dns46DotCapability × Int)
  | some old, some new => if old.1 = new.1 then some (old.1, min old.2 new.2) else none
  | _, _ => none

/-- What `complete_bootstrap` makes of the fence. -/
def Dns46Dot.complete (current : Dns46Dot) (response : BootstrapResponse) : Dns46Dot :=
  if response.startCancelled || response.lockPoisoned then current
  else
    match response.capabilities.filter (0 < ·.revision) with
    -- A legacy response omits the metadata; the revision stays.
    | none => { current with ready := none }
    | some capability =>
      let incoming := incomingDot parse response.nowUnix capability
      if current.revision < capability.revision then ⟨capability.revision, incoming⟩
      else if capability.revision = current.revision then
        { current with ready := shortened current.ready incoming }
      else current

def Dns46Dot.run (responses : List BootstrapResponse) (current : Dns46Dot) : Dns46Dot :=
  responses.foldl (Dns46Dot.complete parse) current

/-- Between two states of the fence: the revision grows, or its readiness can only
be withdrawn or end earlier. -/
structure Dns46Dot.Fenced (before after : Dns46Dot) : Prop where
  revision : before.revision ≤ after.revision
  ready : after.revision = before.revision → ∀ dot expiry, after.ready = some (dot, expiry) →
    ∃ expiry', before.ready = some (dot, expiry') ∧ expiry ≤ expiry'

variable {parse}

lemma shortened_some (h : shortened old new = some (dot, expiry)) :
    ∃ expiry', old = some (dot, expiry') ∧ expiry ≤ expiry' := by
  unfold shortened at h
  split at h
  · split at h
    · cases h
      exact ⟨_, rfl, Int.min_le_left _ _⟩
    · cases h
  · cases h

lemma Dns46Dot.Fenced.refl (current : Dns46Dot) : Fenced current current :=
  ⟨Int.le_refl _, fun _ _ expiry h => ⟨expiry, h, Int.le_refl _⟩⟩

lemma Dns46Dot.Fenced.trans (h : Fenced first second) (h' : Fenced second third) :
    Fenced first third where
  revision := Int.le_trans h.revision h'.revision
  ready hsa dot expiry ht := by
    have hs : second.revision = first.revision := Int.le_antisymm (hsa ▸ h'.revision) h.revision
    obtain ⟨expiry2, hr2, hl2⟩ := h'.ready (hsa.trans hs.symm) dot expiry ht
    obtain ⟨expiry1, hr1, hl1⟩ := h.ready hs dot expiry2 hr2
    exact ⟨expiry1, hr1, Int.le_trans hl2 hl1⟩

lemma Dns46Dot.complete_fenced (current : Dns46Dot) (response : BootstrapResponse) :
    Fenced current (current.complete parse response) := by
  unfold Dns46Dot.complete
  split
  · exact .refl current
  · split
    · exact ⟨Int.le_refl _, nofun⟩
    · dsimp only
      split
      · rename_i hn
        exact ⟨Int.le_of_lt hn, fun hs => absurd hs (Int.ne_of_gt hn)⟩
      · split
        · exact ⟨Int.le_refl _, fun _ _ _ hr => shortened_some hr⟩
        · exact .refl current

lemma Dns46Dot.run_fenced (responses : List BootstrapResponse) (current : Dns46Dot) :
    Fenced current (current.run parse responses) := by
  induction responses generalizing current with
  | nil => exact .refl current
  | cons response rest ih => exact (current.complete_fenced response).trans (ih _)

/-- DNS46 readiness is fenced by its revision. Over every sequence of responses the revision never
decreases; while it stays, readiness keeps its metadata with an expiry that is not later, or is
withdrawn for good; a capability of a lower positive revision changes nothing, and a response
without a capability of positive revision withdraws readiness under the stored revision. -/
theorem readiness_fenced (parse : String → Option Int) (earlier later : List BootstrapResponse)
    (response : BootstrapResponse) :
    let before := ({} : Dns46Dot).run parse earlier
    let after := ({} : Dns46Dot).run parse (earlier ++ later)
    before.revision ≤ after.revision ∧
      (after.revision = before.revision → ∀ dot expiry, after.ready = some (dot, expiry) →
        ∃ expiry', before.ready = some (dot, expiry') ∧ expiry ≤ expiry') ∧
      (∀ capability, response.capabilities = some capability → 0 < capability.revision →
        capability.revision < before.revision → before.complete parse response = before) ∧
      ((∀ capability, response.capabilities = some capability → capability.revision ≤ 0) →
        response.startCancelled = false → response.lockPoisoned = false →
          before.complete parse response = { before with ready := none }) := by
  intro before after
  have ha : after = before.run parse later := List.foldl_append
  have hf : before.Fenced after := ha ▸ before.run_fenced later
  refine ⟨hf.revision, hf.ready, fun capability hso hp _ => ?_, fun hl hs hlo => ?_⟩
  · have hfi : response.capabilities.filter (0 < ·.revision) = some capability := by
      simp [hso, hp]
    have hn : ¬before.revision < capability.revision := by omega
    have hsa : capability.revision ≠ before.revision := by omega
    simp [Dns46Dot.complete, hfi, hn, hsa]
  · have hno : response.capabilities.filter (0 < ·.revision) = none := by
      simpa [Option.filter_eq_none_iff] using hl
    simp [Dns46Dot.complete, hs, hlo, hno]

def sampleDot : Dns46DotCapability := { hostname := "dns.example", endpointIpv4s := ["9.9.9.9"] }

theorem nonpositive_withdraws :
    let current := ({} : Dns46Dot).run (fun _ => some 100) [⟨some ⟨some sampleDot, 5, ""⟩, 0, false, false⟩]
    let after := current.complete (fun _ => some 100) ⟨some ⟨some sampleDot, 0, ""⟩, 0, false, false⟩
    current = ⟨5, some (sampleDot, 100)⟩ ∧ after = ⟨5, none⟩ := by decide

end Readiness

end NelomaiClient.CoreSession
