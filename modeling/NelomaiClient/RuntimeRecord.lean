import NelomaiClient.CoreContract

/-!
# The runtime record and its stores

The durable record of one runtime: the cached connections, the journals of
unfinished operations, the observed compatibility and the split-tunnel state.
The core writes the operational half through one store and the split-tunnel
half through another. Both stores read the record under the owner's gate; the
environment decides how each access ends.
-/

namespace NelomaiClient.RuntimeRecord

open ConnectionContract CoreContract

inductive RuntimeSlot where
  | latest
  | stable
  deriving DecidableEq

structure RuntimeIdentity where
  slot : RuntimeSlot
  runtimeVersion : String
  runtimeContractVersion : Nat
  containerVersion : String
  /-- Generation of the session the identity was issued for. -/
  sessionGeneration : Option Nat
  deriving DecidableEq

structure RuntimeAuthScope where
  authEpoch : Nat
  family : String
  identity : RuntimeIdentity
  deriving DecidableEq

inductive StoredConnectionKind where
  | fixed
  | dynamicWarm
  | pinned
  deriving DecidableEq

structure StoredConnection where
  leaseId : String
  poolId : Option String
  layer : Layer
  ticConnectionMode : TicConnectionMode
  routeMode : RouteMode
  egressMode : EgressMode
  probeUrl : Option String
  kind : StoredConnectionKind
  configuration : String
  /-- Expiry of a warm connection, retry time of a pinned one. -/
  validUntilUnix : Option Int
  deriving DecidableEq

structure StoredPendingStart where
  operationId : String
  layer : Layer
  ticConnectionMode : TicConnectionMode
  routeMode : RouteMode
  egressMode : EgressMode
  allowAlternate : Bool
  probes : List ProbeResult
  /-- Recovery contract, absent for legacy starts. -/
  recoveryContractVersion : Option Nat
  /-- Redundancy contract, present for recovery contract 2. -/
  redundancyContractVersion : Option Nat
  reserveEnabled : Option Bool
  requestFingerprint : Option String
  cancelOperationId : Option String
  deriving DecidableEq

structure StoredPendingStalledStop where
  operationId : String
  leaseId : String
  contractVersion : Nat
  requestFingerprint : String
  deriving DecidableEq

structure StoredPendingCompensationStop where
  operationId : String
  leaseId : String
  /-- Recovery contract 2 for a redundant session. -/
  recoveryContractVersion : Option Nat
  redundantSessionId : Option String
  acceptWarm : Bool
  failureCode : Option String
  deriving DecidableEq

structure StoredCompatibility where
  updateRequired : Bool
  observedAtUnix : Int
  deriving DecidableEq

inductive SplitTunnelAddressRuleKind where
  | ipv4
  | domain
  deriving DecidableEq

structure SplitTunnelAddressRule where
  id : Int
  kind : SplitTunnelAddressRuleKind
  value : String
  deriving DecidableEq

structure SplitTunnelPolicy where
  enabled : Bool
  revision : Int
  forceRevision : Int
  addressRevision : Int
  policyHash : String
  addressRules : List SplitTunnelAddressRule
  deriving DecidableEq

inductive SplitTunnelApplyStatus where
  | applied
  | rolledBack
  | failed
  deriving DecidableEq

structure SplitTunnelApplyResult where
  revision : Int
  forceRevision : Int
  addressRevision : Int
  policyHash : String
  status : SplitTunnelApplyStatus
  errorCode : Option String
  deriving DecidableEq

structure StoredSplitTunnelDomainResolution where
  domain : String
  ipv4Cidrs : List String
  resolvedAtUnix : Int
  deriving DecidableEq

structure StoredSplitTunnelState where
  cachedPolicy : Option SplitTunnelPolicy := none
  workingPolicyHash : Option String := none
  previousWorkingPolicy : Option SplitTunnelPolicy := none
  appliedPhysicalNetworkFingerprint : Option String := none
  lastFullSyncUnix : Option Int := none
  lastRevisionCheckUnix : Option Int := none
  lastSeenForceRevision : Int := 0
  lastSeenAddressRevision : Int := 0
  failedPolicyHash : Option String := none
  /-- Time before which the failed policy is not tried again. -/
  failedPolicyRetryAfterUnix : Option Int := none
  pendingApplyResults : List SplitTunnelApplyResult := []
  domainResolutions : List StoredSplitTunnelDomainResolution := []
  deriving DecidableEq

structure RuntimeState where
  schemaVersion : Nat
  slot : RuntimeSlot
  runtimeVersion : String
  /-- Whether the record is cleanup input only. -/
  cleanupOnly : Bool
  authScope : Option RuntimeAuthScope
  savedConnection : Option StoredConnection
  pinnedConnection : Option StoredConnection
  pendingStart : Option StoredPendingStart
  pendingStalledStop : Option StoredPendingStalledStop
  pendingCompensationStop : Option StoredPendingCompensationStop
  compatibility : Option StoredCompatibility
  appliedSplitTunnel : StoredSplitTunnelState
  deriving DecidableEq

namespace RuntimeState

def empty (slot : RuntimeSlot) (version : String) (cleanupOnly : Bool) : RuntimeState :=
  { schemaVersion := 1, slot := slot, runtimeVersion := version, cleanupOnly := cleanupOnly,
    authScope := none, savedConnection := none, pinnedConnection := none, pendingStart := none,
    pendingStalledStop := none, pendingCompensationStop := none, compatibility := none,
    appliedSplitTunnel := {} }

def startOrRecoveryAllowed (state : RuntimeState) : Bool := !state.cleanupOnly

/-- The six fields that the operational store writes, taken from `value`. -/
def withOperational (current value : RuntimeState) : RuntimeState :=
  { current with
    savedConnection := value.savedConnection, pinnedConnection := value.pinnedConnection
    pendingStart := value.pendingStart, pendingStalledStop := value.pendingStalledStop
    pendingCompensationStop := value.pendingCompensationStop, compatibility := value.compatibility }

def sameRecord (current value : RuntimeState) : Bool :=
  value.schemaVersion == current.schemaVersion && value.authScope == current.authScope &&
    value.slot == current.slot && value.runtimeVersion == current.runtimeVersion

def migratesPinned (stored : RuntimeState) : Bool :=
  stored.pinnedConnection.isNone &&
    stored.savedConnection.any fun connection => connection.kind == .pinned

def migratePinned (stored : RuntimeState) : RuntimeState :=
  { stored with pinnedConnection := stored.savedConnection, savedConnection := none }

end RuntimeState

/-- How one access to the store ends. A failing save may have replaced the
record already. -/
inductive StoreOutcome where
  | done
  | absent
  | lost
  | late

/-- What a synchronous function of the core sees of the store: the record, the
outcomes of its next accesses and the flag that a start is journalled. -/
structure Disk where
  record : RuntimeState
  /-- Outcomes of the next accesses; later ones succeed. -/
  outcomes : List StoreOutcome
  pendingStartActive : Bool

def Storage (α : Type) : Type := Disk → Except CoreError α × Disk

namespace Storage

variable {α β : Type}

instance : Monad Storage where
  pure a := fun d => (.ok a, d)
  bind x f := fun d =>
    match x d with
    | (.ok a, d') => f a d'
    | (.error e, d') => (.error e, d')

def fail (e : CoreError) : Storage α := fun d => (.error e, d)

def outcome (d : Disk) : StoreOutcome × Disk :=
  (d.outcomes.headD .done, { d with outcomes := d.outcomes.tail })

def load : Storage (Option RuntimeState) := fun d =>
  match outcome d with
  | (.done, d) => (.ok (some d.record), d)
  | (.absent, d) => (.ok none, d)
  | (.lost, d) => (.error .storage, d)
  | (.late, d) => (.error .storage, d)

/-- `store.save(value)` of the operational store, with failures as `CoreError::Storage`. -/
def save (value : RuntimeState) : Storage Unit := fun d =>
  match outcome d with
  | (.done, d) =>
    if d.record.sameRecord value then (.ok (), { d with record := d.record.withOperational value })
    else (.error .storage, d)
  | (.absent, d) => (.error .storage, d)
  | (.lost, d) => (.error .storage, d)
  | (.late, d) =>
    if d.record.sameRecord value then
      (.error .storage, { d with record := d.record.withOperational value })
    else (.error .storage, d)

def setPendingStartActive (b : Bool) : Storage Unit := fun d =>
  (.ok (), { d with pendingStartActive := b })

def adopt (stored : RuntimeState) : Storage RuntimeState :=
  if stored.migratesPinned then do
    save stored.migratePinned
    setPendingStartActive stored.pendingStart.isSome
    pure stored.migratePinned
  else do
    setPendingStartActive stored.pendingStart.isSome
    pure stored

def loadRuntime : Storage RuntimeState := do
  match ← load with
  | none => fail .signedOut
  | some stored => if stored.startOrRecoveryAllowed then adopt stored else fail .authRecoveryRequired

/-- Let `change` decide the answer and, if something changes, the record to save. -/
def amend (change : RuntimeState → Except CoreError (α × Option RuntimeState))
    (stored : RuntimeState) : Storage α :=
  match change stored with
  | .error e => fail e
  | .ok (a, none) => pure a
  | .ok (a, some next) => do
    save next
    pure a

def amendRuntime (change : RuntimeState → Except CoreError (α × Option RuntimeState)) :
    Storage α := do
  amend change (← loadRuntime)

/-- Load by `store.load()` and amend, or answer `missing` without a record. -/
def amendStored (missing : Except CoreError α)
    (change : RuntimeState → Except CoreError (α × Option RuntimeState)) : Storage α := do
  match ← load with
  | none =>
    match missing with
    | .ok a => pure a
    | .error e => fail e
  | some stored => amend change stored

def Adopted (r r' : RuntimeState) : Prop := r' = r ∨ r' = r.migratePinned

lemma load_record (d : Disk) : (load d).2.record = d.record := by
  unfold load outcome
  cases d.outcomes.headD .done <;> rfl

lemma load_some (h : (load d).1 = .ok (some v)) : v = d.record := by
  unfold load outcome at h
  cases ho : d.outcomes.headD .done <;> simp only [ho] at h <;> cases h
  rfl

/-- A save leaves the record or writes its operational half, and it says so if it succeeds. -/
lemma save_record (value : RuntimeState) (d : Disk) :
    ((save value d).2.record = d.record ∧ ∃ e, (save value d).1 = .error e) ∨
      (save value d).2.record = d.record.withOperational value := by
  unfold save outcome
  cases ho : d.outcomes.headD .done with
  | done | late =>
    dsimp only
    split
    · exact Or.inr rfl
    · exact Or.inl ⟨rfl, _, rfl⟩
  | absent | lost => exact Or.inl ⟨rfl, _, rfl⟩

lemma save_pendingStartActive (value : RuntimeState) (d : Disk) :
    (save value d).2.pendingStartActive = d.pendingStartActive := by
  unfold save outcome
  cases ho : d.outcomes.headD .done with
  | done | late =>
    dsimp only
    split <;> rfl
  | absent | lost => rfl

lemma withOperational_migratePinned (r : RuntimeState) :
    r.withOperational r.migratePinned = r.migratePinned := rfl

lemma adopt_record (d : Disk) :
    Adopted d.record (adopt d.record d).2.record ∧
      ∀ v, (adopt d.record d).1 = .ok v → (adopt d.record d).2.record = v := by
  unfold adopt
  split
  · have hsa := save_record d.record.migratePinned d
    rw [withOperational_migratePinned] at hsa
    cases hs : save d.record.migratePinned d with
    | mk r d' =>
      rw [hs] at hsa
      cases r with
      | error e =>
        simp only [bind, hs]
        refine ⟨?_, fun v hv => by cases hv⟩
        rcases hsa with ⟨h, -⟩ | h
        · exact Or.inl h
        · exact Or.inr h
      | ok u =>
        simp only [bind, hs, setPendingStartActive, pure]
        rcases hsa with ⟨-, e, he⟩ | h
        · cases he
        · refine ⟨Or.inr h, fun v hv => ?_⟩
          cases hv
          exact h
  · refine ⟨Or.inl rfl, fun v hv => ?_⟩
    cases hv
    rfl

/-- `load_runtime` at most moves a pinned connection, and it answers the record it leaves. -/
lemma loadRuntime_record (d : Disk) :
    Adopted d.record (loadRuntime d).2.record ∧
      ∀ v, (loadRuntime d).1 = .ok v → (loadRuntime d).2.record = v := by
  have hr := load_record d
  unfold loadRuntime
  cases hl : load d with
  | mk r d' =>
    rw [hl] at hr
    cases r with
    | error e =>
      simp only [bind, hl]
      exact ⟨Or.inl hr, fun v hv => by cases hv⟩
    | ok o =>
      cases o with
      | none =>
        simp only [bind, hl, fail]
        exact ⟨Or.inl hr, fun v hv => by cases hv⟩
      | some stored =>
        have hs : stored = d'.record := by
          rw [hr]
          exact load_some (by rw [hl])
        subst hs
        simp only [bind, hl]
        split
        · have h := adopt_record d'
          rw [hr] at h
          rw [← hr] at h ⊢
          exact h
        · exact ⟨Or.inl hr, fun v hv => by cases hv⟩

end Storage

end NelomaiClient.RuntimeRecord
