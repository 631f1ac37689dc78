import NelomaiClient.CorePolicy

/-!
# Journal functions of the core

The synchronous functions of `ClientCore` that read and write the runtime
record. Each runs between two await points, so no other task sees the record
between its load and its save. Fresh identifiers and the clock are arguments.
-/

namespace NelomaiClient.RuntimeJournal

open ConnectionContract CoreContract RuntimeRecord CorePolicy
open Storage

def peek : Storage (Option RuntimeState) := fun d =>
  match load d with
  | (.ok stored, d) => (.ok stored, d)
  | (.error _, d) => (.ok none, d)

variable (operationId : String) (identity : CompensationIdentity) (fresh : String)
variable (pending : StoredPendingCompensationStop) (stored : RuntimeState)

def withoutPendingStart :
    Except CoreError (Bool × Option RuntimeState) :=
  if stored.pendingStart.any (·.operationId == operationId) then
    .ok (true, some { stored with pendingStart := none })
  else .ok (false, none)

def clearPendingStart : Storage Unit := do
  let cleared ← amendStored (.ok false) (withoutPendingStart operationId)
  if cleared then setPendingStartActive false else pure ()

def cancelledCache (layer : Layer) (leaseId : Option String) (cached : StoredConnection) : Bool :=
  match leaseId with
  | some leaseId => cached.leaseId == leaseId
  | none => cached.layer == layer

/-- The change of `pending_cancel_operation_id`: the marker, the journal entry
that carries it, and the record without the caches of the cancelled start. -/
def withCancelOperation (expected : StoredPendingStart) (leaseId : Option String) (fresh : String)
    (stored : RuntimeState) :
    Except CoreError ((String × StoredPendingStart) × Option RuntimeState) :=
  if stored.pendingStart != some expected then .error unresolvedStartOperationError
  else
    let cancelOperationId := expected.cancelOperationId.getD fresh
    let updated := { expected with cancelOperationId := some cancelOperationId }
    let evicts := fun (cache : Option StoredConnection) =>
      updated.recoveryContractVersion == some 2 && cache.any (cancelledCache updated.layer leaseId)
    let changed := expected.cancelOperationId.isNone || evicts stored.savedConnection ||
      evicts stored.pinnedConnection
    .ok ((cancelOperationId, updated),
      if changed then
        some { stored with
          savedConnection := if evicts stored.savedConnection then none else stored.savedConnection
          pinnedConnection :=
            if evicts stored.pinnedConnection then none else stored.pinnedConnection
          pendingStart := some updated }
      else none)

def pendingCancelOperationId (expected : StoredPendingStart) (leaseId : Option String)
    (fresh : String) : Storage (String × StoredPendingStart) :=
  amendRuntime (withCancelOperation expected leaseId fresh)

def withStalledStop (leaseId fingerprint fresh : String) (stored : RuntimeState) :
    Except CoreError (StoredPendingStalledStop × Option RuntimeState) :=
  match stored.pendingStalledStop with
  | some pending =>
    if pending.leaseId != leaseId || pending.contractVersion != 1 ||
        pending.requestFingerprint != fingerprint then .error .storage
    else .ok (pending, none)
  | none =>
    let pending : StoredPendingStalledStop := ⟨fresh, leaseId, 1, fingerprint⟩
    .ok (pending, some { stored with pendingStalledStop := some pending })

/-- `pending_stalled_stop_identity`; the fingerprint is that of the lease. -/
def pendingStalledStopIdentity (leaseId fingerprint fresh : String) :
    Storage StoredPendingStalledStop :=
  amendRuntime (withStalledStop leaseId fingerprint fresh)

structure CompensationIdentity where
  leaseId : String
  acceptWarm : Bool
  failureCode : Option String
  redundantSessionId : Option String

def CompensationIdentity.matches : Bool :=
  pending.leaseId == identity.leaseId &&
    pending.recoveryContractVersion == identity.redundantSessionId.map (fun _ => 2) &&
    pending.redundantSessionId == identity.redundantSessionId &&
    pending.acceptWarm == identity.acceptWarm && pending.failureCode == identity.failureCode

def CompensationIdentity.journal :
    StoredPendingCompensationStop :=
  { operationId := fresh
    leaseId := identity.leaseId
    recoveryContractVersion := identity.redundantSessionId.map fun _ => 2
    redundantSessionId := identity.redundantSessionId, acceptWarm := identity.acceptWarm
    failureCode := identity.failureCode }

def withCompensationStop :
    Except CoreError (StoredPendingCompensationStop × Option RuntimeState) :=
  match stored.pendingCompensationStop with
  | some pending => if identity.matches pending then .ok (pending, none) else .error .storage
  | none =>
    .ok (identity.journal fresh,
      some { stored with pendingCompensationStop := some (identity.journal fresh) })

def pendingCompensationStopIdentity :
    Storage StoredPendingCompensationStop :=
  if identity.redundantSessionId == some "" then fail .storage
  else amendRuntime (withCompensationStop identity fresh)

/-- The change of `migrate_legacy_pending_compensation_stop` for a journal that
does not accept a warm lease yet. -/
def withAcceptedWarm (current : Option Connection) (stored : RuntimeState) :
    Except CoreError (StoredPendingCompensationStop × Option RuntimeState) :=
  let acceptsWarm :=
    match current with
    | some connection => storedConnectionAcceptsWarm connection
    | none => (storedFor stored pending.leaseId).any fun connection => connection.kind != .fixed
  if !acceptsWarm then .ok (pending, none)
  else
    match stored.pendingCompensationStop with
    | some journal =>
      if journal.operationId == pending.operationId && journal.leaseId == pending.leaseId &&
          journal.failureCode == pending.failureCode then
        .ok ({ pending with acceptWarm := true },
          some { stored with pendingCompensationStop := some { journal with acceptWarm := true } })
      else .error .storage
    | none => .error .storage

def migrateLegacyPendingCompensationStop
    (current : Option Connection) : Storage StoredPendingCompensationStop :=
  if pending.acceptWarm || !(pending.failureCode == none ||
      pending.failureCode == some "tunnel_handshake_timeout") then pure pending
  else amendRuntime (withAcceptedWarm pending current)

def withoutCompensationStop (operationId leaseId : String) (stored : RuntimeState) :
    Except CoreError (Unit × Option RuntimeState) :=
  if stored.pendingCompensationStop.any
      (fun pending => pending.operationId == operationId && pending.leaseId == leaseId) then
    .ok ((), some { stored with pendingCompensationStop := none })
  else .ok ((), none)

def clearPendingCompensationStop (operationId leaseId : String) : Storage Unit :=
  amendRuntime (withoutCompensationStop operationId leaseId)

def withoutAnyCompensationStop :
    Except CoreError (Unit × Option RuntimeState) :=
  if stored.pendingCompensationStop.isSome then
    .ok ((), some { stored with pendingCompensationStop := none })
  else .ok ((), none)

def clearPendingCompensationStopIfAbsent : Storage Unit := amendRuntime withoutAnyCompensationStop

def withoutStalledStop (operationId leaseId : String) (stored : RuntimeState) :
    Except CoreError (Unit × Option RuntimeState) :=
  if stored.pendingStalledStop.any
      (fun pending => pending.operationId == operationId && pending.leaseId == leaseId) then
    .ok ((), some { stored with pendingStalledStop := none })
  else .ok ((), none)

def clearPendingStalledStop (operationId leaseId : String) : Storage Unit :=
  amendRuntime (withoutStalledStop operationId leaseId)

def withoutDynamicCache (leaseId : String) (stored : RuntimeState) :
    Except CoreError (Unit × Option RuntimeState) :=
  if stored.savedConnection.any
      (fun saved => saved.leaseId == leaseId && saved.kind == .dynamicWarm) then
    .ok ((), some { stored with savedConnection := none })
  else .ok ((), none)

def removeDynamicRecoveryCache (leaseId : String) : Storage Unit :=
  amendRuntime (withoutDynamicCache leaseId)

def pinnedHandshakeRetryCooldownSeconds : Int := 30

def coolDown (leaseId : String) (retryNotBefore : Int) (saved : StoredConnection) :
    StoredConnection :=
  if saved.leaseId == leaseId && saved.kind == .pinned then
    { saved with validUntilUnix := some retryNotBefore }
  else saved

/-- The change of `reconcile_handshake_timeout_storage`; it always saves. -/
def withHandshakeTimeout (connection : Connection) (nowUnix : Int)
    (stored : RuntimeState) : Except CoreError (Unit × Option RuntimeState) :=
  let retryNotBefore := saturatingAddI64 nowUnix pinnedHandshakeRetryCooldownSeconds
  let pendingStart := stored.pendingStart.filter fun pending => pending.operationId != operationId
  let next :=
    if connection.pinned then
      { stored with
        savedConnection := stored.savedConnection.map (coolDown connection.leaseId retryNotBefore)
        pinnedConnection :=
          stored.pinnedConnection.map (coolDown connection.leaseId retryNotBefore) }
    else
      { stored with
        savedConnection := stored.savedConnection.filter (·.leaseId != connection.leaseId) }
  .ok ((), some { next with pendingStart := pendingStart })

/-- `reconcile_handshake_timeout_storage`, without the offline quarantine. -/
def reconcileHandshakeTimeoutStorage (connection : Connection)
    (nowUnix : Int) : Storage Unit :=
  amendStored (.ok ()) (withHandshakeTimeout operationId connection nowUnix)

def withReplacedOperation (previous replacement : String) (stored : RuntimeState) :
    Except CoreError (Unit × Option RuntimeState) :=
  match stored.pendingStart with
  | some pending =>
    if pending.operationId == previous then
      .ok ((), some { stored with
        pendingStart := some
          { pending with operationId := replacement, cancelOperationId := none } })
    else .error .storage
  | none => .error .storage

def replacePendingStartOperation (previous replacement : String) : Storage Unit :=
  amendStored (.error .storage) (withReplacedOperation previous replacement)

def journalPendingStart (entry : StoredPendingStart) : Storage Unit :=
  amendRuntime fun stored => .ok ((), some { stored with pendingStart := some entry })

/-- The change by which a start remembers its connection; a redundant one is not cached. -/
def withStartedConnection (saved : Option StoredConnection) (stored : RuntimeState) :
    RuntimeState :=
  match saved with
  | some saved =>
    if saved.kind == .pinned then
      { stored with pinnedConnection := some saved, savedConnection := none }
    else { stored with savedConnection := some saved }
  | none => { stored with savedConnection := none }

def withBootstrap (updateRequired : Bool) (connection : Option Connection) (nowUnix : Int)
    (stored : RuntimeState) : RuntimeState :=
  let stored := { stored with compatibility := some ⟨updateRequired, nowUnix⟩ }
  match connection with
  | none => stored
  | some connection =>
    if connection.pinned then
      { stored with
        pinnedConnection := stored.pinnedConnection.filter (·.leaseId == connection.leaseId) }
    else
      { stored with
        savedConnection := stored.savedConnection.filter (·.leaseId == connection.leaseId) }

def saveBootstrap (updateRequired : Bool) (connection : Option Connection) (nowUnix : Int) :
    Storage Unit :=
  amendRuntime fun stored => .ok ((), some (withBootstrap updateRequired connection nowUnix stored))

def saveUnbound : Storage Unit :=
  amendRuntime fun stored =>
    .ok ((), some { stored with savedConnection := none, pinnedConnection := none })

def hasPendingStopCleanup : Storage Bool := fun d =>
  match loadRuntime d with
  | (.ok stored, d) =>
    (.ok (stored.pendingCompensationStop.isSome ||
      stored.pendingStart.any fun pending =>
        pending.recoveryContractVersion == some 2 && pending.cancelOperationId.isSome), d)
  | (.error .signedOut, d) => (.ok false, d)
  | (.error error, d) => (.error error, d)

end NelomaiClient.RuntimeJournal
