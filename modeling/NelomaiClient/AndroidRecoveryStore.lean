import NelomaiClient.AndroidRecovery

/-!
# The recovery store of the Android service

Every function of the store reads the record, decides on a change and writes it
in one critical section. `StoreCall.change` is that decision and `StoreCall.run`
the whole function: a record that comes from another boot is first written as
stale, a change that `validateEnvelope` refuses is not written, and the storage
may fail to read or to write.
-/

namespace NelomaiClient.AndroidRecoveryStore

open AndroidRecovery

inductive StoreCode where
  | acceptedStopCapacityExceeded
  | bootIdentityUnavailable
  | connectionCleanupNotPending
  | connectionCleanupPending
  | connectionDiagnosticsEpisodeExhausted
  | connectionIntentGenerationConflict
  | connectionIntentGenerationExhausted
  | connectionIntentInvalid
  | connectionIntentNotTerminal
  | connectionIntentStillActive
  | connectionRecoveryV2Owned
  | connectionStallNotActive
  | connectionStartNotPending
  | connectionTerminalNotPending
  | connectionTransactionInvalid
  | connectionTransactionUnavailable
  | legacyRuntimeStopNotPending
  | recoveryRecordCorrupt
  | recoveryRecordReadFailed
  | recoveryRecordWriteFailed
  | redundantRecoveryInvalid
  deriving DecidableEq

def StoreCode.text : StoreCode → String
  | acceptedStopCapacityExceeded => "accepted_stop_capacity_exceeded"
  | bootIdentityUnavailable => "boot_identity_unavailable"
  | connectionCleanupNotPending => "connection_cleanup_not_pending"
  | connectionCleanupPending => "connection_cleanup_pending"
  | connectionDiagnosticsEpisodeExhausted => "connection_diagnostics_episode_exhausted"
  | connectionIntentGenerationConflict => "connection_intent_generation_conflict"
  | connectionIntentGenerationExhausted => "connection_intent_generation_exhausted"
  | connectionIntentInvalid => "connection_intent_invalid"
  | connectionIntentNotTerminal => "connection_intent_not_terminal"
  | connectionIntentStillActive => "connection_intent_still_active"
  | connectionRecoveryV2Owned => "connection_recovery_v2_owned"
  | connectionStallNotActive => "connection_stall_not_active"
  | connectionStartNotPending => "connection_start_not_pending"
  | connectionTerminalNotPending => "connection_terminal_not_pending"
  | connectionTransactionInvalid => "connection_transaction_invalid"
  | connectionTransactionUnavailable => "connection_transaction_unavailable"
  | legacyRuntimeStopNotPending => "legacy_runtime_stop_not_pending"
  | recoveryRecordCorrupt => "recovery_record_corrupt"
  | recoveryRecordReadFailed => "recovery_record_read_failed"
  | recoveryRecordWriteFailed => "recovery_record_write_failed"
  | redundantRecoveryInvalid => "redundant_recovery_invalid"

/-- Why a store function failed: it refused the transition, or the storage or the
identity of the boot could not be read or written. -/
inductive StoreFailure where
  | refused (code : StoreCode)
  | broken (code : StoreCode)

def StoreFailure.code : StoreFailure → StoreCode
  | refused code | broken code => code

inductive StoreResult where
  | success (envelope : AndroidRecoveryEnvelope)
  | failure (failure : StoreFailure)
  | thrown

inductive ReadOutcome where
  | readable
  | corrupt
  | failed

structure StoreInput where
  read : ReadOutcome
  bootCount : Option Nat
  bootCountAgain : Option Nat
  staleWritten : Bool
  written : Bool

inductive CancelSite where
  | reconciled
  | afterSync

inductive StoreCall where
  | read
  | beginStart (expectedGeneration : Nat) (template : AndroidIntentTemplate)
      (replay : AndroidStartReplay)
  | setDesiredActive (expectedGeneration : Nat) (desiredActive : Bool)
  | cancelCurrentIntent
  | cancelCurrentIntentForQuickToggle
  | completeLegacyRuntimeStop (expectedGeneration : Nat)
  | restartTerminal (expectedGeneration : Nat) (template : AndroidIntentTemplate)
      (replay : AndroidStartReplay) (stopOperationId : String)
  | recordLease (expectedGeneration : Nat) (leaseId : String)
  | activateCheckpoint (expectedGeneration : Nat)
  | recordFailure (expectedGeneration : Nat) (errorCode : String) (nextRetryAtUnix : Option Int)
      (scheduledDelaySeconds : Option Int) (serviceRecoveryUsed : Option Bool)
      (profileRetryUsed : Option Bool) (reconcileOnceUsed : Option Bool)
      (pendingAction : Option PendingAction)
  | recordTerminalCleanupRetry (expectedGeneration : Nat) (nextRetryAtUnix : Int)
      (scheduledDelaySeconds : Int)
  | clearPendingRetryAction (expectedGeneration : Nat)
  | clearCredentialProvisioningBarrier (expectedGeneration : Nat)
  | replaceStartOperation (expectedGeneration : Nat) (replay : AndroidStartReplay)
      (errorCode : String) (nextRetryAtUnix : Int) (scheduledDelaySeconds : Int)
  | closeAuthoritativeStartAndRestart (expectedGeneration : Nat) (replay : AndroidStartReplay)
      (errorCode : String) (nextRetryAtUnix : Int) (scheduledDelaySeconds : Int)
  | scheduleProfileRetryAfterCleanup (expectedGeneration : Nat) (leaseId : String)
      (stopOperationId : String) (errorCode : String) (nextRetryAtUnix : Int)
      (scheduledDelaySeconds : Int)
  | scheduleStalledRecovery (expectedGeneration : Nat) (leaseId : String)
      (stopOperationId : String) (dynamicPoolBacked : Bool) (nowUnix : Int)
  | scheduleTerminalAfterCleanup (expectedGeneration : Nat) (leaseId : String)
      (stopOperationId : String) (errorCode : String)
  | scheduleInitialTerminalAfterCleanup (expectedGeneration : Nat) (leaseId : String)
      (stopOperationId : String) (errorCode : String)
  | scheduleInitialTerminalReconcile (expectedGeneration : Nat) (errorCode : String)
  | acknowledgeInitialTerminalDiagnostic (expectedGeneration : Nat)
      (expectedDiagnosticsEpisodeId : Option Nat)
  | requireCleanup (expectedGeneration : Nat) (leaseId : String) (stopOperationId : String)
      (restartIfDesired : Bool)
  | completeCleanup (expectedGeneration : Nat)
  | completeCleanupAsTerminal (expectedGeneration : Nat)
  | completeInitialTerminalCleanup (expectedGeneration : Nat)
  | completeCleanupAndRestart (expectedGeneration : Nat) (replay : AndroidStartReplay)
  | completeCancelledStart (site : CancelSite) (expectedGeneration : Nat)
  | promotePendingRedundant (pending : AndroidLeaseTransaction)
      (transaction : AndroidRedundantTransaction)

inductive Change where
  | refuse (code : StoreCode)
  | throws
  | same
  | write (next : AndroidRecoveryEnvelope)

def generationConflict : Change := .refuse .connectionIntentGenerationConflict

def nextAndroidDiagnosticsEpisodeId (currentDiagnosticsEpisodeId nextRecoveryGeneration : Nat) :
    Option Nat :=
  (checkedIncrement currentDiagnosticsEpisodeId).map fun incremented =>
    max incremented nextRecoveryGeneration

def normalizeTemplate (params : AndroidParameters) (template : AndroidIntentTemplate) :
    Option AndroidIntentTemplate :=
  (params.uuid template.deviceId).bind fun deviceId =>
    if validateSafeValue template.accountScope then some { template with deviceId := deviceId }
    else none

def normalizeReplay (replay : AndroidStartReplay) : Option AndroidStartReplay :=
  if validateSafeValue replay.startOperationId && validateSafeValue replay.requestFingerprint &&
      replay.contractVersion > 0
  then some replay else none

variable (current : AndroidRecoveryEnvelope)

def clearDisarmedEpisode : AndroidRecoveryEnvelope :=
  { current with
    intent :=
      { current.intent with
        desiredActive := false, armedHistory := false, template := none, retry := {} }
    leaseTransaction := none }

def withoutRestart (transaction : AndroidRedundantTransaction) :
    AndroidRedundantTransaction :=
  { transaction with
    retry :=
      { transaction.retry with
        sessionStalledRecorded := false, totalLossRestartReplay := none
        totalLossIntentGeneration := none, totalLossSourceStartOperationId := none } }

/-- A redundant transaction of another boot: disarmed, with its session and its stop. -/
def disarmed (transaction : AndroidRedundantTransaction) :
    AndroidRedundantTransaction :=
  { transaction with
    desiredActive := false, candidateLeaseId := none, candidateSlot := none
    retry :=
      { transaction.retry with
        roleObservationPending := false, pendingRoleLeaseId := none, pendingRoleReason := none
        acquirePending := false, acquireOperationId := none, acquireReplaceLeaseId := none
        standbyReleasePending := false, pendingNativeSourceLeaseId := none
        pendingNativeActiveLeaseId := none, pendingNativeActiveSlot := none
        pendingNativeMembershipGeneration := none, pendingNativeSwitchReason := none
        pendingNativeSwitchAttempt := 0, sessionStalledRecorded := false
        totalLossRestartReplay := none, totalLossIntentGeneration := none
        totalLossSourceStartOperationId := none } }

def staleAfterBootChange (bootCount : Nat) :
    AndroidRecoveryEnvelope :=
  let nextGeneration := (checkedIncrement current.intent.generation).getD current.intent.generation
  { current with
    intent :=
      { current.intent with
        generation := nextGeneration, bootCount := bootCount, desiredActive := false, retry := {} }
    leaseTransaction := current.leaseTransaction.map fun transaction =>
      { transaction with generation := nextGeneration, phase := .staleCleanup }
    redundantTransaction := current.redundantTransaction.map disarmed }

def withRetry (f : AndroidRetryState → AndroidRetryState) :
    AndroidRecoveryEnvelope :=
  { current with intent := { current.intent with retry := f current.intent.retry } }

def withLease (transaction : AndroidLeaseTransaction) :
    AndroidRecoveryEnvelope :=
  { current with leaseTransaction := some transaction }

def setDesiredActiveLocked (desiredActive : Bool)
    (leaseLessRuntimeStop : Bool) : Change :=
  if current.intent.desiredActive == desiredActive && desiredActive then .same
  else if desiredActive && current.leaseTransaction.isSome then .refuse .connectionCleanupPending
  else
    match checkedIncrement current.intent.generation with
    | none =>
      if desiredActive then .refuse .connectionIntentGenerationExhausted
      else .write (cancelled current.intent.generation true)
    | some nextGeneration => .write (cancelled nextGeneration false)
where
  cancelled (nextGeneration : Nat) (exhausted : Bool) : AndroidRecoveryEnvelope :=
    { current with
      intent :=
        { current.intent with
          generation := nextGeneration, desiredActive := desiredActive
          retry :=
            { pendingAction :=
                if leaseLessRuntimeStop && !desiredActive then some .legacyRuntimeStop
                else none } }
      leaseTransaction := current.leaseTransaction.map fun transaction =>
        { transaction with
          generation := nextGeneration
          phase := if exhausted then .staleCleanup else transaction.phase
          cleanupFailureCode := if desiredActive then transaction.cleanupFailureCode else none }
      redundantTransaction := current.redundantTransaction.map fun transaction =>
        if desiredActive then transaction else withoutRestart transaction }

def fenced (expectedGeneration : Nat) (k : Change) : Change :=
  if current.intent.generation = expectedGeneration then k else generationConflict

def onLease (missing : Change)
    (k : AndroidLeaseTransaction → Change) : Change :=
  match current.leaseTransaction with
  | none => missing
  | some transaction => k transaction

def mutateTransaction (expectedGeneration : Nat)
    (mutation : AndroidLeaseTransaction → Option AndroidRecoveryEnvelope) : Change :=
  fenced current expectedGeneration <|
    onLease current (.refuse .connectionTransactionUnavailable) fun transaction =>
      if transaction.generation = expectedGeneration then
        match mutation transaction with
        | none => .refuse .connectionTransactionInvalid
        | some next => .write next
      else generationConflict

section Functions

variable (params : AndroidParameters) (bootCountAgain : Option Nat)
  (current : AndroidRecoveryEnvelope)

variable (expectedGeneration : Nat) (replay : AndroidStartReplay)

def beginStart (template : AndroidIntentTemplate)
    (replay : AndroidStartReplay) : Change :=
  if current.acceptedStops.length ≥ maxAcceptedStopCleanups then
    .refuse .acceptedStopCapacityExceeded
  else if current.redundantTransaction.isSome then .refuse .connectionRecoveryV2Owned
  else fenced current expectedGeneration <|
    if current.leaseTransaction.isSome then .refuse .connectionCleanupPending
    else
      match checkedIncrement expectedGeneration with
      | none => .refuse .connectionIntentGenerationExhausted
      | some nextGeneration =>
        match nextAndroidDiagnosticsEpisodeId current.intent.diagnosticsEpisodeId
            nextGeneration with
        | none => .refuse .connectionDiagnosticsEpisodeExhausted
        | some episode =>
          match bootCountAgain with
          | none => .refuse .bootIdentityUnavailable
          | some bootCount =>
            match normalizeTemplate params template, normalizeReplay replay with
            | some template, some replay =>
              .write
                { intent :=
                    { generation := nextGeneration
                      diagnosticsEpisodeId := episode, bootCount := bootCount, desiredActive := true
                      armedHistory := false, template := some template, retry := {} }
                  acceptedStops := current.acceptedStops, leaseTransaction := some
                    { generation := nextGeneration
                      bootCount := bootCount, phase := .startPending, leaseId := none
                      stopOperationId := none, replay := replay } }
            | _, _ => .refuse .connectionIntentInvalid

def completeLegacyRuntimeStop : Change :=
  fenced current expectedGeneration <|
    if current.intent.desiredActive || current.leaseTransaction.isSome ||
        current.intent.retry.pendingAction != some .legacyRuntimeStop
    then .refuse .legacyRuntimeStopNotPending
    else .write (clearDisarmedEpisode current)

/-- The transaction of a terminal restart: what is left is cleaned up first. -/
def restartedLease (nextGeneration : Nat) (replay : AndroidStartReplay)
    (stopOperationId : String) : Option AndroidLeaseTransaction :=
  match current.leaseTransaction with
  | some transaction =>
    let hasLease := transaction.leaseId.isSome
    if hasLease && transaction.stopOperationId.isNone && !validateSafeValue stopOperationId then none
    else some
      { transaction with
        generation := nextGeneration, phase := if hasLease then .cleanupPending else .staleCleanup
        stopOperationId :=
          if hasLease then some (transaction.stopOperationId.getD stopOperationId)
          else transaction.stopOperationId
        localStopPending := hasLease }
  | none =>
    (normalizeReplay replay).map fun replay =>
      { generation := nextGeneration
        bootCount := current.intent.bootCount, phase := .startPending, leaseId := none
        stopOperationId := none, replay := replay }

def restartTerminal (template : AndroidIntentTemplate)
    (replay : AndroidStartReplay) (stopOperationId : String) : Change :=
  if current.redundantTransaction.isSome then .refuse .connectionRecoveryV2Owned
  else fenced current expectedGeneration <|
    if !current.intent.desiredActive || current.intent.retry.lastErrorCode.isNone ||
        current.intent.retry.nextRetryAtUnix.isSome
    then .refuse .connectionIntentNotTerminal
    else
      match checkedIncrement expectedGeneration with
      | none => .refuse .connectionIntentGenerationExhausted
      | some nextGeneration =>
        match nextAndroidDiagnosticsEpisodeId current.intent.diagnosticsEpisodeId
            nextGeneration with
        | none => .refuse .connectionDiagnosticsEpisodeExhausted
        | some episode =>
          match normalizeTemplate params template with
          | none => .refuse .connectionIntentInvalid
          | some template =>
            match restartedLease current nextGeneration replay stopOperationId with
            | none => .throws
            | some transaction =>
              .write
                { current with
                  intent :=
                    { current.intent with
                      generation := nextGeneration, diagnosticsEpisodeId := episode
                      template := some template
                      retry :=
                        { pendingAction :=
                            if current.leaseTransaction.isSome then some .newOperationAfterCleanup
                            else none } }
                  leaseTransaction := some transaction }

def recordLease (leaseId : String) : Change :=
  mutateTransaction current expectedGeneration fun transaction =>
    if transaction.phase = .startPending && validateSafeValue leaseId then
      some (withLease current { transaction with phase := .leaseAcquired, leaseId := some leaseId })
    else none

def activateCheckpoint : Change :=
  mutateTransaction current expectedGeneration fun transaction =>
    if (transaction.phase = .leaseAcquired ∨ transaction.phase = .activeCheckpoint) ∧
        notBlank transaction.leaseId then
      (nextAndroidDiagnosticsEpisodeId current.intent.diagnosticsEpisodeId
        current.intent.generation).map fun episode =>
          { current with
            intent :=
              { current.intent with
                diagnosticsEpisodeId := episode, armedHistory := true, retry := {} }
            leaseTransaction := some { transaction with phase := .activeCheckpoint } }
    else none

variable (errorCode : String)

def recordFailure (nextRetryAtUnix : Option Int)
    (scheduledDelaySeconds : Option Int) (serviceRecoveryUsed profileRetryUsed reconcileOnceUsed :
      Option Bool) (pendingAction : Option PendingAction) : Change :=
  fenced current expectedGeneration <|
    if validateSafeValue errorCode then
      .write (withRetry current fun retry =>
        { retry with
          attempt := saturatingIncrement retry.attempt, nextRetryAtUnix := nextRetryAtUnix
          scheduledDelaySeconds := scheduledDelaySeconds, lastErrorCode := some errorCode
          serviceRecoveryUsed := serviceRecoveryUsed.getD retry.serviceRecoveryUsed
          profileRetryUsed := profileRetryUsed.getD retry.profileRetryUsed
          reconcileOnceUsed := reconcileOnceUsed.getD retry.reconcileOnceUsed
          pendingAction := pendingAction
          redundantTotalLossSourceStartOperationId :=
            if pendingAction = some .redundantTotalLossRestart then
              retry.redundantTotalLossSourceStartOperationId
            else none })
    else .refuse .connectionIntentInvalid

def terminalCleanup (transaction : AndroidLeaseTransaction) : Bool :=
  current.intent.desiredActive && current.intent.retry.lastErrorCode.isSome &&
    current.intent.retry.pendingAction == some .terminalAfterCleanup && transaction.phase.cleaning

def recordTerminalCleanupRetry (nextRetryAtUnix : Int)
    (scheduledDelaySeconds : Int) : Change :=
  fenced current expectedGeneration <|
    onLease current (.refuse .connectionCleanupNotPending) fun transaction =>
      if terminalCleanup current transaction then
        .write (withRetry current fun retry =>
          { retry with
            attempt := saturatingIncrement retry.attempt, nextRetryAtUnix := some nextRetryAtUnix
            scheduledDelaySeconds := some scheduledDelaySeconds })
      else .refuse .connectionCleanupNotPending

def clearPendingRetryAction : Change :=
  fenced current expectedGeneration <|
    .write (withRetry current fun retry =>
      { retry with
        pendingAction := none, redundantTotalLossSourceStartOperationId := none })

def clearCredentialProvisioningBarrier : Change :=
  fenced current expectedGeneration <|
    if current.intent.retry.lastErrorCode = some "background_credential_provision_pending" then
      .write (withRetry current fun retry =>
        { retry with
          attempt := 0, nextRetryAtUnix := none, scheduledDelaySeconds := none
          lastErrorCode := none })
    else .same

def newOperationRetry (nextRetryAtUnix scheduledDelaySeconds : Int)
    (retry : AndroidRetryState) : AndroidRetryState :=
  { retry with
    attempt := saturatingIncrement retry.attempt, nextRetryAtUnix := some nextRetryAtUnix
    scheduledDelaySeconds := some scheduledDelaySeconds, lastErrorCode := some errorCode
    pendingAction := some .validateCapability, redundantTotalLossSourceStartOperationId := none }

def replaceStartOperation (nextRetryAtUnix scheduledDelaySeconds : Int) : Change :=
  fenced current expectedGeneration <|
    onLease current (.refuse .connectionTransactionUnavailable) fun transaction =>
      match normalizeReplay replay with
      | none => .refuse .connectionIntentInvalid
      | some replay =>
        if validateSafeValue errorCode then
          .write (withLease
            (withRetry current (newOperationRetry errorCode nextRetryAtUnix scheduledDelaySeconds))
            { transaction with
              phase := .startPending, leaseId := none, stopOperationId := none, replay := replay
              localStopPending := false })
        else .throws

def closeAuthoritativeStartAndRestart (nextRetryAtUnix scheduledDelaySeconds : Int) : Change :=
  fenced current expectedGeneration <|
    onLease current (.refuse .connectionTransactionUnavailable) fun transaction =>
      if !current.intent.desiredActive || transaction.phase != .startPending ||
          transaction.leaseId.isSome
      then .refuse .connectionStartNotPending
      else
        match normalizeReplay replay with
        | none => .refuse .connectionIntentInvalid
        | some replay =>
          if validateSafeValue errorCode then
            .write (withLease
              (withRetry current
                (newOperationRetry errorCode nextRetryAtUnix scheduledDelaySeconds))
              { transaction with replay := replay, localStopPending := false })
          else .throws

def scheduleProfileRetryAfterCleanup (leaseId stopOperationId
    errorCode : String) (nextRetryAtUnix scheduledDelaySeconds : Int) : Change :=
  fenced current expectedGeneration <|
    onLease current (.refuse .connectionTransactionUnavailable) fun transaction =>
      if !validateSafeValue leaseId then .refuse .connectionIntentInvalid
      else if !current.intent.desiredActive || transaction.leaseId != some leaseId ||
          !(transaction.phase = .leaseAcquired ∨ transaction.phase = .activeCheckpoint)
      then .refuse .connectionCleanupNotPending
      else if validateSafeValue errorCode && validateSafeValue stopOperationId then
        .write (withLease
          (withRetry current fun retry =>
            { retry with
              attempt := saturatingIncrement retry.attempt, nextRetryAtUnix := some nextRetryAtUnix
              scheduledDelaySeconds := some scheduledDelaySeconds, lastErrorCode := some errorCode
              profileRetryUsed := true, pendingAction := some .newOperationAfterCleanup })
          { transaction with
            phase := .cleanupPending, stopOperationId := some stopOperationId
            localStopPending := true })
      else .throws

def stallScheduled (leaseId : String) (transaction : AndroidLeaseTransaction) : Bool :=
  transaction.phase == .cleanupPending && transaction.leaseId == some leaseId &&
    current.intent.retry.pendingAction == some .newOperationAfterCleanup &&
    current.intent.retry.lastErrorCode == some "tunnel_data_plane_stalled"

def scheduleStalledRecovery (leaseId stopOperationId : String)
    (dynamicPoolBacked : Bool) (nowUnix : Int) : Change :=
  fenced current expectedGeneration <|
    onLease current (.refuse .connectionTransactionUnavailable) fun transaction =>
      if stallScheduled current leaseId transaction then .same
      else if !current.intent.desiredActive || !current.intent.armedHistory ||
          transaction.phase != .activeCheckpoint || transaction.leaseId != some leaseId
      then .refuse .connectionStallNotActive
      else if !(validateSafeValue leaseId && validateSafeValue stopOperationId) then
        .refuse .connectionIntentInvalid
      else
        match nextAndroidDiagnosticsEpisodeId current.intent.diagnosticsEpisodeId
            current.intent.generation with
        | none => .refuse .connectionDiagnosticsEpisodeExhausted
        | some episode =>
          .write
            { current with
              intent :=
                { current.intent with
                  diagnosticsEpisodeId := episode
                  retry :=
                    { nextRetryAtUnix := some (max nowUnix 0)
                      scheduledDelaySeconds := some 0
                      lastErrorCode := some "tunnel_data_plane_stalled"
                      pendingAction := some .newOperationAfterCleanup } }
              leaseTransaction := some
                { transaction with
                  phase := .cleanupPending, leaseId := some leaseId
                  stopOperationId := some stopOperationId, localStopPending := true
                  cleanupFailureCode :=
                    if dynamicPoolBacked then some "tunnel_data_plane_stalled" else none } }

/-- The transaction that a terminal failure leaves to be cleaned up, if its stop has a safe name. -/
def stoppedLease (transaction : AndroidLeaseTransaction) (stopOperationId : String) :
    Option AndroidLeaseTransaction :=
  if transaction.stopOperationId.isNone && !validateSafeValue stopOperationId then none
  else some
    { transaction with
      phase := .cleanupPending
      stopOperationId := some (transaction.stopOperationId.getD stopOperationId)
      localStopPending := true }

def scheduleTerminalAfterCleanup (leaseId stopOperationId
    errorCode : String) : Change :=
  fenced current expectedGeneration <|
    onLease current (.refuse .connectionTransactionUnavailable) fun transaction =>
      if !validateSafeValue leaseId then .refuse .connectionIntentInvalid
      else if !current.intent.desiredActive || !current.intent.armedHistory ||
          transaction.leaseId != some leaseId || transaction.phase = .startPending
      then .refuse .connectionCleanupNotPending
      else
        match validateSafeValue errorCode, stoppedLease transaction stopOperationId with
        | true, some transaction =>
          .write (withLease
            (withRetry current fun retry =>
              { retry with
                attempt := saturatingIncrement retry.attempt, nextRetryAtUnix := none
                scheduledDelaySeconds := none, lastErrorCode := some errorCode
                pendingAction := some .terminalAfterCleanup })
            transaction)
        | _, _ => .throws

def initialTerminal : AndroidRecoveryEnvelope :=
  { current with
    intent :=
      { current.intent with
        desiredActive := false
        retry :=
          { current.intent.retry with
            attempt := saturatingIncrement current.intent.retry.attempt, nextRetryAtUnix := none
            scheduledDelaySeconds := none, lastErrorCode := some errorCode
            terminalDiagnosticPending := true, pendingAction := some .initialTerminalReportPending
            redundantTotalLossSourceStartOperationId := none } } }

def scheduleInitialTerminalAfterCleanup (leaseId stopOperationId
    errorCode : String) : Change :=
  fenced current expectedGeneration <|
    onLease current (.refuse .connectionTransactionUnavailable) fun transaction =>
      if !validateSafeValue leaseId then .refuse .connectionIntentInvalid
      else if !current.intent.desiredActive || current.intent.armedHistory ||
          transaction.leaseId != some leaseId ||
          !(transaction.phase = .leaseAcquired ∨ transaction.phase.cleaning)
      then .refuse .connectionCleanupNotPending
      else
        match validateSafeValue errorCode, stoppedLease transaction stopOperationId with
        | true, some transaction => .write (withLease (initialTerminal current errorCode) transaction)
        | _, _ => .throws

def scheduleInitialTerminalReconcile : Change :=
  fenced current expectedGeneration <|
    onLease current (.refuse .connectionTransactionUnavailable) fun transaction =>
      if !current.intent.desiredActive || current.intent.armedHistory ||
          transaction.phase != .startPending || transaction.leaseId.isSome
      then .refuse .connectionStartNotPending
      else if !validateSafeValue errorCode then .refuse .connectionIntentInvalid
      else
        match checkedIncrement expectedGeneration with
        | none => .refuse .connectionIntentGenerationExhausted
        | some nextGeneration =>
          let next := initialTerminal current errorCode
          .write
            { next with
              intent := { next.intent with generation := nextGeneration }
              leaseTransaction := some { transaction with generation := nextGeneration } }

def acknowledgeInitialTerminalDiagnostic
    (expectedDiagnosticsEpisodeId : Option Nat) : Change :=
  fenced current expectedGeneration <|
    if expectedDiagnosticsEpisodeId.any (· != current.intent.diagnosticsEpisodeId) then
      generationConflict
    else if current.intent.desiredActive || current.intent.armedHistory ||
        current.intent.retry.lastErrorCode.isNone ||
        !current.intent.retry.terminalDiagnosticPending ||
        current.intent.retry.pendingAction != some .initialTerminalReportPending
    then .refuse .connectionTerminalNotPending
    else
      .write (withRetry current fun retry =>
        { retry with
          terminalDiagnosticPending := false, pendingAction := some .initialTerminalAfterCleanup })

def requireCleanup (leaseId stopOperationId : String)
    (restartIfDesired : Bool) : Change :=
  mutateTransaction current expectedGeneration fun transaction =>
    if validateSafeValue leaseId &&
        (transaction.leaseId.isNone || transaction.leaseId == some leaseId) then
      (stoppedLease transaction stopOperationId).map fun stopped =>
        withLease
          (if restartIfDesired && current.intent.desiredActive then
            withRetry current fun retry =>
              { retry with pendingAction := some .newOperationAfterCleanup }
          else current)
          { stopped with bootCount := current.intent.bootCount, leaseId := some leaseId }
    else none

def completeCleanup : Change :=
  fenced current expectedGeneration <|
    onLease current .same fun transaction =>
      if transaction.phase.cleaning then
        .write (if current.intent.desiredActive then { current with leaseTransaction := none }
          else clearDisarmedEpisode current)
      else .refuse .connectionCleanupNotPending

def completeCleanupAsTerminal : Change :=
  fenced current expectedGeneration <|
    onLease current (.refuse .connectionCleanupNotPending) fun transaction =>
      if terminalCleanup current transaction then
        .write
          { withRetry current fun retry =>
              { retry with
                nextRetryAtUnix := none, scheduledDelaySeconds := none, pendingAction := none } with
            leaseTransaction := none }
      else .refuse .connectionCleanupNotPending

def completeInitialTerminalCleanup : Change :=
  fenced current expectedGeneration <|
    onLease current (.refuse .connectionCleanupNotPending) fun transaction =>
      if current.intent.desiredActive || current.intent.armedHistory ||
          current.intent.retry.pendingAction != some .initialTerminalAfterCleanup ||
          !(transaction.phase.cleaning ||
            transaction.phase == .startPending && transaction.leaseId.isNone)
      then .refuse .connectionCleanupNotPending
      else .write (clearDisarmedEpisode current)

def completeCleanupAndRestart : Change :=
  fenced current expectedGeneration <|
    onLease current (.refuse .connectionCleanupNotPending) fun transaction =>
      if !current.intent.desiredActive || !transaction.phase.cleaning then
        .refuse .connectionCleanupNotPending
      else
        match normalizeReplay replay with
        | none => .refuse .connectionIntentInvalid
        | some replay =>
          .write (withLease
            (withRetry current fun retry => { retry with pendingAction := some .validateCapability })
            { generation := current.intent.generation
              bootCount := current.intent.bootCount, phase := .startPending, leaseId := none
              stopOperationId := none, replay := replay })

def completeCancelledStart : Change :=
  fenced current expectedGeneration <|
    onLease current .same fun transaction =>
      if transaction.phase != .startPending || transaction.leaseId.isSome then
        .refuse .connectionStartNotPending
      else if current.intent.desiredActive then .refuse .connectionIntentStillActive
      else .write (clearDisarmedEpisode current)

def refreshedTemplate (template other : AndroidIntentTemplate) : AndroidIntentTemplate :=
  { template with
    options :=
      { template.options with
        dns46DotHostname := other.options.dns46DotHostname
        dns46DotEndpointIpv4s := other.options.dns46DotEndpointIpv4s
        dns46DotExpiresAtUnix := other.options.dns46DotExpiresAtUnix } }

def promotePendingRedundant (pending : AndroidLeaseTransaction)
    (transaction : AndroidRedundantTransaction) : Change :=
  if !current.intent.desiredActive || current.intent.generation != pending.generation ||
      current.leaseTransaction != some pending || current.redundantTransaction.isSome ||
      pending.phase != .startPending || pending.leaseId.isSome ||
      pending.replay.contractVersion != 2 || !transaction.desiredActive ||
      current.intent.template.map (refreshedTemplate · transaction.template) !=
        some transaction.template ||
      transaction.startOperationId != pending.startOperationId ||
      transaction.startRequestFingerprint != pending.replay.requestFingerprint ||
      transaction.template.reserveEnabled != some transaction.startReserveEnabled
  then generationConflict
  else
    .write
      { current with
        intent := { current.intent with template := some transaction.template, retry := {} }
        leaseTransaction := none, redundantTransaction := some transaction }

end Functions
variable (params : AndroidParameters)

def StoreCall.change (bootCountAgain : Option Nat)
    (call : StoreCall) (current : AndroidRecoveryEnvelope) : Change :=
  match call with
  | .read => .same
  | .beginStart expectedGeneration template replay =>
    AndroidRecoveryStore.beginStart params bootCountAgain current expectedGeneration template replay
  | .setDesiredActive expectedGeneration desiredActive =>
    fenced current expectedGeneration (setDesiredActiveLocked current desiredActive false)
  | .cancelCurrentIntent => setDesiredActiveLocked current false false
  | .cancelCurrentIntentForQuickToggle =>
    setDesiredActiveLocked current false current.leaseTransaction.isNone
  | .completeLegacyRuntimeStop expectedGeneration =>
    AndroidRecoveryStore.completeLegacyRuntimeStop current expectedGeneration
  | .restartTerminal expectedGeneration template replay stopOperationId =>
    AndroidRecoveryStore.restartTerminal params current expectedGeneration template replay
      stopOperationId
  | .recordLease expectedGeneration leaseId =>
    AndroidRecoveryStore.recordLease current expectedGeneration leaseId
  | .activateCheckpoint expectedGeneration =>
    AndroidRecoveryStore.activateCheckpoint current expectedGeneration
  | .recordFailure expectedGeneration errorCode nextRetryAtUnix scheduledDelaySeconds
      serviceRecoveryUsed profileRetryUsed reconcileOnceUsed pendingAction =>
    AndroidRecoveryStore.recordFailure current expectedGeneration errorCode nextRetryAtUnix
      scheduledDelaySeconds serviceRecoveryUsed profileRetryUsed reconcileOnceUsed pendingAction
  | .recordTerminalCleanupRetry expectedGeneration nextRetryAtUnix scheduledDelaySeconds =>
    AndroidRecoveryStore.recordTerminalCleanupRetry current expectedGeneration nextRetryAtUnix
      scheduledDelaySeconds
  | .clearPendingRetryAction expectedGeneration =>
    AndroidRecoveryStore.clearPendingRetryAction current expectedGeneration
  | .clearCredentialProvisioningBarrier expectedGeneration =>
    AndroidRecoveryStore.clearCredentialProvisioningBarrier current expectedGeneration
  | .replaceStartOperation expectedGeneration replay errorCode nextRetryAtUnix
      scheduledDelaySeconds =>
    AndroidRecoveryStore.replaceStartOperation current expectedGeneration replay errorCode
      nextRetryAtUnix scheduledDelaySeconds
  | .closeAuthoritativeStartAndRestart expectedGeneration replay errorCode nextRetryAtUnix
      scheduledDelaySeconds =>
    AndroidRecoveryStore.closeAuthoritativeStartAndRestart current expectedGeneration replay
      errorCode nextRetryAtUnix scheduledDelaySeconds
  | .scheduleProfileRetryAfterCleanup expectedGeneration leaseId stopOperationId errorCode
      nextRetryAtUnix scheduledDelaySeconds =>
    AndroidRecoveryStore.scheduleProfileRetryAfterCleanup current expectedGeneration leaseId
      stopOperationId errorCode nextRetryAtUnix scheduledDelaySeconds
  | .scheduleStalledRecovery expectedGeneration leaseId stopOperationId dynamicPoolBacked nowUnix =>
    AndroidRecoveryStore.scheduleStalledRecovery current expectedGeneration leaseId
      stopOperationId dynamicPoolBacked nowUnix
  | .scheduleTerminalAfterCleanup expectedGeneration leaseId stopOperationId errorCode =>
    AndroidRecoveryStore.scheduleTerminalAfterCleanup current expectedGeneration leaseId
      stopOperationId errorCode
  | .scheduleInitialTerminalAfterCleanup expectedGeneration leaseId stopOperationId errorCode =>
    AndroidRecoveryStore.scheduleInitialTerminalAfterCleanup current expectedGeneration leaseId
      stopOperationId errorCode
  | .scheduleInitialTerminalReconcile expectedGeneration errorCode =>
    AndroidRecoveryStore.scheduleInitialTerminalReconcile current expectedGeneration errorCode
  | .acknowledgeInitialTerminalDiagnostic expectedGeneration expectedDiagnosticsEpisodeId =>
    AndroidRecoveryStore.acknowledgeInitialTerminalDiagnostic current expectedGeneration
      expectedDiagnosticsEpisodeId
  | .requireCleanup expectedGeneration leaseId stopOperationId restartIfDesired =>
    AndroidRecoveryStore.requireCleanup current expectedGeneration leaseId stopOperationId
      restartIfDesired
  | .completeCleanup expectedGeneration =>
    AndroidRecoveryStore.completeCleanup current expectedGeneration
  | .completeCleanupAsTerminal expectedGeneration =>
    AndroidRecoveryStore.completeCleanupAsTerminal current expectedGeneration
  | .completeInitialTerminalCleanup expectedGeneration =>
    AndroidRecoveryStore.completeInitialTerminalCleanup current expectedGeneration
  | .completeCleanupAndRestart expectedGeneration replay =>
    AndroidRecoveryStore.completeCleanupAndRestart current expectedGeneration replay
  | .completeCancelledStart _ expectedGeneration =>
    AndroidRecoveryStore.completeCancelledStart current expectedGeneration
  | .promotePendingRedundant pending transaction =>
    AndroidRecoveryStore.promotePendingRedundant current pending transaction

/-- `persist`: the record is written if it is valid and the storage takes it. -/
def persist (written : Bool) (envelope : AndroidRecoveryEnvelope) :
    Option StoreFailure :=
  if validateEnvelope params envelope then
    if written then none else some (.broken .recoveryRecordWriteFailed)
  else
    some (.refused (if envelope.redundantTransaction.isSome then .redundantRecoveryInvalid
      else .connectionIntentInvalid))

def fromOtherBoot (current : AndroidRecoveryEnvelope) (bootCount : Nat) : Bool :=
  current.intent.bootCount != bootCount ||
    current.leaseTransaction.any fun transaction =>
      transaction.phase != .staleCleanup && transaction.bootCount != bootCount

def readLocked (i : StoreInput) (stored : Option AndroidRecoveryEnvelope) :
    Except StoreFailure AndroidRecoveryEnvelope × Option AndroidRecoveryEnvelope :=
  match i.read with
  | .corrupt => (.error (.broken .recoveryRecordCorrupt), stored)
  | .failed => (.error (.broken .recoveryRecordReadFailed), stored)
  | .readable =>
    match stored, i.bootCount with
    | none, none => (.error (.broken .bootIdentityUnavailable), stored)
    | none, some bootCount => (.ok (.empty bootCount), stored)
    | some current, none =>
      let stale := staleAfterBootChange current current.intent.bootCount
      match persist params i.staleWritten stale with
      | none => (.error (.broken .bootIdentityUnavailable), some stale)
      | some _ => (.error (.broken .recoveryRecordWriteFailed), stored)
    | some current, some bootCount =>
      if fromOtherBoot current bootCount then
        let stale := staleAfterBootChange current bootCount
        match persist params i.staleWritten stale with
        | none => (.ok stale, some stale)
        | some failure => (.error failure, stored)
      else (.ok current, stored)

def StoreCall.run (call : StoreCall) (i : StoreInput)
    (stored : Option AndroidRecoveryEnvelope) : StoreResult × Option AndroidRecoveryEnvelope :=
  match readLocked params i stored with
  | (.error failure, stored) => (.failure failure, stored)
  | (.ok current, stored) =>
    match call.change params i.bootCountAgain current with
    | .refuse code => (.failure (.refused code), stored)
    | .throws => (.thrown, stored)
    | .same => (.success current, stored)
    | .write next =>
      match persist params i.written next with
      | none => (.success next, some next)
      | some failure => (.failure failure, stored)

section Outcomes

variable {params : AndroidParameters} {call : StoreCall}
  {stored stored' : Option AndroidRecoveryEnvelope}

inductive Drifted : Option AndroidRecoveryEnvelope → Option AndroidRecoveryEnvelope → Prop
  | refl (stored : Option AndroidRecoveryEnvelope) : Drifted stored stored
  | stale (current : AndroidRecoveryEnvelope) (bootCount : Nat) :
    Drifted (some current) (some (staleAfterBootChange current bootCount))

inductive Reads : Option AndroidRecoveryEnvelope → AndroidRecoveryEnvelope → Prop
  | empty (bootCount : Nat) : Reads none (.empty bootCount)
  | current (current : AndroidRecoveryEnvelope) : Reads (some current) current
  | stale (current : AndroidRecoveryEnvelope) (bootCount : Nat) :
    Reads (some current) (staleAfterBootChange current bootCount)

inductive Ran (params : AndroidParameters) (call : StoreCall)
    (stored : Option AndroidRecoveryEnvelope) :
    StoreResult → Option AndroidRecoveryEnvelope → Prop
  | broken (code : StoreCode) {stored' : Option AndroidRecoveryEnvelope}
    (hdrift : Drifted stored stored') : Ran params call stored (.failure (.broken code)) stored'
  | refused (code : StoreCode) {stored' : Option AndroidRecoveryEnvelope}
    (hdrift : Drifted stored stored') : Ran params call stored (.failure (.refused code)) stored'
  | thrown {stored' : Option AndroidRecoveryEnvelope} (hdrift : Drifted stored stored') :
    Ran params call stored .thrown stored'
  | same {current : AndroidRecoveryEnvelope} {stored' : Option AndroidRecoveryEnvelope}
    (bootCount : Option Nat) (hread : Reads stored current) (hdrift : Drifted stored stored')
    (hstored : stored' = none ∨ stored' = some current)
    (hchange : call.change params bootCount current = .same) :
    Ran params call stored (.success current) stored'
  | wrote {current next : AndroidRecoveryEnvelope} (bootCount : Option Nat)
    (hread : Reads stored current) (hchange : call.change params bootCount current = .write next)
    (hvalid : validateEnvelope params next = true) :
    Ran params call stored (.success next) (some next)

lemma persist_none (h : persist params written env = none) :
    validateEnvelope params env = true := by
  unfold persist at h
  split at h
  · assumption
  · cases h

lemma readLocked_cases (h : readLocked params i stored = (result, stored')) :
    Drifted stored stored' ∧
      ∀ current, result = .ok current →
        Reads stored current ∧ (stored' = none ∨ stored' = some current) := by
  unfold readLocked at h
  split at h
  · cases h
    exact ⟨.refl stored, fun _ h => nomatch h⟩
  · cases h
    exact ⟨.refl stored, fun _ h => nomatch h⟩
  · split at h
    · cases h
      exact ⟨.refl none, fun _ h => nomatch h⟩
    · cases h
      refine ⟨.refl none, fun current h => ?_⟩
      cases h
      exact ⟨.empty _, .inl rfl⟩
    · dsimp only at h
      split at h
      · cases h
        exact ⟨.stale _ _, fun _ h => nomatch h⟩
      · cases h
        exact ⟨.refl _, fun _ h => nomatch h⟩
    · split at h
      · dsimp only at h
        split at h
        · cases h
          refine ⟨.stale _ _, fun current h => ?_⟩
          cases h
          exact ⟨.stale _ _, .inr rfl⟩
        · cases h
          exact ⟨.refl _, fun _ h => nomatch h⟩
      · cases h
        refine ⟨.refl _, fun current h => ?_⟩
        cases h
        exact ⟨.current _, .inr rfl⟩

lemma run_cases (h : call.run params i stored = (result, stored')) :
    Ran params call stored result stored' := by
  unfold StoreCall.run at h
  split at h
  · rename_i failure stored1 hr
    cases h
    have hd := (readLocked_cases hr).1
    cases failure with
    | refused code => exact .refused code hd
    | broken code => exact .broken code hd
  · rename_i current stored1 hr
    obtain ⟨hd, hcu⟩ := readLocked_cases hr
    obtain ⟨hre, hs⟩ := hcu current rfl
    split at h
    · cases h
      exact .refused _ hd
    · cases h
      exact .thrown hd
    · rename_i hc
      cases h
      exact .same _ hre hd hs hc
    · rename_i next hc
      split at h
      · rename_i hp
        cases h
        exact .wrote _ hre hc (persist_none hp)
      · rename_i failure hp
        cases h
        cases failure with
        | refused code => exact .refused code hd
        | broken code => exact .broken code hd

end Outcomes

end NelomaiClient.AndroidRecoveryStore
