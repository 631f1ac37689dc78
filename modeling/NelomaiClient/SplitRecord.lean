import Mathlib.Data.List.Destutter
import Mathlib.Data.List.Sort
import NelomaiClient.CorePolicy

/-!
# The split-tunnel half of the record

What the split-tunnel store loads and saves, how a cleanup of the runtime
clears the record, and the bookkeeping of policies that the core keeps in it. A
save normalises what it writes and looks at nothing but the record it replaces.
-/

namespace NelomaiClient.SplitRecord

open RuntimeRecord CorePolicy

def maxPendingApplyResults : ℕ := 32

def maxDomainResolutions : ℕ := 512

def dropResult (results : List SplitTunnelApplyResult) : List SplitTunnelApplyResult :=
  results.eraseIdx ((results.findIdx? (·.status == .applied)).getD 0)

def trimResults (results : List SplitTunnelApplyResult) : List SplitTunnelApplyResult :=
  dropResult^[results.length - maxPendingApplyResults] results

def tidyResolutions (resolutions : List StoredSplitTunnelDomainResolution) :
    List StoredSplitTunnelDomainResolution :=
  ((resolutions.insertionSort (·.domain ≤ ·.domain)).destutter (·.domain ≠ ·.domain)).take
    maxDomainResolutions

def normalized (state : StoredSplitTunnelState) : StoredSplitTunnelState :=
  { state with
    pendingApplyResults := trimResults state.pendingApplyResults
    domainResolutions := tidyResolutions state.domainResolutions }

lemma dropResult_length (h : results ≠ []) :
    (dropResult results).length = results.length - 1 := by
  have hp : 0 < results.length := List.length_pos_iff.mpr h
  unfold dropResult
  rw [List.length_eraseIdx_of_lt]
  cases hi : results.findIdx? (·.status == .applied) with
  | none => exact hp
  | some i => exact (List.findIdx?_eq_some_iff_getElem.mp hi).1

lemma iterate_dropResult_length (n : ℕ) (h : n ≤ results.length) :
    (dropResult^[n] results).length = results.length - n := by
  induction n generalizing results with
  | zero => rfl
  | succ n ih =>
    have hn : results ≠ [] := by
      rintro rfl
      exact absurd h (Nat.not_succ_le_zero n)
    have hl := dropResult_length hn
    rw [Function.iterate_succ_apply, ih (by omega), hl]
    omega

lemma trimResults_length (results : List SplitTunnelApplyResult) :
    (trimResults results).length ≤ maxPendingApplyResults := by
  unfold trimResults
  rw [iterate_dropResult_length _ (Nat.sub_le _ _)]
  omega

lemma trimResults_of_le (h : results.length ≤ maxPendingApplyResults) :
    trimResults results = results := by
  unfold trimResults
  rw [Nat.sub_eq_zero_of_le h]
  rfl

def load : Storage StoredSplitTunnelState := fun d =>
  match Storage.outcome d with
  | (.done, d) => (.ok d.record.appliedSplitTunnel, d)
  | (_, d) => (.error .storage, d)

def withSplit (record : RuntimeState) (state : StoredSplitTunnelState) : RuntimeState :=
  { record with appliedSplitTunnel := state }

def replaceRecord (next : RuntimeState) : Storage Unit := fun d =>
  match Storage.outcome d with
  | (.done, d) => (.ok (), { d with record := next })
  | (.late, d) => (.error .storage, { d with record := next })
  | (_, d) => (.error .storage, d)

def save (state : StoredSplitTunnelState) : Storage Unit := fun d =>
  replaceRecord (withSplit d.record (normalized state)) d

def delete : Storage Unit := save {}

structure RuntimeCleanupOperation where
  operationId : String
  requestFingerprint : Option String
  contractVersion : Option Nat
  deriving DecidableEq

structure RuntimeCleanupSnapshot where
  slot : RuntimeSlot
  runtimeVersion : String
  authScope : Option RuntimeAuthScope
  leaseIds : List String
  operations : List RuntimeCleanupOperation
  /-- Whether the record is cleanup input only. -/
  cleanupOnly : Bool
  deriving DecidableEq

def cleanupLeases (state : RuntimeState) : List String :=
  ((state.savedConnection.map (·.leaseId)).toList ++
    (state.pinnedConnection.map (·.leaseId)).toList ++
    (state.pendingStalledStop.map (·.leaseId)).toList ++
    (state.pendingCompensationStop.map (·.leaseId)).toList).foldl
    (fun found leaseId => if found.contains leaseId then found else found ++ [leaseId]) []

def startOperations (pending : StoredPendingStart) : List RuntimeCleanupOperation :=
  ⟨pending.operationId, pending.requestFingerprint, pending.recoveryContractVersion⟩ ::
    (pending.cancelOperationId.map fun operationId => ⟨operationId, none, none⟩).toList

def stalledOperation (pending : StoredPendingStalledStop) : RuntimeCleanupOperation :=
  ⟨pending.operationId, some pending.requestFingerprint, some pending.contractVersion⟩

def compensationOperation (pending : StoredPendingCompensationStop) : RuntimeCleanupOperation :=
  ⟨pending.operationId, none, none⟩

def pushOperation (found : List RuntimeCleanupOperation) (operation : RuntimeCleanupOperation) :
    List RuntimeCleanupOperation :=
  if found.any (·.operationId == operation.operationId) then found else found ++ [operation]

def cleanupOperations (state : RuntimeState) : List RuntimeCleanupOperation :=
  (state.pendingStart.toList.flatMap startOperations ++
    (state.pendingStalledStop.map stalledOperation).toList ++
    (state.pendingCompensationStop.map compensationOperation).toList).foldl pushOperation []

def cleanupSnapshot (state : RuntimeState) : RuntimeCleanupSnapshot :=
  ⟨state.slot, state.runtimeVersion, state.authScope, cleanupLeases state,
    cleanupOperations state, state.cleanupOnly⟩

def operationallyEmpty (state : RuntimeState) : Bool :=
  state.savedConnection.isNone && state.pinnedConnection.isNone && state.pendingStart.isNone &&
    state.pendingStalledStop.isNone && state.pendingCompensationStop.isNone &&
    state.compatibility.isNone && decide (state.appliedSplitTunnel = {})

def completeLegacyCleanup (state : RuntimeState) : RuntimeState :=
  { state with
    savedConnection := none, pinnedConnection := none, pendingStart := none
    pendingStalledStop := none, pendingCompensationStop := none, compatibility := none
    appliedSplitTunnel := {}, cleanupOnly := false, authScope := none }

def completeCleanup (frozen : RuntimeCleanupSnapshot) : Storage Unit := fun d =>
  if cleanupSnapshot d.record = frozen then replaceRecord (completeLegacyCleanup d.record) d
  else (.error .storage, d)

def bindEmptyScope (scope : RuntimeAuthScope) : Storage Unit := fun d =>
  if d.record.cleanupOnly || !operationallyEmpty d.record || d.record.slot ≠ scope.identity.slot ||
      d.record.runtimeVersion ≠ scope.identity.runtimeVersion then (.error .storage, d)
  else replaceRecord { d.record with authScope := some scope } d

lemma load_record (d : Disk) : (load d).2.record = d.record := by
  unfold load Storage.outcome
  cases d.outcomes.headD .done <;> rfl

lemma load_value (h : (load d).1 = .ok state) : state = d.record.appliedSplitTunnel := by
  unfold load Storage.outcome at h
  cases ho : d.outcomes.headD .done <;> simp only [ho] at h <;> cases h
  rfl

lemma replaceRecord_record (next : RuntimeState) (d : Disk) :
    (replaceRecord next d).2.record = d.record ∨ (replaceRecord next d).2.record = next := by
  unfold replaceRecord Storage.outcome
  cases d.outcomes.headD .done with
  | done | late => exact Or.inr rfl
  | absent | lost => exact Or.inl rfl

section Policies

def revisionPollSeconds : Int := 5 * 60

def fullSyncSeconds : Int := 24 * 60 * 60

def failedPolicyRetrySeconds : Int := 60 * 60

variable (state : StoredSplitTunnelState) (policy : SplitTunnelPolicy)

def policyRetryDue
    (nowUnix : Int) : Bool :=
  state.failedPolicyHash ≠ some policy.policyHash ||
    state.failedPolicyRetryAfterUnix.all fun retryAfter => decide (retryAfter ≤ nowUnix)

def markPolicyFailure
    (nowUnix : Int) : StoredSplitTunnelState :=
  { state with
    failedPolicyHash := some policy.policyHash
    failedPolicyRetryAfterUnix := some (saturatingAddI64 nowUnix failedPolicyRetrySeconds) }

def clearPolicyFailure : StoredSplitTunnelState :=
  { state with failedPolicyHash := none, failedPolicyRetryAfterUnix := none }

def clearStalePolicyFailure :
    StoredSplitTunnelState :=
  if state.failedPolicyHash ≠ some policy.policyHash then clearPolicyFailure state else state

def rememberPreviousWorkingPolicy : StoredSplitTunnelState :=
  if state.cachedPolicy.any fun policy => state.workingPolicyHash == some policy.policyHash then
    { state with previousWorkingPolicy := state.cachedPolicy }
  else state

def workingPolicy : Option SplitTunnelPolicy :=
  state.workingPolicyHash.bind fun hash =>
    (state.cachedPolicy.toList ++ state.previousWorkingPolicy.toList).find?
      fun policy => policy.policyHash == hash

end Policies

end NelomaiClient.SplitRecord
