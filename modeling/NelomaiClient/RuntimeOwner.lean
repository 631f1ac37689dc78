import Mathlib.Algebra.GroupWithZero.Nat
import Mathlib.Data.List.Infix
import NelomaiClient.SplitRecord

/-!
# The owner of a runtime record

`RuntimeRecordOwner` is the only writer of one runtime record. Every operation
takes the gate, loads the record, decides, and saves at most once; the backend
may fail at each access, and a failing save may have replaced the record. Seven
operations write: two of the runtime's stores and five that belong to cleanup
and admission. A decision is a function of the record alone, so what a whole
history can do to the scope follows from what one decision can do.
-/

namespace NelomaiClient.RuntimeOwner

open RuntimeRecord SplitRecord

inductive StorageError where
  | recoveryRequired (reason : String)
  | splitTunnelStateTooLarge (limitBytes : ℕ)
  | backend
  deriving DecidableEq

def maxRuntimeVersionBytes : ℕ := 64

def validComponent (component : List Char) : Bool :=
  !component.isEmpty && component.all Char.isDigit

/-- `validate_runtime_version`: `N.N.N` and at most one `-suffix` or `+suffix`. -/
def validRuntimeVersion (value : String) : Bool :=
  let core := value.toList.takeWhile fun c => c != '-' && c != '+'
  let suffix := value.toList.dropWhile fun c => c != '-' && c != '+'
  !value.isEmpty && decide (value.utf8ByteSize ≤ maxRuntimeVersionBytes) &&
    value.toList.all (fun c => decide (c.toNat < 128)) &&
    (core.splitOn '.').length == 3 && (core.splitOn '.').all validComponent &&
    (suffix.isEmpty ||
      (!suffix.tail.isEmpty && suffix.tail.all fun c => c.isAlphanum || c == '.' || c == '-'))

/-- A generation the server can have issued, with `i64::MAX` as the limit. -/
def validGeneration (generation : ℕ) : Bool :=
  decide (generation ≠ 0) && decide (generation ≤ 2 ^ 63 - 1)

/-- `RuntimeIdentity::validate`, with `i32::MAX` as the limit of a contract version. -/
def validIdentity (identity : RuntimeIdentity) : Bool :=
  validRuntimeVersion identity.runtimeVersion && validRuntimeVersion identity.containerVersion &&
    decide (identity.runtimeContractVersion ≠ 0) &&
    decide (identity.runtimeContractVersion ≤ 2 ^ 31 - 1) &&
    identity.sessionGeneration.all validGeneration

def validateScope (scope : RuntimeAuthScope) : Except StorageError Unit :=
  if !validIdentity scope.identity || scope.identity.sessionGeneration.isNone ||
      scope.family.isEmpty || decide (256 < scope.family.utf8ByteSize) then
    .error (.recoveryRequired "invalid runtime auth scope")
  else .ok ()

inductive OwnerAnswer where
  | done
  | snapshot (frozen : RuntimeCleanupSnapshot)
  | record (state : RuntimeState)
  | split (state : StoredSplitTunnelState)

/-- What an operation makes of the record it loaded: an error, or an answer and
perhaps a record to save. -/
abbrev Decision : Type := RuntimeState → Except StorageError (OwnerAnswer × Option RuntimeState)

def refuse (reason : String) : Except StorageError (OwnerAnswer × Option RuntimeState) :=
  .error (.recoveryRequired reason)

def replace (next : RuntimeState) : Except StorageError (OwnerAnswer × Option RuntimeState) :=
  .ok (.done, some next)

def checkScope (scope : RuntimeAuthScope) : Decision := fun current =>
  if current.cleanupOnly || decide (current.authScope ≠ some scope) then
    refuse "runtime cache belongs to another auth scope"
  else .ok (.done, none)

def snapshotOf : Decision := fun current => .ok (.snapshot (cleanupSnapshot current), none)

def checkCompletedCleanup (scope : Option RuntimeAuthScope) : Decision := fun current =>
  if current.cleanupOnly || !operationallyEmpty current || decide (current.authScope ≠ scope) then
    refuse "runtime cleanup completion differs"
  else .ok (.done, none)

def completeCleanup (frozen : RuntimeCleanupSnapshot) : Decision := fun current =>
  if cleanupSnapshot current ≠ frozen then refuse "runtime cleanup snapshot changed"
  else replace (completeLegacyCleanup current)

def completeEmptyLogout (frozen : RuntimeCleanupSnapshot) : Decision := fun current =>
  if cleanupSnapshot current ≠ frozen ∨ operationallyEmpty current = false then
    refuse "runtime is not empty at logout"
  else replace (completeLegacyCleanup current)

def admitted (scope : RuntimeAuthScope) (current : RuntimeState) : Bool :=
  !current.cleanupOnly && decide (current.authScope = some scope)

def sameTarget (scope : RuntimeAuthScope) (current : RuntimeState) : Bool :=
  decide (current.slot = scope.identity.slot) &&
    decide (current.runtimeVersion = scope.identity.runtimeVersion)

def clearedFor (scope : RuntimeAuthScope) (current : RuntimeState) : RuntimeState :=
  { completeLegacyCleanup current with authScope := some scope }

/-- `complete_cleanup_and_bind`; a replay for the admitted scope changes nothing. -/
def completeCleanupAndBind (frozen : RuntimeCleanupSnapshot) (scope : RuntimeAuthScope) :
    Decision := fun current =>
  if admitted scope current then .ok (.done, none)
  else if cleanupSnapshot current ≠ frozen ∨ sameTarget scope current = false then
    refuse "runtime cleanup snapshot changed"
  else replace (clearedFor scope current)

/-- `complete_empty_cleanup_and_bind`; it looks at the data before it accepts a replay. -/
def completeEmptyCleanupAndBind (scope : RuntimeAuthScope) : Decision := fun current =>
  if operationallyEmpty current = false then refuse "selected runtime is not empty"
  else if admitted scope current then .ok (.done, none)
  else if current.authScope.isSome ∨ sameTarget scope current = false then
    refuse "selected runtime is not empty"
  else replace (clearedFor scope current)

def bindEmptyScope (scope : RuntimeAuthScope) : Decision := fun current =>
  if current.cleanupOnly = true ∨ operationallyEmpty current = false ∨
      sameTarget scope current = false then
    refuse "runtime cleanup is required before auth admission"
  else replace { current with authScope := some scope }

def operationalLoad : Decision := fun current => .ok (.record current, none)

def operationalSave (value : RuntimeState) : Decision := fun current =>
  if current.sameRecord value then replace (current.withOperational value)
  else refuse "runtime schema or exact version mismatch"

def splitLoad : Decision := fun current => .ok (.split current.appliedSplitTunnel, none)

def stateLimitBytes : ℕ := 1024 * 1024

/-- `RuntimeSplitTunnelStore::save`; the environment says whether the encoded
state exceeds the limit. -/
def splitSave (oversized : Bool) (state : StoredSplitTunnelState) : Decision := fun current =>
  if oversized then .error (.splitTunnelStateTooLarge stateLimitBytes)
  else replace (withSplit current (normalized state))

inductive OwnerCall where
  | checkScope (scope : RuntimeAuthScope)
  | cleanupSnapshot
  | checkCompletedCleanup (scope : Option RuntimeAuthScope)
  | completeCleanup (frozen : RuntimeCleanupSnapshot)
  | completeEmptyLogout (frozen : RuntimeCleanupSnapshot)
  | completeCleanupAndBind (frozen : RuntimeCleanupSnapshot) (scope : RuntimeAuthScope)
  | completeEmptyCleanupAndBind (scope : RuntimeAuthScope)
  | bindEmptyScope (scope : RuntimeAuthScope)
  | operationalLoad
  | operationalSave (value : RuntimeState)
  | splitLoad
  | splitSave (state : StoredSplitTunnelState)
  | splitDelete

namespace OwnerCall

def scope : OwnerCall → Option RuntimeAuthScope
  | .checkScope scope | .completeCleanupAndBind _ scope | .completeEmptyCleanupAndBind scope
  | .bindEmptyScope scope => some scope
  | .checkCompletedCleanup scope => scope
  | _ => none

def completes : OwnerCall → Bool
  | .completeCleanup _ | .completeEmptyLogout _ | .completeCleanupAndBind _ _
  | .completeEmptyCleanupAndBind _ => true
  | _ => false

def storeSave : OwnerCall → Bool
  | .operationalSave _ | .splitSave _ | .splitDelete => true
  | _ => false

def decision (oversized : Bool) : OwnerCall → Decision
  | .checkScope scope => RuntimeOwner.checkScope scope
  | .cleanupSnapshot => snapshotOf
  | .checkCompletedCleanup scope => RuntimeOwner.checkCompletedCleanup scope
  | .completeCleanup frozen => RuntimeOwner.completeCleanup frozen
  | .completeEmptyLogout frozen => RuntimeOwner.completeEmptyLogout frozen
  | .completeCleanupAndBind frozen scope => RuntimeOwner.completeCleanupAndBind frozen scope
  | .completeEmptyCleanupAndBind scope => RuntimeOwner.completeEmptyCleanupAndBind scope
  | .bindEmptyScope scope => RuntimeOwner.bindEmptyScope scope
  | .operationalLoad => RuntimeOwner.operationalLoad
  | .operationalSave value => RuntimeOwner.operationalSave value
  | .splitLoad => RuntimeOwner.splitLoad
  | .splitSave state => RuntimeOwner.splitSave oversized state
  | .splitDelete => RuntimeOwner.splitSave oversized {}

end OwnerCall

inductive SaveOutcome where
  | saved
  | lost
  | late

structure Access where
  poisoned : Bool := false
  loadFails : Bool := false
  /-- The encoded split-tunnel state exceeds the limit. -/
  oversized : Bool := false
  save : SaveOutcome := .saved

def locked (access : Access) (decision : Decision) (stored : Option RuntimeState) :
    Except StorageError OwnerAnswer × Option RuntimeState :=
  if access.poisoned then (.error (.recoveryRequired "runtime owner lock poisoned"), stored)
  else if access.loadFails then (.error .backend, stored)
  else
    match stored with
    | none => (.error (.recoveryRequired "missing runtime record"), stored)
    | some current =>
      match decision current with
      | .error e => (.error e, stored)
      | .ok (answer, none) => (.ok answer, stored)
      | .ok (answer, some next) =>
        match access.save with
        | .saved => (.ok answer, some next)
        | .lost => (.error .backend, stored)
        | .late => (.error .backend, some next)

def perform (call : OwnerCall) (access : Access) (stored : Option RuntimeState) :
    Except StorageError OwnerAnswer × Option RuntimeState :=
  match call.scope.elim (.ok ()) validateScope with
  | .error e => (.error e, stored)
  | .ok () => locked access (call.decision access.oversized) stored

section Rewrites

inductive Rewrite (current : RuntimeState) : OwnerCall → RuntimeState → Prop
  | cleared {call : OwnerCall} (h : call.completes = true) :
      Rewrite current call (completeLegacyCleanup current)
  | rebound {call : OwnerCall} {scope : RuntimeAuthScope} (h : call.completes = true) :
      Rewrite current call (clearedFor scope current)
  | bound {scope : RuntimeAuthScope} (hempty : operationallyEmpty current = true)
      (hclean : current.cleanupOnly = false) :
      Rewrite current (.bindEmptyScope scope) { current with authScope := some scope }
  | operational {value : RuntimeState} (h : current.sameRecord value = true) :
      Rewrite current (.operationalSave value) (current.withOperational value)
  | split {call : OwnerCall} {state : StoredSplitTunnelState} (h : call.storeSave = true)
      (hvalue : ∀ value, call ≠ .operationalSave value) :
      Rewrite current call (withSplit current state)

lemma guarded {guard : Prop} [Decidable guard]
    (h : (if guard then refuse reason else rest) = .ok answer) : ¬guard ∧ rest = .ok answer := by
  split at h
  · cases h
  · exact ⟨‹_›, h⟩

lemma decision_rewrite (h : call.decision oversized current = .ok (answer, some next)) :
    Rewrite current call next := by
  cases call with
  | checkScope | checkCompletedCleanup => cases (guarded h).2
  | cleanupSnapshot | operationalLoad | splitLoad => cases h
  | completeCleanup | completeEmptyLogout =>
    cases (guarded h).2
    exact .cleared rfl
  | completeCleanupAndBind =>
    simp only [OwnerCall.decision, completeCleanupAndBind] at h
    split at h
    · cases h
    · cases (guarded h).2
      exact .rebound rfl
  | completeEmptyCleanupAndBind =>
    have h := (guarded h).2
    split at h
    · cases h
    · cases (guarded h).2
      exact .rebound rfl
  | bindEmptyScope =>
    obtain ⟨hg, h⟩ := guarded h
    cases h
    simp only [not_or, Bool.not_eq_false, Bool.not_eq_true] at hg
    exact .bound hg.2.1 hg.1
  | operationalSave =>
    simp only [OwnerCall.decision, operationalSave] at h
    split at h
    · cases h
      exact .operational ‹_›
    · cases h
  | splitSave | splitDelete =>
    simp only [OwnerCall.decision, splitSave] at h
    split at h
    · cases h
    · cases h
      exact .split rfl (fun _ hc => by simp at hc)

/-- Only a load of the operational store answers with a record, and with the stored one. -/
lemma decision_record {call : OwnerCall}
    (h : call.decision oversized current = .ok (.record state, saved)) : state = current := by
  cases call with
  | operationalLoad =>
    cases h
    rfl
  | cleanupSnapshot | splitLoad => cases h
  | checkScope | checkCompletedCleanup | completeCleanup | completeEmptyLogout | bindEmptyScope =>
    cases (guarded h).2
  | operationalSave | splitSave | splitDelete =>
    simp only [OwnerCall.decision, operationalSave, splitSave] at h
    split at h <;> cases h
  | completeCleanupAndBind =>
    simp only [OwnerCall.decision, completeCleanupAndBind] at h
    split at h
    · cases h
    · cases (guarded h).2
  | completeEmptyCleanupAndBind =>
    have h := (guarded h).2
    split at h
    · cases h
    · cases (guarded h).2

lemma perform_ok (h : (perform call access stored).1 = .ok answer) :
    ∃ current saved, stored = some current ∧
      call.decision access.oversized current = .ok (answer, saved) := by
  unfold perform at h
  split at h
  · simp at h
  · unfold locked at h
    split at h
    · simp at h
    · split at h
      · simp at h
      · split at h
        · simp at h
        · rename_i current
          refine ⟨current, ?_⟩
          split at h
          · simp at h
          · rename_i hd
            cases h
            exact ⟨none, rfl, hd⟩
          · rename_i next hd
            split at h
            · cases h
              exact ⟨some next, rfl, hd⟩
            · simp at h
            · simp at h

lemma locked_cases (decision : Decision) :
    (locked access decision stored).2 = stored ∨
      ∃ current next answer, stored = some current ∧ decision current = .ok (answer, some next) ∧
        (locked access decision stored).2 = some next := by
  unfold locked
  split
  · exact Or.inl rfl
  · split
    · exact Or.inl rfl
    · cases stored with
      | none => exact Or.inl rfl
      | some current =>
        dsimp only
        rcases hd : decision current with e | ⟨answer, _ | next⟩
        · exact Or.inl rfl
        · exact Or.inl rfl
        · cases access.save with
          | lost => exact Or.inl rfl
          | saved | late => exact Or.inr ⟨current, next, answer, rfl, hd, rfl⟩

lemma perform_decided :
    (perform call access stored).2 = stored ∨
      ∃ current next answer, stored = some current ∧
        call.decision access.oversized current = .ok (answer, some next) ∧
        (perform call access stored).2 = some next := by
  unfold perform
  cases call.scope.elim (.ok ()) validateScope with
  | error e => exact Or.inl rfl
  | ok u => exact locked_cases (call.decision access.oversized)

lemma perform_cases (call : OwnerCall) (access : Access) (stored : Option RuntimeState) :
    (perform call access stored).2 = stored ∨
      ∃ current next, stored = some current ∧ Rewrite current call next ∧
        (perform call access stored).2 = some next := by
  rcases perform_decided with h | ⟨current, next, _, hs, hd, h⟩
  · exact Or.inl h
  · exact Or.inr ⟨current, next, hs, decision_rewrite hd, h⟩

lemma operationallyEmpty_completeLegacyCleanup (current : RuntimeState) :
    operationallyEmpty (completeLegacyCleanup current) = true := rfl

lemma Rewrite.empty_of_scope (h : Rewrite current call next)
    (hs : next.authScope ≠ current.authScope) : operationallyEmpty next = true := by
  cases h with
  | cleared | rebound => exact operationallyEmpty_completeLegacyCleanup current
  | bound he => exact he
  | operational | split => exact absurd rfl hs

lemma Rewrite.identity_of_storeSave (h : Rewrite current call next)
    (hca : call.storeSave = true) :
    next.authScope = current.authScope ∧ next.cleanupOnly = current.cleanupOnly ∧
      next.slot = current.slot ∧ next.runtimeVersion = current.runtimeVersion := by
  cases h with
  | cleared hc | rebound hc =>
    cases call <;> simp [OwnerCall.completes, OwnerCall.storeSave] at hc hca
  | bound => simp [OwnerCall.storeSave] at hca
  | operational | split => exact ⟨rfl, rfl, rfl, rfl⟩

lemma Rewrite.completes_of_lifted (h : Rewrite current call next)
    (hb : current.cleanupOnly = true) (ha : next.cleanupOnly = false) :
    call.completes = true := by
  cases h with
  | cleared hc | rebound hc => exact hc
  | bound he hcl =>
    rw [hcl] at hb
    simp at hb
  | operational | split =>
    have hk : current.cleanupOnly = false := ha
    rw [hk] at hb
    simp at hb

lemma Rewrite.scope_of_operationalSave {value : RuntimeState}
    (h : Rewrite current (.operationalSave value) next) : value.authScope = current.authScope := by
  cases h with
  | cleared hc | rebound hc => simp [OwnerCall.completes] at hc
  | operational hs =>
    simp only [RuntimeState.sameRecord, Bool.and_eq_true, beq_iff_eq] at hs
    exact hs.1.1.2
  | split hc hv => exact absurd rfl (hv value)

lemma operationalSave_foreign {value : RuntimeState}
    (h : ∀ current, stored = some current → value.authScope ≠ current.authScope) :
    ∃ e, (perform (.operationalSave value) access stored).1 = .error e := by
  cases ha : (perform (.operationalSave value) access stored).1 with
  | error e => exact ⟨e, rfl⟩
  | ok =>
    obtain ⟨current, _, hs, hd⟩ := perform_ok ha
    have hsa : current.sameRecord value = false := by
      simp [RuntimeState.sameRecord, h current hs]
    simp [OwnerCall.decision, operationalSave, hsa, refuse] at hd

end Rewrites

/-- The stored record with a history of what the operational store has loaded:
each record with the scope that was stored at that moment. -/
structure History where
  stored : Option RuntimeState
  loaded : List (Option RuntimeAuthScope × RuntimeState) := []

namespace History

def scope (history : History) : Option RuntimeAuthScope := history.stored.bind (·.authScope)

def gained (history : History) (call : OwnerCall) (access : Access) :
    List (Option RuntimeAuthScope × RuntimeState) :=
  match (perform call access history.stored).1 with
  | .ok (.record state) => [(history.scope, state)]
  | _ => []

def step (history : History) (call : OwnerCall × Access) : History :=
  ⟨(perform call.1 call.2 history.stored).2, history.gained call.1 call.2 ++ history.loaded⟩

def run (history : History) (calls : List (OwnerCall × Access)) : History :=
  calls.foldl step history

/-- A value that was loaded under a scope; the holder may have changed all of its data. -/
def LoadedUnder (history : History) (scope : Option RuntimeAuthScope) (value : RuntimeState) :
    Prop :=
  ∃ state, (scope, state) ∈ history.loaded ∧ value.authScope = state.authScope

lemma gained_scope {hi : History} {entry : Option RuntimeAuthScope × RuntimeState}
    (h : entry ∈ hi.gained call access) : entry.2.authScope = entry.1 := by
  unfold gained at h
  split at h
  · rename_i state ha
    simp only [List.mem_singleton] at h
    obtain ⟨current, _, hs, hd⟩ := perform_ok ha
    have hst : state = current := decision_record hd
    simp [h, hst, scope, hs]
  · simp at h

lemma loaded_scope (calls : List (OwnerCall × Access)) {hi : History}
    (h : ∀ entry ∈ hi.loaded, entry.2.authScope = entry.1) :
    ∀ entry ∈ (hi.run calls).loaded, entry.2.authScope = entry.1 := by
  induction calls generalizing hi with
  | nil => exact h
  | cons call rest ih =>
    apply ih
    intro entry he
    rcases List.mem_append.mp he with hn | ho
    · exact gained_scope hn
    · exact h entry ho

end History

/-- Operational data never crosses an auth scope. In every history from every
stored record, whatever fails: a step that changes the stored scope leaves a
record without operational data; a value that was loaded under a scope is
neither stored nor accepted while another scope is stored; saves of the stores
keep what identifies the record; and only a completed cleanup makes a record
usable that was cleanup input. -/
theorem operational_data_stays_in_scope (stored : Option RuntimeState)
    (calls : List (OwnerCall × Access)) (call : OwnerCall) (access : Access) :
    let before := History.run ⟨stored, []⟩ calls
    let after := before.step (call, access)
    (after.scope ≠ before.scope → ∃ next, after.stored = some next ∧ operationallyEmpty next = true) ∧
      (∀ scope value, call = .operationalSave value → before.LoadedUnder scope value →
        before.scope ≠ scope →
          after.stored = before.stored ∧ ∃ e, (perform call access before.stored).1 = .error e) ∧
      (call.storeSave = true → ∀ current, before.stored = some current →
        ∃ next, after.stored = some next ∧ next.authScope = current.authScope ∧
          next.cleanupOnly = current.cleanupOnly ∧ next.slot = current.slot ∧
          next.runtimeVersion = current.runtimeVersion) ∧
      (∀ current next, before.stored = some current → after.stored = some next →
        current.cleanupOnly = true → next.cleanupOnly = false → call.completes = true) := by
  intro before after
  have hlo := @History.loaded_scope calls ⟨stored, []⟩ (by simp)
  have ha : after.stored = (perform call access before.stored).2 := rfl
  have hca := perform_cases call access before.stored
  rw [← ha] at hca
  have hsc : ∀ {record : RuntimeState}, before.stored = some record →
      before.scope = record.authScope := fun h => by simp [History.scope, h]
  refine ⟨fun hch => ?_, fun scope value hcl hu hf => ?_,
    fun hsv current hc => ?_, fun current next hc hn hb hl => ?_⟩
  · rcases hca with hs | ⟨_, next, hc, hr, hn⟩
    · exact absurd (by simp [History.scope, hs]) hch
    · refine ⟨next, hn, hr.empty_of_scope fun he => hch ?_⟩
      simp [History.scope, hc, hn, he]
  · obtain ⟨state, hm, hv⟩ := hu
    have hsa : state.authScope = scope := hlo _ hm
    subst hcl
    have hne : ∀ current, before.stored = some current → value.authScope ≠ current.authScope := by
      intro _ hst he
      apply hf
      rw [hsc hst, ← he, hv, hsa]
    refine ⟨?_, operationalSave_foreign hne⟩
    rcases hca with hs | ⟨current, _, hc, hr, -⟩
    · exact hs
    · exact absurd hr.scope_of_operationalSave (hne current hc)
  · rcases hca with hs | ⟨_, next, hc', hr, hn⟩
    · exact ⟨current, by rw [hs, hc], rfl, rfl, rfl, rfl⟩
    · rw [hc] at hc'
      cases hc'
      exact ⟨next, hn, hr.identity_of_storeSave hsv⟩
  · rcases hca with hs | ⟨_, _, hc', hr, hn'⟩
    · rw [hs, hc] at hn
      cases hn
      rw [hb] at hl
      simp at hl
    · rw [hc] at hc'
      cases hc'
      rw [hn] at hn'
      cases hn'
      exact hr.completes_of_lifted hb hl

def accessOf : StoreOutcome → Access
  | .done => {}
  | .late => { save := .late }
  | .absent | .lost => { save := .lost }

lemma locked_replace (next : RuntimeState) (d : Disk) (h : decision d.record = replace next) :
    (locked (accessOf (Storage.outcome d).1) decision (some d.record)).2 =
      some (replaceRecord next d).2.record := by
  unfold locked replaceRecord Storage.outcome
  cases d.outcomes.headD .done <;> simp [accessOf, h, replace]

lemma locked_refuse (access : Access) (h : decision current = refuse reason) :
    (locked access decision (some current)).2 = some current := by
  unfold locked
  simp only [h, refuse]
  cases access.poisoned <;> cases access.loadFails <;> rfl

/-- The record that the stores of the core and the cleanup of the core's model
leave is the one that the owner leaves. -/
lemma perform_agrees (d : Disk) :
    let access := accessOf (Storage.outcome d).1
    (∀ value, (perform (.operationalSave value) access (some d.record)).2 =
        some (Storage.save value d).2.record) ∧
      (∀ state, (perform (.splitSave state) access (some d.record)).2 =
        some (SplitRecord.save state d).2.record) ∧
      (∀ frozen, (perform (.completeCleanup frozen) access (some d.record)).2 =
        some (SplitRecord.completeCleanup frozen d).2.record) ∧
      (∀ scope, validateScope scope = .ok () →
        (perform (.bindEmptyScope scope) access (some d.record)).2 =
          some (SplitRecord.bindEmptyScope scope d).2.record) := by
  intro access
  have ho : access.oversized = false := by
    simp only [access]
    cases (Storage.outcome d).1 <;> rfl
  refine ⟨fun value => ?_, fun state => ?_, fun frozen => ?_, fun scope hv => ?_⟩
  · simp only [perform, OwnerCall.scope, Option.elim, OwnerCall.decision]
    by_cases hs : d.record.sameRecord value = true
    · rw [locked_replace (d.record.withOperational value) d (by simp [operationalSave, hs])]
      unfold replaceRecord Storage.save Storage.outcome
      cases d.outcomes.headD .done <;> simp [hs]
    · rw [locked_refuse access (by simp [operationalSave, hs]; rfl)]
      unfold Storage.save Storage.outcome
      cases d.outcomes.headD .done <;> simp [hs]
  · simp only [perform, OwnerCall.scope, Option.elim, OwnerCall.decision]
    exact locked_replace _ d (by simp [splitSave, ho])
  · simp only [perform, OwnerCall.scope, Option.elim, OwnerCall.decision, SplitRecord.completeCleanup]
    by_cases hs : cleanupSnapshot d.record = frozen
    · rw [if_pos hs]
      exact locked_replace _ d (by simp [completeCleanup, hs])
    · rw [if_neg hs]
      exact locked_refuse access (by simp [completeCleanup, hs]; rfl)
  · simp only [perform, OwnerCall.scope, Option.elim, hv, OwnerCall.decision,
      SplitRecord.bindEmptyScope]
    by_cases he : d.record.cleanupOnly = true ∨ operationallyEmpty d.record = false ∨
        sameTarget scope d.record = false
    · rw [if_pos (by simpa [sameTarget, or_assoc, Classical.or_iff_not_imp_left] using he)]
      exact locked_refuse access (by simp only [bindEmptyScope, if_pos he]; rfl)
    · rw [if_neg (by simpa [sameTarget, or_assoc, Classical.or_iff_not_imp_left] using he)]
      exact locked_replace _ d (by simp only [bindEmptyScope, if_neg he])

end NelomaiClient.RuntimeOwner
