import NelomaiClient.SplitTunnel
import NelomaiClient.AwaitFootprint

/-!
# Restorations and the other writers of the split-tunnel state

A restoration loads the split-tunnel state, looks up addresses and saves what it
loaded, without the gate of the other writers. Its save leaves policies,
revisions and reports as they are stored only if nobody changed or cleared them
in between.
-/

set_option synthInstance.maxSize 1024

namespace NelomaiClient.SplitRestoration

open ConnectionContract CoreContract RuntimeRecord SplitRecord SplitTunnel
open AwaitProgram AwaitPool AwaitRely AwaitFallible AwaitFootprint

def watched (s : StoredSplitTunnelState) : Option SplitTunnelPolicy × Option String ×
    Option String × Option Int × Int × Int × List SplitTunnelApplyResult :=
  (s.cachedPolicy, s.workingPolicyHash, s.failedPolicyHash, s.failedPolicyRetryAfterUnix,
    s.lastSeenForceRevision, s.lastSeenAddressRevision, s.pendingApplyResults)

def current (w : SplitWorld) : StoredSplitTunnelState := w.record.appliedSplitTunnel

def restoredSave : Cmd → Bool
  | .store (.saveRestored _) => true
  | _ => false

def clearing : Cmd → Bool
  | .store f => f.clears
  | _ => false

/-- While a restoration holds a loaded state, no step but its save changes a
watched field, and nothing is cleared. -/
def undisturbed (t : ℕ) (c : Cmd) (i : Input) (w : SplitWorld) : Prop :=
  w.held ≠ [] → restoredSave c = false → ∀ x ∈ sem c t i w,
    watched (current x.2) = watched (current w) ∧ (clearing c = true → current x.2 = current w)

instance (t : ℕ) (c : Cmd) (i : Input) (w : SplitWorld) : Decidable (undisturbed t c i w) := by
  unfold undisturbed
  infer_instance

/-- The reports meet their limit, and a loaded state agrees with the stored one. -/
structure Agrees (w : SplitWorld) : Prop where
  trimmed : (current w).pendingApplyResults.length ≤ maxPendingApplyResults
  /-- Nothing was changed or cleared since a restoration loaded. -/
  held : ∀ e ∈ w.held, watched (current w) = watched e.value ∧ e.cleared = false

def leaves (u : ℕ) (w w' : SplitWorld) : Prop := ∀ e ∈ w.held, e.thread = u → e ∈ w'.held

/-- The save of a restoration writes what it loaded, apart from the resolutions,
leaves the watched fields, and nothing was cleared since it loaded. -/
def restores (t : ℕ) (c : Cmd) (w w' : SplitWorld) : Prop :=
  ∀ value, c = .store (.saveRestored value) →
    watched (current w') = watched (current w) ∧
      ∃ found, ⟨t, found, false⟩ ∈ w.held ∧
        value = { found with domainResolutions := value.domainResolutions }

def restoring : Contract split where
  inv := Agrees
  cond := undisturbed
  guar t c _ w w' := (∀ u, u ≠ t → leaves u w w') ∧ restores t c w w'
  rely := leaves
  rely_refl _ _ _ h _ := h
  rely_trans _ _ _ _ h₁ h₂ e he hu := h₂ e (h₁ e he hu) hu
  guar_rely _ _ _ _ _ _ htu _ _ _ hg := hg.1 _ (Ne.symm htu)

section Footprint

variable {α : Type} {φ : split.Cmd → Prop}

class Asks (φ : split.Cmd → Prop) : Prop where
  out : ∀ q, φ (.question q)

def plain (c : split.Cmd) : Prop := restoredSave c = false ∧ c ≠ .store .loadForRestoration

/-- The footprint includes what is not a restoration's own. -/
class Writes (φ : split.Cmd → Prop) : Prop where
  out : ∀ c, plain c → φ c

instance [h : Writes φ] : Asks φ := ⟨fun _ => h.out _ ⟨rfl, (nomatch ·)⟩⟩

instance : Writes plain := ⟨fun _ h => h⟩

def asking (c : split.Cmd) : Prop := ∃ q, c = .question q

instance : Asks asking := ⟨fun q => ⟨q, rfl⟩⟩

section Questions

variable [h : Asks φ]

-- The answer types are computed from the questions, so they cannot be keys of these instances.
instance : Issues (α := no_index _) φ (inquire q) := ⟨uses_lift ((Prog.uses_ask _).mpr (h.out q))⟩

instance : Issues (α := no_index _) φ (consult q) := ⟨uses_lift ((Prog.uses_call _).mpr (h.out q))⟩

instance : Issues φ pause := ⟨trivial⟩

instance [Issues φ ask] : Issues φ (refreshing ask) := by
  repeat' first | infer_instance | split | refine issues_seq ?_ fun _ => ?_

instance : IssuesLocal φ (reportOrQueueApplyResult result) := by
  unfold reportOrQueueApplyResult sendApplyResult
  repeat' first
    | infer_instance | split | refine issues_seq ?_ fun _ => ?_
    | refine issuesLocal_seq ?_ fun _ => ?_

instance (results : List SplitTunnelApplyResult) : IssuesLocal φ (flushResults results) := by
  induction results with
  | nil | cons =>
    unfold flushResults
    infer_instance

instance : IssuesLocal φ flushPendingApplyResults := by
  unfold flushPendingApplyResults
  infer_instance

instance : IssuesLocal φ (updateState change) := by
  unfold updateState
  infer_instance

instance : Issues φ (requireClock nowUnix) := by
  unfold requireClock
  infer_instance

instance : Issues φ (effectiveOptions policy layer routeMode resolved) := by
  unfold effectiveOptions
  infer_instance

instance : Issues φ fallbackTunnelOptions := by
  unfold fallbackTunnelOptions
  infer_instance

instance (policy : Option SplitTunnelPolicy) : Issues φ (validPolicy policy) := by
  cases policy with
  | none =>
    unfold validPolicy
    infer_instance
  | some =>
    refine issues_bind fun _ => ?_
    split <;> infer_instance

instance [Issues φ second] : Issues φ (orElsePolicy first second) := by
  unfold orElsePolicy
  repeat' first | infer_instance | split

instance : IssuesLocal φ (planOnCopy call policy mode) := by
  unfold planOnCopy effectiveTunnelOptionsWithState markFailed
  repeat' first | infer_instance | split | refine issuesLocal_seq ?_ fun _ => ?_

instance : Issues φ (initializePhysicalNetworkDetector options) := by
  repeat' first | infer_instance | split | refine issues_seq ?_ fun _ => ?_

instance [Issues φ ask] : IssuesLocal φ (orCachedOffline ask) := by
  repeat' first | infer_instance | split | refine issuesLocal_seq ?_ fun _ => ?_

end Questions

section Stores

variable [h : Writes φ]

lemma issues_stored (hf : plain (.store f)) : Issues φ (stored f) :=
  ⟨(Prog.uses_call (M := split) (.store f)).mpr (h.out _ hf)⟩

instance : Issues φ (stored .load) := issues_stored ⟨rfl, nofun⟩
instance : Issues φ (stored (.save state)) := issues_stored ⟨rfl, nofun⟩
instance : Issues φ (stored .delete) := issues_stored ⟨rfl, nofun⟩
instance : Issues φ (stored .loadRuntime) := issues_stored ⟨rfl, nofun⟩
instance : Issues φ (stored (.saveRuntime value)) := issues_stored ⟨rfl, nofun⟩
instance : Issues φ (stored (.completeCleanup frozen)) := issues_stored ⟨rfl, nofun⟩
instance : Issues φ (stored (.bindEmptyScope scope)) := issues_stored ⟨rfl, nofun⟩

instance (x : Split α) [hx : Issues φ x] : Issues φ (withSplitGate x) := by
  refine ⟨Prog.uses_bind ((Prog.uses_ask (M := split) (.acquire .split)).mpr
    (h.out _ ⟨rfl, (nomatch ·)⟩)) fun _ => Prog.uses_bind hx.out fun _ => ?_⟩
  exact Prog.uses_bind ((Prog.uses_call (M := split) (.release .split)).mpr
    (h.out _ ⟨rfl, (nomatch ·)⟩)) fun _ => trivial

lemma issuesLocal_gate (hx : IssuesLocal φ x) :
    IssuesLocal φ (withConnectionGate x) := by
  refine ⟨fun state => Prog.uses_bind ((Prog.uses_ask (M := split) (.acquire .connection)).mpr
    (h.out _ ⟨rfl, (nomatch ·)⟩)) fun _ => Prog.uses_bind (hx.out state) fun _ => ?_⟩
  exact Prog.uses_bind ((Prog.uses_call (M := split) (.release .connection)).mpr
    (h.out _ ⟨rfl, (nomatch ·)⟩)) fun _ => trivial

instance [hx : IssuesLocal φ x] : IssuesLocal φ (withConnectionGate x) := issuesLocal_gate hx

instance : Issues φ accessSnapshot := by
  unfold accessSnapshot
  infer_instance

instance : IssuesLocal φ saveState := by
  unfold saveState
  infer_instance

instance : Issues φ (effectiveTunnelOptions policy layer routeMode nowUnix refreshDomains) := by
  unfold effectiveTunnelOptions planFromState effectiveTunnelOptionsWithState
  infer_instance

instance : Issues φ cachedPolicyForStart := by
  unfold cachedPolicyForStart
  infer_instance

instance : IssuesLocal φ
  (applyHoldingGate call nativeOwned inactiveAndroid running next previous) := by
  unfold applyHoldingGate applyLegacyPolicy restartTunnel restartApplied restartRolledBack
    restartStopFailed applyOwnedPolicy ownedAnswered applyWithoutReconnect ownedUnscoped demand
    SplitTunnel.ensureStartNotCancelled reportPolicyApplyOutcome
    SplitTunnel.configurationUnavailable markFailed reportResult trySaveState
  repeat' first | infer_instance | split | refine issuesLocal_seq ?_ fun _ => ?_

instance [IssuesLocal φ x] : Issues φ (withLoaded x) := by
  unfold withLoaded
  infer_instance

instance : Issues φ SplitTunnel.resetSplitTunnelState := by
  unfold SplitTunnel.resetSplitTunnelState
  infer_instance

instance : IssuesLocal φ (synchronizeHoldingGate nowUnix forceFull) := by
  unfold synchronizeHoldingGate requestSplitTunnelRevision synchronizeFull requestSplitTunnelPolicy
    synchronizePolicy synchronizeUnchanged applyPolicyIfConnected applyPlans inactiveAndroidSplit
    nativeOwner rollbackPlan
  repeat' first
    | infer_instance | split | refine issues_seq ?_ fun _ => ?_
    | refine issuesLocal_seq ?_ fun _ => ?_

instance : Issues φ (SplitTunnel.synchronizeSplitTunnel nowUnix forceFull) := by
  unfold SplitTunnel.synchronizeSplitTunnel
  infer_instance

instance : IssuesLocal φ (applyAndSave policy nowUnix mode) := by
  unfold applyAndSave applyPolicyIfConnected applyPlans inactiveAndroidSplit nativeOwner
    rollbackPlan
  repeat' first
    | infer_instance | split | refine issues_seq ?_ fun _ => ?_
    | refine issuesLocal_seq ?_ fun _ => ?_

instance : Issues φ (SplitTunnel.saveSplitTunnelSettings nowUnix) := by
  unfold SplitTunnel.saveSplitTunnelSettings saveSettingsHoldingGate requestSplitTunnelSettings
    storeChangedPolicy
  infer_instance

instance [Issues φ request] : IssuesLocal φ (changeRulesHoldingGate request nowUnix) := by
  unfold changeRulesHoldingGate applyUpdatedAddressRulePolicy storeChangedPolicy
  infer_instance

instance : Issues φ (SplitTunnel.addSplitTunnelAddressRule value nowUnix) := by
  unfold SplitTunnel.addSplitTunnelAddressRule requestAddSplitTunnelAddressRule
  infer_instance

instance : Issues φ (SplitTunnel.removeSplitTunnelAddressRule ruleId nowUnix) := by
  unfold SplitTunnel.removeSplitTunnelAddressRule requestRemoveSplitTunnelAddressRule
  infer_instance

instance : Issues φ SplitTunnel.retryPendingSplitTunnelResults := by
  unfold SplitTunnel.retryPendingSplitTunnelResults retryResultsHoldingGate
  infer_instance

instance : IssuesLocal φ (recordStartedSplitTunnelPolicy policy options fingerprint nowUnix) := by
  unfold recordStartedSplitTunnelPolicy
  infer_instance

instance (layer : Layer) (routeMode : RouteMode) (nowUnix : Int) :
    Issues φ (SplitTunnel.startWithPolicy layer routeMode nowUnix) := by
  unfold SplitTunnel.startWithPolicy
  have (policy : Option SplitTunnelPolicy) : Issues φ (startChosen layer routeMode nowUnix policy) := by
    cases policy <;> dsimp only [startChosen] <;> infer_instance
  infer_instance

instance : Issues φ (SplitTunnel.connectionIntentTunnelOptions layer routeMode nowUnix) := by
  repeat' first | infer_instance | split | refine issues_seq ?_ fun _ => ?_

instance : Issues φ (SplitTunnel.recordPhysicalNetwork fingerprint) := by
  unfold SplitTunnel.recordPhysicalNetwork
  infer_instance

end Stores

end Footprint

section Effects

lemma sem_store (h : sem (.store f) t i w = some (r, w')) :
    ∃ outcomes, r = (f.run ⟨w.record, outcomes, false⟩).1 ∧ w'.record =
      (f.run ⟨w.record, outcomes, false⟩).2.record ∧ w'.held = f.heldAfter t (current w)
      (current w') w.held r := by
  cases i with
  | store outcomes =>
    obtain ⟨rfl, rfl⟩ := Prod.mk.inj (Option.some.inj h)
    exact ⟨outcomes, rfl, rfl, rfl⟩
  | go | answer => cases h

lemma sem_other (h : sem c t i w = some (r, w')) (hc : ∀ f, c ≠ .store f) :
    w'.record = w.record ∧ w'.held = w.held := by
  cases c with
  | question q =>
    obtain ⟨a, -, ha⟩ := Option.map_eq_some_iff.mp h
    obtain ⟨-, rfl⟩ := Prod.mk.inj ha
    exact ⟨rfl, rfl⟩
  | store f => exact absurd rfl (hc f)
  | acquire =>
    unfold sem at h
    dsimp only at h
    split at h
    · obtain ⟨-, rfl⟩ := Prod.mk.inj (Option.some.inj h)
      exact ⟨rfl, rfl⟩
    · cases h
  | release =>
    obtain ⟨-, rfl⟩ := Prod.mk.inj (Option.some.inj h)
    exact ⟨rfl, rfl⟩

lemma save_split (value : StoredSplitTunnelState) (d : Disk) :
    (SplitRecord.save value d).2.record.appliedSplitTunnel = d.record.appliedSplitTunnel ∨
      (SplitRecord.save value d).2.record.appliedSplitTunnel = normalized value := by
  rcases replaceRecord_record (withSplit d.record (normalized value)) d with h | h
  · exact Or.inl (congrArg RuntimeState.appliedSplitTunnel h)
  · exact Or.inr (congrArg RuntimeState.appliedSplitTunnel h)

/-- Every record function leaves the split-tunnel state or stores reports within their limit. -/
lemma run_split (f : StoreCall) (d : Disk) :
    (f.run d).2.record.appliedSplitTunnel = d.record.appliedSplitTunnel ∨
      (f.run d).2.record.appliedSplitTunnel.pendingApplyResults.length ≤
        maxPendingApplyResults := by
  have hn (value : StoredSplitTunnelState) :
      (normalized value).pendingApplyResults.length ≤ maxPendingApplyResults :=
    trimResults_length _
  have hs (value : StoredSplitTunnelState) :
      (SplitRecord.save value d).2.record.appliedSplitTunnel = d.record.appliedSplitTunnel ∨
        (SplitRecord.save value d).2.record.appliedSplitTunnel.pendingApplyResults.length ≤
          maxPendingApplyResults := by
    rcases save_split value d with h | h
    · exact Or.inl h
    · rw [h]
      exact Or.inr (hn value)
  cases f with
  | load | loadForRestoration =>
    exact Or.inl (congrArg RuntimeState.appliedSplitTunnel (SplitRecord.load_record d))
  | save state | saveRestored state => exact hs state
  | delete => exact hs {}
  | loadRuntime =>
    rcases (Storage.loadRuntime_record d).1 with h | h
    · exact Or.inl (congrArg RuntimeState.appliedSplitTunnel h)
    · exact Or.inl ((congrArg RuntimeState.appliedSplitTunnel h).trans rfl)
  | saveRuntime value =>
    rcases Storage.save_record value d with ⟨h, -⟩ | h
    · exact Or.inl (congrArg RuntimeState.appliedSplitTunnel h)
    · exact Or.inl ((congrArg RuntimeState.appliedSplitTunnel h).trans rfl)
  | completeCleanup =>
    dsimp only [StoreCall.run, completeCleanup]
    split
    · rcases replaceRecord_record (completeLegacyCleanup d.record) d with h | h
      · exact Or.inl (congrArg RuntimeState.appliedSplitTunnel h)
      · rw [h]
        exact Or.inr (Nat.zero_le _)
    · exact Or.inl rfl
  | bindEmptyScope scope =>
    dsimp only [StoreCall.run, bindEmptyScope]
    split
    · exact Or.inl rfl
    · rcases replaceRecord_record { d.record with authScope := some scope } d with h | h
      · exact Or.inl (congrArg RuntimeState.appliedSplitTunnel h)
      · exact Or.inl ((congrArg RuntimeState.appliedSplitTunnel h).trans rfl)

lemma sem_trimmed (h : sem c t i w = some (r, w'))
    (hw : (current w).pendingApplyResults.length ≤ maxPendingApplyResults) :
    (current w').pendingApplyResults.length ≤ maxPendingApplyResults := by
  by_cases hc : ∃ f, c = .store f
  · obtain ⟨f, rfl⟩ := hc
    obtain ⟨outcomes, -, hr, -⟩ := sem_store h
    unfold current
    rw [hr]
    rcases run_split f ⟨w.record, outcomes, false⟩ with hs | hl
    · rw [hs]
      exact hw
    · exact hl
  · unfold current
    rw [(sem_other h fun f hf => hc ⟨f, hf⟩).1]
    exact hw

/-- A command that is not a restoration's own changes what is held only if it clears something. -/
lemma sem_held (h : sem c t i w = some (r, w')) (hc : plain c) :
    w'.held = w.held ∨ clearing c = true ∧ current w' ≠ current w ∧ w'.held = w.held.map fun e =>
      { e with cleared := true } := by
  by_cases hs : ∃ f, c = .store f
  · obtain ⟨f, rfl⟩ := hs
    obtain ⟨_, -, -, hh⟩ := sem_store h
    have hp : w'.held = if f.clears ∧ current w' ≠ current w then
        w.held.map fun e => { e with cleared := true } else w.held := by
      rw [hh]
      cases f with
      | loadForRestoration => exact absurd rfl hc.2
      | saveRestored => exact absurd hc.1 (Bool.false_ne_true ·.symm)
      | _ => rfl
    rw [hp]
    split
    · rename_i hcl
      exact Or.inr ⟨hcl.1, hcl.2, rfl⟩
    · exact Or.inl rfl
  · exact Or.inl (sem_other h fun f hf => hs ⟨f, hf⟩).2

lemma undisturbed_held (h : sem c t i w = some (r, w')) (hc : plain c)
    (hco : undisturbed t c i w) : w'.held = w.held := by
  rcases sem_held h hc with hs | ⟨hcl, hn, hm⟩
  · exact hs
  · by_cases he : w.held = []
    · rw [hm, he]
      rfl
    · exact absurd ((hco he hc.1 (r, w') h).2 hcl) hn

end Effects

section Programs

variable {t : ℕ} {w : SplitWorld}

/-- The restoration of thread `t` holds this state, and nothing was cleared since. -/
def Loaded (t : ℕ) (found : StoredSplitTunnelState) (w : SplitWorld) : Prop :=
  ⟨t, found, false⟩ ∈ w.held

lemma plain_tolerates (t : ℕ) : Tolerates restoring t (fun _ => True) plain where
  rely _ _ _ _ _ := trivial
  step c i r w w' hp hi _ hc h := by
    have hh : w'.held = w.held := undisturbed_held h hp hc
    refine ⟨⟨sem_trimmed h hi.trimmed, fun e he => ?_⟩, ⟨fun u _ e he _ => ?_, ?_⟩, trivial⟩
    · rw [hh] at he
      obtain ⟨ha, hcl⟩ := hi.held e he
      have hw : watched (current w') = watched (current w) :=
        (hc (List.ne_nil_of_mem he) hp.1 (r, w') h).1
      exact ⟨hw.trans ha, hcl⟩
    · rw [hh]
      exact he
    · rintro _ rfl
      exact absurd hp.1 (Bool.false_ne_true ·.symm)

variable {found : StoredSplitTunnelState}

lemma loaded_tolerates (t : ℕ) :
    Tolerates restoring t (Loaded t found) asking where
  rely w w' _ hJ hr := hr _ hJ rfl
  step c i r w w' ha hi hJ hc h := by
    obtain ⟨q, rfl⟩ := ha
    obtain ⟨hi', hg, -⟩ :=
      (plain_tolerates t).step (.question q) i r w w' ⟨rfl, (nomatch ·)⟩ hi trivial hc h
    refine ⟨hi', hg, ?_⟩
    unfold Loaded
    rw [(sem_other (c := .question q) (t := t) (i := i) h fun _ hf => (nomatch hf)).2]
    exact hJ

lemma loadForRestoration_spec :
    wpe restoring t (stored .loadForRestoration) (Loaded t) (fun _ _ => True) w := by
  intro i r w' hi _ h
  obtain ⟨_, hr, hre, hh⟩ := sem_store h
  have hs : current w' = current w := by
    unfold current
    rw [hre]
    exact congrArg RuntimeState.appliedSplitTunnel (SplitRecord.load_record _)
  have ht : (current w').pendingApplyResults.length ≤ maxPendingApplyResults := by
    rw [hs]
    exact hi.trimmed
  cases r with
  | error e =>
    have hh : w'.held = w.held := hh
    refine ⟨⟨ht, fun e he => ?_⟩, ⟨fun u _ e he _ => ?_, fun _ => (nomatch ·)⟩, trivial⟩
    · rw [hh] at he
      rw [hs]
      exact hi.held e he
    · rw [hh]
      exact he
  | ok state =>
    have hh : w'.held = ⟨t, state, false⟩ :: w.held.filter (·.thread ≠ t) := hh
    have hst : state = current w := load_value hr.symm
    refine ⟨⟨ht, fun e he => ?_⟩, ⟨fun u hu e he heu => ?_, fun _ => (nomatch ·)⟩, ?_⟩
    · rw [hh] at he
      rw [hs]
      rcases List.mem_cons.mp he with rfl | he
      · exact ⟨congrArg watched hst.symm, rfl⟩
      · exact hi.held e (List.mem_of_mem_filter he)
    · rw [hh]
      have hn : e.thread ≠ t := by
        rw [heu]
        exact hu
      exact List.mem_cons_of_mem _ (List.mem_filter.mpr ⟨he, decide_eq_true hn⟩)
    · show ⟨t, state, false⟩ ∈ w'.held
      rw [hh]
      exact List.mem_cons_self

variable {value : StoredSplitTunnelState}

lemma watched_normalized (h : value.pendingApplyResults.length ≤ maxPendingApplyResults) :
    watched (normalized value) = watched value := by
  unfold watched normalized
  rw [trimResults_of_le h]

def Differs (found value : StoredSplitTunnelState) : Prop :=
  value = { found with domainResolutions := value.domainResolutions }

lemma differs_with (resolutions : List StoredSplitTunnelDomainResolution) :
    Differs found { found with domainResolutions := resolutions } := rfl

lemma Differs.watched (h : Differs found value) : watched value = watched found := by
  rw [h]
  rfl

lemma saveRestored_spec (hJ : Loaded t found w) (hva : Differs found value) :
    wpe restoring t (stored (.saveRestored value)) (fun _ _ => True) (fun _ _ => True) w := by
  intro i r w' hi _ h
  obtain ⟨outcomes, -, hre, hh⟩ := sem_store h
  have hh : w'.held = w.held.filter (·.thread ≠ t) := hh
  have hag : watched value = watched (current w) := hva.watched.trans (hi.held _ hJ).1.symm
  have hr : value.pendingApplyResults = (current w).pendingApplyResults :=
    congrArg (fun x => x.2.2.2.2.2.2) hag
  have hw : watched (current w') = watched (current w) := by
    unfold current
    rw [hre]
    rcases save_split value ⟨w.record, outcomes, false⟩ with hs | hs
    · exact congrArg watched hs
    · refine (congrArg watched hs).trans ((watched_normalized ?_).trans hag)
      rw [hr]
      exact hi.trimmed
  have hi' : Agrees w' := by
    refine ⟨sem_trimmed (c := .store (.saveRestored value)) (i := i) h hi.trimmed, fun e he => ?_⟩
    rw [hh] at he
    obtain ⟨ha, hc⟩ := hi.held e (List.mem_of_mem_filter he)
    exact ⟨hw.trans ha, hc⟩
  refine ⟨hi', ⟨fun u hu e he heu => ?_, ?_⟩, ?_⟩
  · rw [hh]
    have hn : e.thread ≠ t := by
      rw [heu]
      exact hu
    exact List.mem_filter.mpr ⟨he, decide_eq_true hn⟩
  · intro v hv
    cases hv
    exact ⟨hw, found, hJ, hva⟩
  · cases r with
    | ok _ | error _ => trivial

lemma effectiveTunnelOptionsWithState_spec (hJ : Loaded t found w) (mode : DomainResolutionMode) :
    wpl restoring t (effectiveTunnelOptionsWithState policy layer routeMode nowUnix mode) found
      (fun _ l w => Loaded t found w ∧ Differs found l)
      (fun _ l w => Loaded t found w ∧ Differs found l) w := by
  have hli {α : Type} (x : Split α) [Issues asking x] (l : StoredSplitTunnelState)
      (hl : Differs found l) {w : SplitWorld} (hJ : Loaded t found w) :
      wpl restoring t (Local.lift x) l (fun _ l' w => l' = l ∧ Loaded t found w)
        (fun _ l w => Loaded t found w ∧ Differs found l) w := by
    refine wpl_mono (fun _ _ _ h => h) ?_ ((loaded_tolerates t).wpl_lift x l hJ)
    rintro _ _ _ ⟨rfl, hJ⟩
    exact ⟨hJ, hl⟩
  have hla {x : Split TunnelOptions} [Issues asking x] (l : StoredSplitTunnelState)
      (hl : Differs found l) {w : SplitWorld} (hJ : Loaded t found w) :
      wpl restoring t (Local.lift x) l (fun _ l w => Loaded t found w ∧ Differs found l)
        (fun _ l w => Loaded t found w ∧ Differs found l) w := by
    refine wpl_mono ?_ (fun _ _ _ h => h) (hli x l hl hJ)
    rintro _ _ _ ⟨rfl, hJ⟩
    exact ⟨hJ, hl⟩
  refine wpl_seq (hli _ found rfl hJ) (fun _ _ _ h => h) ?_
  rintro _ l w ⟨hl, hJ⟩
  rw [hl]
  refine wpl_seq (hli _ found rfl hJ) (fun _ _ _ h => h) ?_
  rintro _ l w ⟨hl, hJ⟩
  rw [hl]
  split
  · rw [wpl_bind, wpl_get]
    refine wpl_seq (hli _ found rfl hJ) (fun _ _ _ h => h) ?_
    rintro _ l w ⟨hl, hJ⟩
    rw [hl]
    rw [wpl_bind, wpl_set]
    refine wpl_seq (hli _ _ (differs_with _) hJ) (fun _ _ _ h => h) ?_
    rintro _ _ w ⟨rfl, hJ⟩
    split
    · rw [wpl_throw]
      exact ⟨hJ, rfl⟩
    · exact hla _ (differs_with _) hJ
  · unfold updateState
    rw [wpl_bind, wpl_bind, wpl_get, wpl_set]
    refine wpl_seq (hli _ _ (differs_with _) hJ) (fun _ _ _ h => h) ?_
    rintro _ _ w ⟨rfl, hJ⟩
    exact hla _ (differs_with _) hJ

lemma planFromState_spec (hJ : Loaded t found w) :
    wpe restoring t (planFromState policy layer routeMode nowUnix false found)
      (fun answer w => Loaded t found w ∧ Differs found answer.2) (fun _ _ => True) w := by
  unfold planFromState
  rw [wpe_observe]
  exact effectiveTunnelOptionsWithState_spec hJ _

lemma effectiveTunnelOptionsForRestoration_spec :
    wpe restoring t (effectiveTunnelOptionsForRestoration policy layer routeMode nowUnix)
      (fun _ _ => True) (fun _ _ => True) w := by
  refine wpe_seq loadForRestoration_spec (fun _ _ h => h) fun found w hJ => ?_
  refine wpe_seq (planFromState_spec hJ) (fun _ _ h => h) ?_
  rintro ⟨_, state⟩ w ⟨hJ, hs⟩
  have hsa : wpe restoring t (outcome (stored (.saveRestored state))) (fun _ _ => True)
      (fun _ _ => True) w := by
    rw [wpe_outcome]
    exact saveRestored_spec hJ hs
  exact wpe_seq hsa (fun _ _ h => h) fun _ w _ => (plain_tolerates t).wpe _ trivial

lemma restoreRunningSplitTunnelOptions_spec (connection : Connection) :
    wpe restoring t (SplitTunnel.restoreRunningSplitTunnelOptions connection nowUnix)
      (fun _ _ => True) (fun _ _ => True) w := by
  have hp {α : Type} (x : Split α) [Issues plain x] {w : SplitWorld} :
      wpe restoring t x (fun _ _ => True) (fun _ _ => True) w := (plain_tolerates t).wpe x trivial
  refine wpe_seq (hp _) (fun _ _ h => h) fun answer w _ => ?_
  refine wpe_seq (hp _) (fun _ _ h => h) fun current w _ => ?_
  split
  · refine wpe_seq (hp _) (fun _ _ h => h) fun state w _ => ?_
    refine wpe_seq (hp _) (fun _ _ h => h) fun _ w _ => ?_
    rw [wpe_bind, wpe_outcome]
    have hr : ∀ (r : Except CoreError TunnelOptions) w, True →
        wpe restoring t pause (fun _ _ => True) (fun _ _ => True) w := fun _ _ _ => hp pause
    refine wpe_mono (fun a => hr (.ok a)) (fun e => hr (.error e)) ?_
    split
    · exact effectiveTunnelOptionsForRestoration_spec
    · exact hp _
  · exact hp _

end Programs

lemma restoring_covers : Covers (S := splitSystem) restoring := by
  intro op t w _
  have ht {α : Type} {x : Split α} (hx : wpe restoring t x (fun _ _ => True) (fun _ _ => True) w) :
      wp restoring t (task x) (fun _ _ => True) w := by
    unfold task
    rw [wp_bind]
    exact wp_mono (fun _ _ _ => trivial) hx
  have hp {α : Type} (x : Split α) [Issues plain x] :
      wp restoring t (task x) (fun _ _ => True) w := ht ((plain_tolerates t).wpe x trivial)
  cases op with
  | restoreRunningSplitTunnelOptions connection =>
    exact ht (restoreRunningSplitTunnelOptions_spec connection)
  | _ => exact hp _

/-- The save of a restoration leaves policies, revisions and reports as they are
stored, and nothing was cleared since it loaded, in every run in which nobody
changes or clears them while a restoration holds a loaded state. -/
theorem restoredSave_keeps_latest {w₀ : SplitWorld} (hheld : w₀.held = [])
    (htrimmed : (current w₀).pendingApplyResults.length ≤ maxPendingApplyResults)
    {P P' : Pool splitSystem} (h : Reach undisturbed (Pool.idle w₀) P) {m : Move splitSystem}
    (hm : Meets undisturbed P m) (hs : P.move m = some P') {t : ℕ}
    {value : StoredSplitTunnelState} {i : Input}
    (hi : P.issued m = some (t, .store (.saveRestored value), i)) :
    watched (current P'.state) = watched (current P.state) ∧
      ∃ found, ⟨t, found, false⟩ ∈ P.state.held ∧
        value = { found with domainResolutions := value.domainResolutions } := by
  have hin : Agrees w₀ := by
    refine ⟨htrimmed, fun e he => ?_⟩
    rw [hheld] at he
    cases he
  have hr : ∀ w : SplitWorld, Agrees w → Agrees (.fresh w.record) := by
    intro w hw
    exact ⟨hw.trimmed, fun e he => by cases he⟩
  have hso : Sound restoring P := Reach.sound h restoring_covers hr hin
  exact (hso.issued hm hs hi).2 value rfl

def samplePolicy (policyHash : String) (revision : Int) : SplitTunnelPolicy :=
  ⟨false, revision, revision, revision, policyHash, []⟩

def sampleRecord : RuntimeState :=
  { RuntimeState.empty .latest "1" false with
    appliedSplitTunnel := { cachedPolicy := some (samplePolicy "old" 1),
                            workingPolicyHash := some "old" } }

def sampleConnection : Connection :=
  { leaseId := "lease", sessionId := none, poolId := none, layer := .stray,
    transportProtocol := .wireguard, ticConnectionMode := .dynamic, routeMode := .standalone,
    egressMode := .ipv4, probeUrl := none, status := .connected, pinned := false, stoppedAt := none }

def capable : Input := .answer .capabilities (.ok ⟨.linux, none, true⟩)

def storeDone : Input := .store []

def restorationLoaded : List (Move splitSystem) :=
  List.flatten [[.start (.restoreRunningSplitTunnelOptions sampleConnection 0)], segment 0 [],
    segment 0 [.answer (.stillCurrent sampleConnection) (.ok true), storeDone],
    segment 0 [capable, storeDone]]

def restorationPlanned : List (Move splitSystem) :=
  List.flatten [segment 0 [capable],
    segment 0 [.answer (.effectiveOptions (samplePolicy "old" 1) .stray .standalone []) (.ok {})]]

def settingsStored : List (Move splitSystem) :=
  List.flatten [[.start (.saveSplitTunnelSettings 0)], segment 1 [],
    segment 1 [.go, storeDone, storeDone], segment 1 [.answer .access (.ok ())],
    segment 1 [.answer (.policy .settings) (.ok (samplePolicy "new" 2)),
      .answer (.validate (samplePolicy "new" 2)) (.ok ()), storeDone]]

/-- Settings that are stored between the load and the save of a restoration are lost. -/
theorem restoredSave_reverts_settings :
    ¬ ∀ P P' : Pool splitSystem,
      Reach (unconditioned _) (Pool.idle (SplitWorld.fresh sampleRecord)) P →
      ∀ m t value i, P.move m = some P' →
        P.issued m = some (t, Cmd.store (.saveRestored value), i) →
        watched (current P'.state) = watched (current P.state) := by
  intro h
  have hru : lastMove (unconditioned _) (Pool.idle (SplitWorld.fresh sampleRecord))
      (restorationLoaded ++ settingsStored ++ restorationPlanned) (.step 0 storeDone)
      (fun P P' => ((P.issued (.step 0 storeDone)).map (fun x => (x.1, x.2.1)),
        (current P.state).cachedPolicy, (current P'.state).cachedPolicy)) =
      some (some (0, Cmd.store (.saveRestored sampleRecord.appliedSplitTunnel)),
        some (samplePolicy "new" 2), some (samplePolicy "old" 1)) := by decide +kernel
  obtain ⟨P, P', hr, -, hP', ho⟩ := Reach.lastMove hru
  simp only [Prod.mk.injEq] at ho
  obtain ⟨hi, hb, ha⟩ := ho
  obtain ⟨⟨t, c, i⟩, hi, hc⟩ := Option.map_eq_some_iff.mp hi
  obtain ⟨rfl, rfl⟩ := Prod.mk.inj hc
  have hs := h P P' hr _ _ _ _ hP' hi
  have hp : (current P'.state).cachedPolicy = (current P.state).cachedPolicy := congrArg Prod.fst hs
  rw [ha, hb] at hp
  exact absurd hp (by decide)

theorem restoredSave_keeps_latest_alone :
    ∃ P P' : Pool splitSystem, Reach undisturbed (Pool.idle (SplitWorld.fresh sampleRecord)) P ∧
      (P.issued (.step 0 storeDone)).map (fun x => (x.1, x.2.1)) =
        some (0, Cmd.store (.saveRestored sampleRecord.appliedSplitTunnel)) ∧
      P.move (.step 0 storeDone) = some P' ∧
      watched (current P'.state) = watched (current P.state) := by
  have hru : lastMove undisturbed (Pool.idle (SplitWorld.fresh sampleRecord))
      (restorationLoaded ++ restorationPlanned) (.step 0 storeDone)
      (fun P _ => (P.issued (.step 0 storeDone)).map fun x => (x.1, x.2.1)) =
      some (some (0, Cmd.store (.saveRestored sampleRecord.appliedSplitTunnel))) := by
    decide +kernel
  obtain ⟨P, P', hr, hm, hP', hi⟩ := Reach.lastMove hru
  refine ⟨P, P', hr, hi, hP', ?_⟩
  obtain ⟨⟨t, c, i⟩, hi, hc⟩ := Option.map_eq_some_iff.mp hi
  obtain ⟨rfl, rfl⟩ := Prod.mk.inj hc
  exact (restoredSave_keeps_latest rfl (Nat.zero_le _) hr hm hP' hi).1

end NelomaiClient.SplitRestoration
