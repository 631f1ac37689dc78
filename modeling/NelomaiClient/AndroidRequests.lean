import NelomaiClient.AndroidAttempts

/-!
# Whole attempts and requests of the Android service

`runOnce` from the gate to its release, and the requests that run beside it: new
intents, cancellations and the dispatch of starts. Together every operation meets
its part of the contract, so every run whose steps meet the condition is sound.
-/

set_option synthInstance.maxSize 1024

namespace NelomaiClient.AndroidRequests

open AndroidRecovery AndroidRecoveryStore AndroidRecoverySteps AndroidCoordinator AndroidContract
open AndroidAttempts AwaitPool AwaitRely AwaitFallible AwaitFootprint

section Legacy

variable {params : AndroidParameters} {fits owner fresh : Prop} {t : ℕ} {w : AndroidWorld}

/-- The thread is inside the gate and nothing is orphaned, where that matters. -/
def LiveGated (owner : Prop) (t : ℕ) (w : AndroidWorld) : Prop :=
  w.operationGate = some t ∧ (owner → Live w.record)

lemma run_not_thrown {call : StoreCall}
    (hc : ∀ bootCount e, call.change params bootCount e ≠ .throws)
    (h : call.run params i before = (result, after)) : result ≠ .thrown := by
  unfold StoreCall.run at h
  split at h
  · cases h
    nofun
  · split at h
    · cases h
      nofun
    · rename_i ht
      exact absurd ht (hc _ _)
    · cases h
      nofun
    · split at h
      · cases h
        nofun
      · cases h
        nofun

lemma LiveGated.relied (h : LiveGated owner t w) (hr : Relied t w w1) : LiveGated owner t w1 :=
  ⟨(hr.2 h.1).1, fun hl => (hr.2 h.1).2.live (h.2 hl)⟩

def Legacy : StoreCall → Prop
  | .read | .recordFailure _ _ _ _ _ _ _ _ | .completeLegacyRuntimeStop _ => True
  | _ => False

lemma schedules_not_legacy
    (h : Schedules generation leaseId call desiredActive action) : ¬ Legacy call := by
  cases h <;> exact id

lemma live_legacy (hc : Legacy call)
    (hl : Live current) (hw : Wrote params current call next) : Live next := by
  cases hw with
  | recordFailure => exact hl
  | completeLegacyRuntimeStop => exact live_of_disarmed rfl
  | set hs => rcases hs with rfl | ⟨-, rfl | rfl⟩ <;> exact hc.elim
  | schedule hs => exact absurd hc (schedules_not_legacy hs)
  | _ => exact hc.elim

lemma live_run (hca : Legacy call)
    (hl : Live (recordOf before)) (h : call.run params i before = (result, after)) :
    Live (recordOf after) := by
  cases run_cases h with
  | broken code hd | refused code hd | thrown hd | same bootCount hr hd =>
    exact (kept_drifted hd).live hl
  | wrote bootCount hr hc =>
    exact live_legacy hca ((kept_reads hr).live hl) (change_cases hc)

lemma wpe_legacy (hc : Legacy call) (hli : LiveGated owner t w) :
    wpe (contract params fits owner fresh) t (stored params call) (fun _ => LiveGated owner t)
      (fun _ _ => False)
      w := by
  refine wpe_stored fun w1 hi hre i _ w' _ ha => ?_
  have hli1 := hli.relied hre
  obtain ⟨hr, hg, -⟩ := access_frame ha
  have hp : Permits params fits owner fresh call (recordOf w1.stored) := by
    cases call with
    | read | completeLegacyRuntimeStop => exact trivial
    | recordFailure => exact hli1.2
    | _ => exact hc.elim
  have hth : ∀ bootCount e, call.change params bootCount e ≠ .throws := by
    intro _ e h
    cases call with
    | read => cases h
    | recordFailure =>
      simp only [StoreCall.change, recordFailure, fenced] at h
      split at h
      · split at h <;> cases h
      · cases h
    | completeLegacyRuntimeStop =>
      simp only [StoreCall.change, completeLegacyRuntimeStop, fenced] at h
      split at h
      · split at h <;> cases h
      · cases h
    | _ => exact hc.elim
  have hli' : LiveGated owner t w' := ⟨hg.trans hli1.1, fun hl => live_run hc (hli1.2 hl) hr⟩
  exact ⟨(sane_run hp hi hr).1, guaranteed_access ha (.inl hli1.1),
    fun _ _ => hli', fun _ _ => hli', fun ht => absurd ht (run_not_thrown hth hr)⟩

end Legacy

section RunOnce

variable {params : AndroidParameters} {fits owner fresh : Prop} {t : ℕ} {w : AndroidWorld}

lemma wp_plain (hc : Plain c) (hst : ∀ template lease, c ≠ .start template lease)
    (hre : ∀ w w', J w → Relied t w w' → J w') (hsame : ∀ w w', J w → Same w w' → J w') (hJ : J w) :
    wp (contract params fits owner fresh) t (ask params c) (fun _ => J) w := by
  refine (wp_ask (M := android params) _ t c _ w).mpr fun _ hi hr i r w' _ _ hse => ?_
  have hs := plain_sem hc hse
  refine ⟨fun e he => hi e (hs.stored ▸ he), guaranteed_plain hs ?_ ?_,
    hsame _ _ (hre _ _ hJ hr) hs⟩
  · rintro _ _ rfl
    exact hc
  · intro template lease h
    exact absurd h (hst template lease)

lemma LiveGated.same (h : LiveGated owner t w) (hs : Same w w') : LiveGated owner t w' := by
  refine ⟨hs.gate.trans h.1, ?_⟩
  simp only [AndroidWorld.record, hs.stored]
  exact h.2

lemma legacy_recordDirectRetry (code : String) (pendingAction : Option PendingAction)
    (hl : LiveGated owner t w) :
    wpe (contract params fits owner fresh) t (recordDirectRetry params code pendingAction none)
      (fun _ => Gated t) (fun _ _ => False) w := by
  unfold recordDirectRetry
  refine wpe_seq (wpe_legacy (by exact trivial) hl) (fun _ _ h => h) fun result w1 hl1 => ?_
  cases result with
  | error => exact hl1.1
  | ok =>
    dsimp only [Option.any_none]
    simp only [Bool.false_eq_true, if_false]
    rw [wpe_bind, wpe_surely]
    refine wp_mono (fun _ _ hl2 => ?_) (wp_plain (by exact trivial) (by intro _ _ h; cases h)
      (fun _ _ h => h.relied) (fun _ _ h => h.same) hl1)
    exact wpe_seq (wpe_legacy (by exact trivial) hl2) (fun _ _ h => h) fun _ _ h => h.1

lemma legacy_stopLegacyRuntime (env : AndroidRecoveryEnvelope) (hl : LiveGated owner t w) :
    wpe (contract params fits owner fresh) t (stopLegacyRuntime params env)
      (fun _ => Gated t) (fun _ _ => False) w := by
  unfold stopLegacyRuntime
  rw [wpe_bind, wpe_outcome, wpe_bind]
  have ha : wp (contract params fits owner fresh) t (ask params .runtimeStop)
    (fun _ => LiveGated owner t) w :=
    wp_plain (by exact trivial) (by intro _ _ h; cases h) (fun _ _ h => h.relied)
      (fun _ _ h => h.same) hl
  refine wp_mono (fun answer w1 hl1 => ?_) ha
  cases answer with
  | error error =>
    cases error with
    | background | unexpected => exact legacy_recordDirectRetry _ _ hl1
  | ok stopped =>
    have hs : wpe (contract params fits owner fresh) t (legacyStopped params env stopped)
        (fun _ => Gated t) (fun _ _ => False) w1 := by
      unfold legacyStopped
      split
      · exact legacy_recordDirectRetry _ _ hl1
      · refine wpe_seq (wpe_legacy (by exact trivial) hl1) (fun _ _ h => h) fun result w2 h => ?_
        cases result with
        | ok e | error => exact h.1
    exact wpe_mono (fun _ w2 hg => hg) (fun _ _ h => h.elim) hs

lemma read_cases (h : StoreCall.read.run params i before = (.success e, after)) :
    after = some e ∨ after = none ∧ ∃ bootCount, e = .empty bootCount := by
  cases run_cases h with
  | same bootCount hr hd hs =>
    rcases hs with rfl | rfl
    · cases hd
      cases hr with
      | empty bootCount => exact .inr ⟨rfl, bootCount, rfl⟩
    · exact .inl rfl
  | wrote bootCount hr hc => cases hc

lemma read_kept (h : StoreCall.read.run params i before = (.success e, after)) :
    Kept e (recordOf after) := by
  rcases read_cases h with rfl | ⟨rfl, _, rfl⟩
  · exact .refl _
  · refine ⟨fun _ hl => ?_, fun _ hr => ?_, fun _ => live_of_disarmed rfl⟩
    · cases hl
    · cases hr

lemma read_generation (h : StoreCall.read.run params i before = (.success e, after)) :
    e.intent.generation = (recordOf after).intent.generation := by
  rcases read_cases h with rfl | ⟨rfl, _, rfl⟩
  · rfl
  · rfl

lemma wpe_firstRead (hg : Gated t w) :
    wpe (contract params fits owner fresh) t (stored params .read)
      (fun result w => Gated t w ∧ ∀ e, result = .ok e → Sane params fits owner fresh e ∧
        Kept e w.record) (fun _ _ => False) w := by
  refine wpe_stored fun _ hi hre i result w' _ ha => ?_
  have hg1 := hg.relied hre
  obtain ⟨hr, hga, -⟩ := access_frame ha
  obtain ⟨hi', hs⟩ := sane_run (show Permits params fits owner fresh .read _ from trivial) hi hr
  have hg' : Gated t w' := hga.trans hg1
  refine ⟨hi', guaranteed_access ha (.inl hg1), ?_, ?_, ?_⟩
  · rintro e rfl
    refine ⟨hg', ?_⟩
    rintro _ ⟨⟩
    refine ⟨hs e rfl, ?_⟩
    exact read_kept hr
  · rintro _ rfl
    refine ⟨hg', ?_⟩
    rintro _ ⟨⟩
  · intro ht
    refine absurd ht (run_not_thrown (fun _ _ h => ?_) hr)
    cases h

lemma wpe_attemptOnce (hg : Gated t w) :
    wpe (contract params fits owner fresh) t (attemptOnce params) (fun _ => Gated t)
      (fun _ w => ∃ σ, Held t σ w) w := by
  unfold attemptOnce
  refine wpe_seq (wpe_firstRead hg) (fun _ _ h => h.elim) fun result w1 h => ?_
  obtain ⟨hg1, hkn⟩ := h
  cases result with
  | error => exact hg1
  | ok envelope =>
    obtain ⟨hs, hk⟩ := hkn envelope rfl
    dsimp only
    split
    · rename_i hlg
      have hli : LiveGated owner t w1 := ⟨hg1, fun hl => hk.live (hs.legacy hl hlg)⟩
      exact wpe_mono (fun _ _ h => h) (fun _ _ h => h.elim)
        (legacy_stopLegacyRuntime envelope hli)
    · split
      · exact hg1
      · split
        · exact hg1
        · split
          · exact hg1
          · rename_i transaction hle
            obtain ⟨transaction', hle', hr, -⟩ := hk.lease transaction hle
            have hh : Held t (startOf transaction.replay) w1 :=
              ⟨hg1, .inl ⟨transaction', hle', congrArg startOf hr⟩⟩
            have : Of (startOf transaction.replay) transaction := ⟨rfl⟩
            exact wpe_mono (fun _ _ h => h) (fun _ _ h => ⟨_, h⟩)
              (ends_runOwned envelope transaction w1 hh)

lemma wpe_runGated (hg : Gated t w) :
    wpe (contract params fits owner fresh) t (runGated params) (fun _ => Gated t)
      (fun _ => Gated t) w := by
  unfold runGated
  rw [wpe_bind, wpe_outcome]
  refine wpe_mono (fun _ w1 h => h) (fun error w1 h => ?_) (wpe_attemptOnce hg)
  obtain ⟨σ, hh⟩ := h
  exact wpe_mono (fun _ _ h => h) (fun _ _ h => h.1) (ends_attemptFailed error w1 hh)

lemma wp_takeGate :
    wp (contract params fits owner fresh) t (ask params .takeGate)
      (fun taken w => taken = true → Gated t w) w := by
  refine (wp_ask (M := android params) _ t _ _ w).mpr fun w1 hi _ i r _ _ _ hs => ?_
  cases i with
  | go =>
    have hp := Option.some.inj hs
    cases hg : w1.operationGate with
    | none =>
      rw [hg] at hp
      obtain ⟨rfl, rfl⟩ := Prod.mk.inj hp
      refine ⟨hi, ⟨⟨Nat.le_refl _, fun _ _ => rfl, fun _ h => h, fun _ h => h, fun _ h => h⟩,
        fun _ => .refl _, fun u _ ho => ?_, fun _ _ h => (nomatch h), fun _ _ h => (nomatch h)⟩,
        fun _ => rfl⟩
      rw [hg] at ho
      cases ho
    | some u =>
      rw [hg] at hp
      obtain ⟨rfl, rfl⟩ := Prod.mk.inj hp
      refine ⟨hi, ⟨.refl _, fun _ => .refl _, fun _ _ h => h,
        fun _ _ h => (nomatch h), fun _ _ h => (nomatch h)⟩, ?_⟩
      intro h
      cases h
  | _ => cases hs

lemma wp_freeGate (hg : Gated t w) :
    wp (contract params fits owner fresh) t (ask params .freeGate) (fun _ _ => True) w := by
  refine (wp_ask (M := android params) _ t _ _ w).mpr fun _ hi hr i r _ _ _ hs => ?_
  have hg1 := hg.relied hr
  cases i with
  | go =>
    obtain ⟨-, rfl⟩ := Prod.mk.inj (Option.some.inj hs)
    refine ⟨hi, ⟨⟨Nat.le_refl _, fun _ _ => rfl, fun _ h => h, fun _ h => h, fun _ h => h⟩,
      fun ho => absurd hg1 ho, fun u hn ho => ?_, fun _ _ h => (nomatch h),
      fun _ _ h => (nomatch h)⟩, trivial⟩
    exact absurd (Option.some.inj (ho.symm.trans hg1)) hn
  | _ => cases hs

lemma wp_runOnce :
    wp (contract params fits owner fresh) t (runOnce params) (fun _ _ => True) w := by
  unfold runOnce
  rw [wp_bind]
  refine wp_mono (fun taken _ ht => ?_) wp_takeGate
  cases taken with
  | false => exact trivial
  | true =>
    simp only [if_true]
    rw [wp_bind]
    refine wp_mono (fun result _ h => ?_) (wpe_runGated (ht rfl))
    cases result with
    | error => exact wp_freeGate h
    | ok =>
      refine (wp_bind _ t _ _ _ _).mpr ?_
      refine wp_mono (fun _ _ h3 => wp_freeGate h3) ?_
      exact wp_plain (by exact trivial) (by intro _ _ h; cases h) (fun _ _ h => h.relied)
        (fun _ _ (h : Gated t _) hs => hs.gate.trans h) h

lemma wp_localRestart :
    wp (contract params fits owner fresh) t (localRestart params) (fun _ _ => True) w := by
  unfold localRestart
  rw [wp_bind]
  refine wp_mono (fun taken _ ht => ?_) wp_takeGate
  cases taken with
  | false => exact trivial
  | true => exact wp_freeGate (ht rfl)

end RunOnce

section Outside

variable (params : AndroidParameters)

/-- The start of a ticket may still commit: its generation is not passed, and no cancellation was
stored at its generation. -/
def TicketOpen (ticket : DispatchTicket) (w : AndroidWorld) : Prop :=
  ticket.expectedGeneration ≤ w.record.intent.generation ∧
    (w.record.intent.generation = ticket.expectedGeneration →
      ticket.expectedGeneration ≠ longMax → w.cancels = ticket.cancels)

def Ticketed : Option DispatchTicket → AndroidWorld → Prop
  | none, _ => True
  | some ticket, w => TicketOpen ticket w

def Commits (generation : Nat) : StoreCall → Prop
  | .beginStart g template replay => g = generation ∧ startOf replay = templateStart params template
  | .restartTerminal g template replay _ =>
    g = generation ∧ startOf replay = templateStart params template
  | _ => False

@[reducible]
def Requests : StoreCall → Prop
  | .read | .cancelCurrentIntent | .cancelCurrentIntentForQuickToggle
  | .scheduleStalledRecovery _ _ _ _ _ | .clearCredentialProvisioningBarrier _
  | .acknowledgeInitialTerminalDiagnostic _ _ => True
  | .setDesiredActive _ desiredActive => desiredActive = false
  | _ => False

/-- Commands of a thread outside the gate; a dispatched commit has the generation of its ticket. -/
@[reducible]
def Outsider (ticket : Option DispatchTicket) : (android params).Cmd → Prop
  | .store call => Requests call
  | .commit starter call =>
    (∃ g, Commits params g call) ∧
      ∀ issued, starter = .dispatched issued →
        ticket = some issued ∧ Commits params issued.expectedGeneration call
  | .takeGate | .freeGate | .finish _ | .start _ _ => False
  | _ => True

variable {params} {fits owner fresh : Prop} {t : ℕ} {w w' : AndroidWorld}
  {ticket : Option DispatchTicket}

variable {issued : DispatchTicket}

lemma TicketOpen.later (h : TicketOpen issued w) (hl : Later w w') : TicketOpen issued w' := by
  refine ⟨Nat.le_trans h.1 hl.generation, fun he hla => ?_⟩
  have hf : w.record.intent.generation = issued.expectedGeneration :=
    Nat.le_antisymm (he ▸ hl.generation) h.1
  rw [hl.cancels (hf.trans he.symm) (hf ▸ hla)]
  exact h.2 hf hla

lemma Ticketed.later (h : Ticketed ticket w) (hl : Later w w') : Ticketed ticket w' := by
  cases ticket with
  | none => trivial
  | some => exact TicketOpen.later h hl

lemma outside_commits (h : Commits params g call) : Outside call := by
  cases call with
  | beginStart | restartTerminal => exact trivial
  | _ => exact h.elim

lemma outside_requests (h : Requests call) : Outside call := by
  cases call with
  | read | cancelCurrentIntent | cancelCurrentIntentForQuickToggle | scheduleStalledRecovery
  | clearCredentialProvisioningBarrier | acknowledgeInitialTerminalDiagnostic => exact trivial
  | setDesiredActive => exact h
  | _ => exact h.elim

/-- A commit that writes finds the generation of its ticket, and that is not the last one. -/
lemma commit_generation (h : Commits params g call) (hw : Wrote params current call next) :
    current.intent.generation = g ∧ g ≠ longMax := by
  cases hw with
  | beginStart hr hn hg | restartTerminal hr hd hg =>
    exact ⟨h.1, h.1 ▸ (checkedIncrement_some hg).2⟩
  | set hs => rcases hs with rfl | ⟨-, rfl | rfl⟩ <;> exact h.elim
  | schedule hs =>
    have hn : ∀ {call : StoreCall} {d : Bool} {a : PendingAction} {g' : Nat} {o : String},
        Schedules g' o call d a → ¬ Commits params g call := by
      intro _ d a _ o hs
      cases hs <;> exact id
    exact absurd h (hn hs)
  | _ => exact h.elim

/-- A dispatched commit does not make an intent desired once a cancellation was stored. -/
lemma commit_after_cancel {call : StoreCall} {result : StoreResult}
    {stored stored' : Option AndroidRecoveryEnvelope} {cancels : ℕ}
    (hc : Commits params issued.expectedGeneration call)
    (hg : issued.expectedGeneration ≤ (recordOf stored).intent.generation)
    (ho : (recordOf stored).intent.generation = issued.expectedGeneration →
      issued.expectedGeneration ≠ longMax → cancels = issued.cancels)
    (h : call.run params i stored = (result, stored')) (hca : issued.cancels < cancels)
    (hdesired : (recordOf stored').intent.desiredActive = true) : stored' = stored := by
  have hdr : Drifted stored stored' → stored' = stored := by
    intro hd
    cases hd with
    | refl => rfl
    | stale => cases hdesired
  cases run_cases h with
  | broken code hd | refused code hd | thrown hd | same bootCount hr hd =>
    exact hdr hd
  | @wrote current next bootCount hr hch =>
    obtain ⟨_, hl⟩ := commit_generation hc (change_cases hch)
    have hre := generation_reads hr
    have hs : (recordOf stored).intent.generation = issued.expectedGeneration := by omega
    have := ho hs hl
    omega

lemma commit_step (hc : Outsider params ticket (.commit starter call))
    (hi : ∀ e, w.stored = some e → Sane params fits owner fresh e) (ht : Ticketed ticket w)
    (hma : fits → restartMatches params (.commit starter call) w = true)
    (hf : fresh → restartIsFirst (.commit starter call) w = true)
    (ha : w.access params call i = (result, w')) :
    (∀ e, w'.stored = some e → Sane params fits owner fresh e) ∧ Guaranteed params fits fresh t
      (.commit starter call) w w' := by
  obtain ⟨hrun, _, -⟩ := access_frame ha
  obtain ⟨⟨g, hcommit⟩, hd⟩ := hc
  have hg : Guaranteed params fits fresh t (.store call) w w' :=
    guaranteed_access ha (.inr (outside_commits hcommit))
  have hp : Permits params fits owner fresh call (recordOf w.stored) := by
    cases call with
    | beginStart => exact hcommit.2
    | restartTerminal =>
      refine ⟨hcommit.2, fun transaction hl => ⟨fun hm => ?_, fun hq => ?_⟩⟩
      · have hal := hma hm
        have hr : w.record.leaseTransaction = some transaction := hl
        simp only [restartMatches, hr, Option.all_some, beq_iff_eq] at hal
        exact hal
      · have hal := hf hq
        have hr : w.record.leaseTransaction = some transaction := hl
        simp only [restartIsFirst, hr, Option.all_some, bne_iff_ne] at hal
        exact hal
    | _ => exact hcommit.elim
  refine ⟨(sane_run hp hi hrun).1, hg.later, hg.outside, hg.gate, fun _ _ h => (nomatch h), ?_⟩
  rintro issued _ ⟨⟩ hca hdesired
  obtain ⟨rfl, he⟩ := hd issued rfl
  exact commit_after_cancel he ht.1 ht.2 hrun hca hdesired

lemma outsider_tolerates :
    Tolerates (contract params fits owner fresh) t (Ticketed ticket) (Outsider params ticket) where
  rely w w' _ ht hr := ht.later hr.1
  step c i r w w' hc hi ht hcn hse := by
    have hpl : Plain c → (∀ template lease, c ≠ .start template lease) →
        (contract params fits owner fresh).inv w' ∧ Guaranteed params fits fresh t c w w' ∧
          Ticketed ticket w' := by
      intro hp hsame
      have hs := plain_sem hp hse
      refine ⟨fun e he => hi e (hs.stored ▸ he), guaranteed_plain hs ?_ ?_, ht.later hs.later⟩
      · rintro _ _ rfl
        exact hp
      · intro template lease h
        exact absurd h (hsame template lease)
    cases c with
    | store call =>
      cases i with
      | store i =>
        have ha := Option.some.inj hse
        obtain ⟨hrun, -⟩ := access_frame ha
        have hpe : Permits params fits owner fresh call (recordOf w.stored) := by
          cases call with
          | setDesiredActive => exact hc
          | clearCredentialProvisioningBarrier g =>
            intro hl hcommit hd
            have hst := hcn.2.1 hl
            have hcommit' : w.record.intent.retry.lastErrorCode =
              some "background_credential_provision_pending" := hcommit
            have hd' : w.record.intent.desiredActive = true := hd
            simp only [ownerStays, hcommit', hd', bne_self_eq_false, Bool.not_true,
              Bool.false_or, Bool.or_eq_true] at hst
            exact hst
          | read | cancelCurrentIntent | cancelCurrentIntentForQuickToggle
          | scheduleStalledRecovery | acknowledgeInitialTerminalDiagnostic => exact trivial
          | _ => exact hc.elim
        exact ⟨(sane_run hpe hi hrun).1, guaranteed_access ha (.inr (outside_requests hc)),
          ht.later (later_access ha)⟩
      | _ => cases hse
    | commit =>
      cases i with
      | store i =>
        have ha := Option.some.inj hse
        obtain ⟨hi', hg⟩ := commit_step hc hi ht hcn.1 hcn.2.2 ha
        exact ⟨hi', hg, ht.later (later_access ha)⟩
      | _ => cases hse
    | takeGate | freeGate | start => exact hc.elim
    | _ => exact hpl trivial (by intro _ _ h; cases h)

lemma makes_outsider (h : Outsider params ticket c) :
    Makes (Outsider params ticket) (ask params c) := makes_ask h

instance [h : Makes (Outsider params ticket) (ask params (.store call))] :
    Issues (Outsider params ticket) (stored params call) := by
  refine issues_bind fun result => ?_
  cases result <;> (unfold storeOutcome; infer_instance)

instance : Issues (Outsider params ticket) (canCommitNewIntent params starter) := by
  cases starter <;> (unfold canCommitNewIntent; infer_instance)

lemma issues_commitNewIntent
    (h : ∀ issued, starter = .dispatched issued →
      ticket = some issued ∧ current.intent.generation = issued.expectedGeneration)
    (template : AndroidIntentTemplate) :
    Issues (Outsider params ticket) (commitNewIntent params starter current template) := by
  have hb : ∀ startOperationId, Makes (Outsider params ticket) (ask params (.commit starter
      (.beginStart current.intent.generation template
        (template.replay params startOperationId)))) := by
    intro _
    refine makes_outsider ⟨⟨_, rfl, rfl⟩, fun issued hs => ?_⟩
    exact ⟨(h issued hs).1, (h issued hs).2, rfl⟩
  have hr : ∀ startOperationId stopOperationId, Makes (Outsider params ticket)
      (ask params (.commit starter (.restartTerminal current.intent.generation template
        (template.replay params startOperationId) stopOperationId))) := by
    intro _ _
    refine makes_outsider ⟨⟨_, rfl, rfl⟩, fun issued hs => ?_⟩
    exact ⟨(h issued hs).1, (h issued hs).2, rfl⟩
  unfold commitNewIntent
  infer_instance

lemma issues_beginInternal (h : ∀ issued, starter = .dispatched issued → ticket = some issued)
    (template : AndroidIntentTemplate) :
    Issues (Outsider params ticket) (beginInternal params starter template) := by
  unfold beginInternal
  refine issues_bind fun admitted => ?_
  cases admitted with
  | false => exact inferInstanceAs (Issues _ (pure ()))
  | true =>
    show Issues _ (stored params .read >>= _)
    refine issues_bind fun read => ?_
    cases read with
    | error => infer_instance
    | ok current =>
      dsimp only
      unfold whenever
      split
      · rename_i hr
        have hg : ∀ issued, starter = .dispatched issued →
            ticket = some issued ∧ current.intent.generation = issued.expectedGeneration := by
          rintro issued rfl
          refine ⟨h issued rfl, ?_⟩
          simp only [Starter.expectedGeneration, Option.any_some, Bool.not_eq_true',
            Bool.or_eq_false_iff, bne_eq_false_iff_eq] at hr
          exact hr.1.1.2.symm
        have : Issues (Outsider params ticket) (commitNewIntent params starter current template) :=
          issues_commitNewIntent hg template
        refine issues_bind fun validated => ?_
        unfold beginValidated whenever
        split
        · refine issues_bind fun admitted => ?_
          split
          · refine issues_bind fun validated => ?_
            cases validated <;> (dsimp only; infer_instance)
          · infer_instance
        · infer_instance
      · infer_instance

instance : Issues (Outsider params ticket) (cancelPendingStartRequest params result) := by
  unfold cancelPendingStartRequest
  split
  · infer_instance
  · split <;> infer_instance

lemma issues_cancelWith (hc : Requests call) :
    Issues (Outsider params ticket) (cancelWith params call) := by
  have : Makes (Outsider params ticket) (ask params (.store call)) := makes_outsider hc
  unfold cancelWith
  infer_instance

lemma issues_cancelDispatched (hc : Requests call) :
    Issues (Outsider params ticket) (cancelDispatchedConnectionIntent params call) := by
  have : Issues (Outsider params ticket) (cancelWith params call) := issues_cancelWith hc
  unfold cancelDispatchedConnectionIntent
  infer_instance

lemma requests_cancelCall (generation : Option Nat) : Requests (cancelCall generation) := by
  cases generation with
  | none => exact trivial
  | some g => exact rfl

instance : Issues (Outsider params ticket) (stopOperation params transaction) := by
  unfold stopOperation
  split <;> infer_instance

instance : Issues (Outsider params ticket) (dataPlaneStalled params leaseId) := by
  unfold dataPlaneStalled
  refine issues_bind fun read => ?_
  cases read with
  | error => infer_instance
  | ok =>
    dsimp only
    split
    · infer_instance
    · split <;> infer_instance

instance : Issues (Outsider params ticket) (credentialProvisioningCompleted params) := by
  refine issues_bind fun read => ?_
  cases read <;> infer_instance

instance :
    Issues (Outsider params ticket)
      (AndroidCoordinator.acknowledgeInitialTerminalDiagnostic params generation episode) := by
  unfold AndroidCoordinator.acknowledgeInitialTerminalDiagnostic
  infer_instance

lemma issues_executeDispatched (h : ∀ issued, starter = .dispatched issued → ticket = some issued)
    (current : DispatchTicket) (template : AndroidIntentTemplate) :
    Issues (Outsider params ticket)
      (executeDispatchedConnectionIntent params current starter template) := by
  have : Issues (Outsider params ticket) (beginInternal params starter template) :=
    issues_beginInternal h template
  unfold executeDispatchedConnectionIntent
  infer_instance

lemma issues_quickStart (issued : DispatchTicket) (recoveryOwned : Bool)
    (template : Option AndroidIntentTemplate) :
    Issues (Outsider params (some issued))
      (executeDispatchedQuickStart params issued recoveryOwned template) := by
  unfold executeDispatchedQuickStart endTicket
  cases template with
  | none => infer_instance
  | some template =>
    have : Issues (Outsider params (some issued))
        (executeDispatchedConnectionIntent params issued (.dispatched issued) template) :=
      issues_executeDispatched (by rintro _ ⟨⟩; rfl) issued template
    infer_instance

lemma wpe_readGeneration :
    wpe (contract params fits owner fresh) t (stored params .read)
      (fun result w => ∀ e, result = .ok e → e.intent.generation ≤ w.record.intent.generation)
      (fun _ _ => True) w := by
  refine wpe_stored fun _ hi _ i result _ _ ha => ?_
  obtain ⟨hr, -⟩ := access_frame ha
  obtain ⟨hi', -⟩ := sane_run (show Permits params fits owner fresh .read _ from trivial) hi hr
  refine ⟨hi', guaranteed_access ha (.inr trivial), ?_, ?_, fun _ => trivial⟩
  · rintro e rfl _ ⟨⟩
    exact Nat.le_of_eq (read_generation hr)
  · rintro _ rfl _ ⟨⟩

lemma wp_dispatchStart (hg : g ≤ w.record.intent.generation) :
    wp (contract params fits owner fresh) t (ask params (.dispatchStart g)) TicketOpen w := by
  refine (wp_ask (M := android params) _ t _ _ w).mpr fun _ hi hr i r _ _ _ hse => ?_
  have hs := plain_sem (by exact trivial) hse
  refine ⟨fun e he => hi e (hs.stored ▸ he), guaranteed_plain hs (by intro _ _ h; cases h)
    (by intro _ _ h; cases h), ?_⟩
  cases i with
  | go =>
    obtain ⟨rfl, rfl⟩ := Prod.mk.inj (Option.some.inj hse)
    exact ⟨Nat.le_trans hg hr.1.generation, fun _ _ => rfl⟩
  | _ => cases hse

lemma wp_toggle (hg : g ≤ w.record.intent.generation) :
    wp (contract params fits owner fresh) t
      (ask params (.toggle g desiredActive recoveryOwned redundant))
      (fun dispatch w =>
        ∀ issued owned, dispatch = .start issued owned → TicketOpen issued w) w := by
  refine (wp_ask (M := android params) _ t _ _ w).mpr fun _ hi hr i r _ _ _ hse => ?_
  have hs := plain_sem (by exact trivial) hse
  refine ⟨fun e he => hi e (hs.stored ▸ he), guaranteed_plain hs (by intro _ _ h; cases h)
    (by intro _ _ h; cases h), ?_⟩
  cases i with
  | go =>
    have hp := Option.some.inj hse
    unfold AndroidWorld.toggle at hp
    split at hp
    · obtain ⟨rfl, rfl⟩ := Prod.mk.inj hp
      intro _ _ h
      split at h <;> cases h
    · obtain ⟨rfl, rfl⟩ := Prod.mk.inj hp
      rintro _ _ ⟨⟩
      exact ⟨Nat.le_trans hg hr.1.generation, fun _ _ => rfl⟩
  | _ => cases hse

/-- What the operations outside the attempts need of a contract: `I` holds of the ticket under
which they run, and of the one that is dispatched at the generation that they read. -/
structure Serves (K : Contract (android params)) (I : Option DispatchTicket → AndroidWorld → Prop) :
    Prop where
  untold : ∀ w, I none w
  outsider : ∀ t w ticket (x : Coordinate params Unit) [Issues (Outsider params ticket) x],
    I ticket w → wpe K t x (fun _ _ => True) (fun _ _ => True) w
  opens : ∀ t w, wpe K t (stored params .read)
    (fun result w => ∀ e, result = .ok e →
      wp K t (ask params (.dispatchStart e.intent.generation)) (fun issued => I (some issued)) w ∧
      ∀ active owned redundant,
        wp K t (ask params (.toggle e.intent.generation active owned redundant))
          (fun dispatch w => ∀ issued owned, dispatch = .start issued owned → I (some issued) w) w)
    (fun _ _ => True) w

lemma Serves.explicitStart (hs : Serves K I)
    (hst : ∀ current issued, starter current = .dispatched issued → current = issued)
    (template : AndroidIntentTemplate) :
    wpe K t (explicitStart params starter template) (fun _ _ => True) (fun _ _ => True) w := by
  refine wpe_seq (hs.opens t w) (fun _ _ h => h) fun read w1 hr => ?_
  cases read with
  | error => exact trivial
  | ok current =>
    refine (wpe_bind _ t _ _ _ _ _).mpr ((wpe_surely _ t _ _ _ _).mpr ?_)
    refine wp_mono (fun issued w2 ho => ?_) (hr current rfl).1
    have : Issues (Outsider params (some issued))
        (executeDispatchedConnectionIntent params issued (starter issued) template) :=
      issues_executeDispatched (fun other h => congrArg some (hst issued other h)) issued template
    exact hs.outsider t w2 (some issued) _ ho

lemma Serves.quickToggle (hs : Serves K I) (template : Option AndroidIntentTemplate) :
    wpe K t (quickToggle params template) (fun _ _ => True) (fun _ _ => True) w := by
  unfold AndroidCoordinator.quickToggle
  refine wpe_seq (hs.opens t w) (fun _ _ h => h) fun read w1 hr => ?_
  cases read with
  | error => exact trivial
  | ok current =>
    refine (wpe_bind _ t _ _ _ _ _).mpr ((wpe_surely _ t _ _ _ _).mpr ?_)
    refine wp_mono (fun dispatch w2 ho => ?_) ((hr current rfl).2 _ _ _)
    cases dispatch with
    | start issued recoveryOwned =>
      have : Issues (Outsider params (some issued))
          (executeDispatchedQuickStart params issued recoveryOwned template) :=
        issues_quickStart issued recoveryOwned template
      have : Issues (Outsider params (some issued))
          (applyBackgroundToggleResult params template (.start issued recoveryOwned)) := by
        unfold applyBackgroundToggleResult endTicket
        infer_instance
      exact hs.outsider t w2 (some issued) _ (ho issued recoveryOwned rfl)
    | stop =>
      have : Issues (Outsider params none) (applyBackgroundToggleResult params template .stop) :=
        issues_cancelDispatched trivial
      exact hs.outsider t w2 none _ (hs.untold w2)
    | redundantStop startOperationId =>
      have : Issues (Outsider params none)
          (applyBackgroundToggleResult params template (.redundantStop startOperationId)) := by
        unfold applyBackgroundToggleResult
        infer_instance
      exact hs.outsider t w2 none _ (hs.untold w2)

lemma wp_request (h : wpe K t x (fun _ _ => True) (fun _ _ => True) w) :
    wp K t (request params x) (fun _ _ => True) w := by
  unfold request
  rw [wp_bind]
  exact wp_mono (fun _ _ _ => trivial) h

lemma Serves.covers (hs : Serves K I) (hrun : ∀ t w, wp K t (runOnce params) (fun _ _ => True) w)
    (hr : ∀ t w, wp K t (localRestart params) (fun _ _ => True) w) :
    Covers (S := androidSystem params) K := by
  intro op t w _
  have ho : ∀ (x : Coordinate params Unit) [Issues (Outsider params none) x],
      wp K t (request params x) (fun _ _ => True) w :=
    fun x _ => wp_request (hs.outsider t w none x (hs.untold w))
  cases op with
  | runOnce => exact hrun t w
  | localRestart => exact hr t w
  | begin template =>
    have : Issues (Outsider params none) (beginInternal params .plain template) :=
      issues_beginInternal (by rintro _ ⟨⟩) template
    exact ho _
  | cancel generation =>
    have : Issues (Outsider params none) (cancelWith params (cancelCall generation)) :=
      issues_cancelWith (requests_cancelCall generation)
    exact ho _
  | explicitStart template =>
    exact wp_request (hs.explicitStart (by rintro _ _ ⟨⟩; rfl) template)
  | ticketedBegin template =>
    exact wp_request (hs.explicitStart (by rintro _ _ ⟨⟩) template)
  | quickToggle template => exact wp_request (hs.quickToggle template)
  | cancelDispatched generation =>
    have : Issues (Outsider params none)
        (cancelDispatchedConnectionIntent params (cancelCall generation)) :=
      issues_cancelDispatched (requests_cancelCall generation)
    exact ho _
  | _ => exact ho _

lemma contract_serves : Serves (contract params fits owner fresh) Ticketed where
  untold _ := trivial
  outsider t w ticket x _ ht :=
    wpe_mono (fun _ _ _ => trivial) (fun _ _ _ => trivial) (outsider_tolerates.wpe x ht)
  opens t w := by
    refine wpe_mono (fun _ _ hr e he => ?_) (fun _ _ h => h) wpe_readGeneration
    exact ⟨wp_dispatchStart (hr e he), fun _ _ _ => wp_toggle (hr e he)⟩

lemma contract_covers : Covers (S := androidSystem params) (contract params fits owner fresh) :=
  contract_serves.covers (fun _ _ => wp_runOnce) (fun _ _ => wp_localRestart)

lemma reach_sound {e : Option AndroidRecoveryEnvelope} {P : Pool (androidSystem params)}
    (he : ∀ current, e = some current → Sane params fits owner fresh current)
    (h : Reach (contract params fits owner fresh).stepCondition
      (Pool.idle (AndroidWorld.fresh e)) P) :
    Sound (contract params fits owner fresh) P :=
  Reach.sound h contract_covers (fun _ hi => hi) he

end Outside

end NelomaiClient.AndroidRequests
