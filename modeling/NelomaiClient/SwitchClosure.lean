import NelomaiClient.UpdateBarrier

/-!
# The switch journal under its own transitions

Every update that the coordinator makes must give a journal that
`validate_journal` accepts. The invariant adds one clause to the checks: a
journal that is resuming and has a supersede left can finish that supersede
first. It fails when a resume is recorded beside a pending supersede, because
the supersede is then left in the journal for good and the last update is
refused.
-/

namespace NelomaiClient.SwitchClosure

open AwaitProgram AwaitPool AwaitRely AwaitFallible
open RuntimeRecord SplitRecord SwitchRecord SwitchCoordinator UpdateBarrier

section Invariant

/-- A resuming journal finishes its supersede before anything else, if it has one. -/
def Pledged (j : SwitchJournal) : Prop :=
  j.phase = .authResuming → unfinishedSupersede j = none → j.supersedeOperationId = none

structure Closed (json : Json) (s : SwitchWorld) : Prop where
  kept : s.rejected = false
  accepted : ∀ j, s.switch = some j → j.valid json = true
  /-- A supersede that is left can be finished. -/
  pledged : ∀ j, s.switch = some j → Pledged j

/-- A resume is recorded only when no supersede is pending, and the request that
the broker names as the next one is one that a journal can follow. -/
def OrderlyChange (s : SwitchWorld) : JournalChange → Prop
  | .resume _ _ => ∀ j ∈ s.switch, j.supersedeOperationId = none
  | .succeed successor _ | .advance successor => ∀ j ∈ s.switch, successor.Follows j
  | _ => True

def Orderly : ℕ → SwitchCmd → SwitchInput → SwitchWorld → Prop
  | _, .update change, _, s => OrderlyChange s change
  | _, _, _, _ => True

instance decidableOrderlyChange (s : SwitchWorld) (change : JournalChange) :
    Decidable (OrderlyChange s change) := by
  unfold OrderlyChange
  split <;> infer_instance

instance decidableOrderly (t : ℕ) (c : SwitchCmd) (i : SwitchInput) (s : SwitchWorld) :
    Decidable (Orderly t c i s) := by
  unfold Orderly
  split <;> infer_instance

variable (json : Json)

def closureContract : Contract (switchMachine json) := .sequential (Closed json) Orderly

/-- Every step of a program keeps the invariant, and its answer meets `Q`. -/
abbrev Runs {ε α : Type} (t : ℕ) (x : Fallible (switchMachine json) ε α)
    (Q : α → SwitchWorld → Prop) (s : SwitchWorld) : Prop :=
  Ensures (closureContract json) t x Q s

abbrev Steady {ε α : Type} (x : Fallible (switchMachine json) ε α) : Prop :=
  Fixes (closureContract json) SwitchWorld.switch x

abbrev Sound {ε α : Type} (x : Fallible (switchMachine json) ε α) : Prop :=
  Keeps (closureContract json) x

end Invariant

section Commands

variable {json : Json} {ε : Type} {t : ℕ} {s : SwitchWorld}

def Quiet (json : Json) (c : SwitchCmd) : Prop :=
  ∀ i (s : SwitchWorld), (s.exec json i c).2.switch = s.switch ∧
    (s.exec json i c).2.rejected = s.rejected

lemma Closed.congr (h : Closed json s) (hs : s'.switch = s.switch)
    (hr : s'.rejected = s.rejected) : Closed json s' := by
  constructor
  · exact hr.trans h.kept
  · exact hs ▸ h.accepted
  · exact hs ▸ h.pledged

lemma Quiet.wp (h : Quiet json c) (t : ℕ) (s : SwitchWorld) :
    wp (closureContract json) t (Prog.call (M := switchMachine json) c)
      (fun _ s' => s'.switch = s.switch) s :=
  wp_exec fun i hi _ => ⟨hi.congr (h i s).1 (h i s).2, (h i s).1⟩

lemma Quiet.command (h : Quiet json c) : Steady json (command json c) :=
  Fixes.surely h.wp

variable {α : Type}

lemma steady_demand (value : Option α) : Steady json (demand json value) := .decided _

lemma write_quiet (file : FileOutcome) (hs : effect.switch = s.switch)
    (hr : effect.rejected = s.rejected) :
    (file.write s effect report).2.switch = s.switch ∧ (file.write s effect report).2.rejected =
      s.rejected := by
  cases file with
  | done | late => exact ⟨hs, hr⟩
  | failed | oversized => exact ⟨rfl, rfl⟩

lemma steady_snapshot : Steady json (snapshot json) :=
  Fixes.relabel (.attempt (Quiet.wp fun _ _ => ⟨rfl, rfl⟩))

lemma steady_currentSelection : Steady json (currentSelection json) :=
  Fixes.relabel (.attempt (Quiet.wp fun _ _ => ⟨rfl, rfl⟩))

lemma steady_inquire : Steady json (inquire json q) :=
  Fixes.relabel (.attempt (Quiet.wp fun _ _ => ⟨rfl, rfl⟩))

lemma steady_loadUpdate : Steady json (loadUpdate json) :=
  Fixes.relabel (.attempt (Quiet.wp fun _ _ => ⟨rfl, rfl⟩))

lemma steady_finishSelection (slot : RuntimeSlot) : Steady json (finishSelection json slot) := by
  refine Fixes.relabel (.attempt (Quiet.wp fun i s => ?_))
  simp only [SwitchWorld.exec]
  split
  · exact ⟨rfl, rfl⟩
  · exact write_quiet i.file rfl rfl

lemma steady_replaceUpdate (u : UpdateJournal) : Steady json (replaceUpdate json u) := by
  refine Fixes.relabel (.attempt (Quiet.wp fun i s => ?_))
  simp only [SwitchWorld.exec]
  split
  · exact write_quiet i.file rfl rfl
  · exact ⟨rfl, rfl⟩

lemma steady_removeUpdate : Steady json (removeUpdate json) :=
  Fixes.relabel (.attempt (Quiet.wp fun i _ => write_quiet i.file rfl rfl))

lemma steady_newUuid : Steady json (command json .newUuid) := Quiet.command fun _ _ => ⟨rfl, rfl⟩

lemma steady_unixTimeMs : Steady json (command json .unixTimeMs) :=
  Quiet.command fun _ _ => ⟨rfl, rfl⟩

lemma steady_coordinator : Steady json (command json .coordinator) :=
  Quiet.command fun _ _ => ⟨rfl, rfl⟩

lemma steady_ask : Steady json (command json (.ask q)) :=
  Quiet.command fun _ _ => ⟨rfl, rfl⟩

lemma looks_snapshot : Runs json t (snapshot json)
    (fun current s' => current = s.switch ∧ s'.switch = s.switch) s :=
  (ensures_snapshot fun _ h => h.accepted).mono
    fun _ _ h => ⟨h.1, congrArg SwitchWorld.switch h.2.1⟩

lemma runs_update {change : JournalChange}
    (h : ∀ j, s.switch = some j → j.valid json = true → Pledged j → OrderlyChange s change →
      change.Fits j ∧ Pledged (change.apply j) ∧
      Q (change.apply j) { s with switch := some (change.apply j) }) :
    Runs json t (update json change) Q s := by
  refine Ensures.relabel (.attempt (wp_exec fun i hi hco => ?_))
  have hl := loadJournal_of_valid hi.accepted
  simp only [SwitchWorld.exec, SwitchWorld.updateSwitch, hl]
  cases hs : s.switch with
  | none => exact ⟨hi, fun a ha => by cases ha⟩
  | some j =>
    have hv := hi.accepted j hs
    obtain ⟨hf, hp, hQ⟩ := h j hs hv (hi.pledged j hs) hco
    have hn := SwitchJournal.valid_apply hv hf
    have hc : Closed json { s with switch := some (change.apply j) } := by
      constructor
      · exact hi.kept
      · intro _ hj'
        cases hj'
        exact hn
      · intro _ hj'
        cases hj'
        exact hp
    simp only [hn, if_true]
    obtain ⟨hk, hr⟩ := write_cases i.file hi hc
    refine ⟨hk, fun a ha => ?_⟩
    obtain ⟨rfl, hst⟩ := hr a ha
    rw [hst]
    exact hQ

lemma runs_beginRequested {journal : SwitchJournal}
    (h : journal.phase = .requested → Q () { s with switch := some journal }) :
    Runs json t (beginRequested json journal) Q s := by
  refine Ensures.relabel (.attempt (wp_exec fun i hi _ => ?_))
  simp only [SwitchWorld.exec, SwitchWorld.beginRequested]
  split
  · exact ⟨hi, fun a ha => by cases ha⟩
  · rename_i hc
    simp only [Bool.or_eq_true, Bool.not_eq_true', not_or, Bool.not_eq_false] at hc
    have hp : journal.phase = .requested := by
      have hf := hc.2
      simp only [SwitchWorld.frozenRequested, Bool.and_eq_true, decide_eq_true_eq] at hf
      exact hf.1.1.1.1.1.1.1
    have hcl : Closed json { s with switch := some journal } := by
      constructor
      · exact hi.kept
      · intro j hj
        cases hj
        exact hc.1.1
      · intro j hj hr
        cases hj
        rw [hp] at hr
        cases hr
    have hw : Closed json (i.file.write s { s with switch := some journal } ()).2 ∧
        ∀ a, (i.file.write s { s with switch := some journal } ()).1 = .ok a →
          Q a (i.file.write s { s with switch := some journal } ()).2 := by
      obtain ⟨hk, hre⟩ := write_cases i.file hi hcl
      refine ⟨hk, fun a ha => ?_⟩
      rw [(hre a ha).2]
      exact h hp
    split
    · exact ⟨hi, fun a ha => by cases ha⟩
    · exact hw
    · split
      · exact ⟨hi, fun a ha => by cases ha⟩
      · exact hw

end Commands

section Looks

variable {json : Json}

variable {j : SwitchJournal} {c : Coordinator}

lemma steady_validateSwitchLink (u : UpdateJournal) :
    Steady json (validateSwitchLink json manifest u) := by
  refine steady_snapshot.relabel.seq fun current => ?_
  cases current with
  | none => exact .pure ()
  | some j => exact .require _ _

lemma steady_updateBarrierPending : Steady json (updateBarrierPending json) :=
  steady_loadUpdate.map.relabel

lemma steady_updateStartRecovery : Steady json (updateStartRecovery json manifest) := by
  refine Fixes.relabel (steady_loadUpdate.seq fun current => ?_)
  cases current with
  | none => exact .pure _
  | some u => exact (steady_validateSwitchLink u).seq fun _ => .pure _

lemma steady_validateInterruptedUpdateProvenance :
    Steady json (validateInterruptedUpdateProvenance json j) := by
  refine (steady_demand _).seq fun _ => ?_
  refine (steady_inquire).seq fun _ => ?_
  refine (Fixes.require _ _).seq fun _ => ?_
  exact (steady_inquire).seq fun _ => .require _ _

lemma steady_checkAuthority : Steady json (checkAuthority json c j) := by
  refine Fixes.seq (Fixes.whenever ?_) fun _ => (steady_inquire).whenever
  refine (steady_updateStartRecovery).seq fun recovery => ?_
  cases recovery with
  | installed => exact steady_validateInterruptedUpdateProvenance
  | none | blocked | cancel => exact .pure ()

lemma steady_waiting : Steady json (waiting json j) := by
  unfold waiting
  split
  · exact .pure _
  · exact steady_unixTimeMs.seq fun _ => .pure _

lemma steady_frozenRequest : Steady json (frozenRequest json j) := by
  unfold frozenRequest
  split
  · exact steady_inquire
  · exact (steady_demand _).seq fun _ => (Fixes.decided _).relabel

lemma steady_withdrawable : Steady json (withdrawable json j) := by
  unfold withdrawable
  split
  · exact steady_inquire
  · exact .pure _

lemma runs_desiredTarget (t : ℕ) (s : SwitchWorld) :
    Runs json t (desiredTarget json c)
      (fun desired s' => desired.valid = true ∧ s'.switch = s.switch) s := by
  refine Ensures.after steady_currentSelection fun selection s' hs' => ?_
  cases ht : c.manifest.target (selection.pendingSlot.getD selection.selectedSlot) with
  | none => exact Ensures.throw
  | some => exact ⟨VerifiedContainerManifest.target_valid ht, hs'⟩

end Looks

section Recovery

variable {json : Json} {t : ℕ} {s : SwitchWorld} {j : SwitchJournal}

def At (phase : SwitchPhase) (s : SwitchWorld) : Prop := ∃ j, s.switch = some j ∧ j.phase = phase

lemma At.of_switch (h : At phase s) (hs : s'.switch = s.switch) : At phase s' :=
  h.imp fun _ hj => ⟨hs.trans hj.1, hj.2⟩

lemma pledged_of_phase (h : j.phase ≠ .authResuming) : Pledged j := fun hp => absurd hp h

lemma stopRules : StopRules (closureContract json) fun _ => True := by
  refine stopRules_of_update (fun _ h => h.accepted) fun t s j change hc _ hs hf => ?_
  refine runs_update fun k hk _ hp _ => ?_
  obtain rfl : k = j := Option.some.inj (hk.symm.trans hs)
  refine ⟨hf, ?_, rfl, trivial⟩
  cases change with
  | cleanupHandedOff | runtimeStopping | localStopped => exact pledged_of_phase (by nofun)
  | forceStop => exact hp
  | _ => cases hc

lemma retryDelay_bounds (attempt : ℕ) : 1 ≤ retryDelay attempt ∧ retryDelay attempt ≤ 30 := by
  have hp : 1 ≤ 2 ^ min (attempt - 1) 5 := Nat.one_le_two_pow
  unfold retryDelay
  omega

lemma nextAttempt_bounds (j : SwitchJournal) : 1 ≤ nextAttempt j ∧ nextAttempt j ≤ 32 := by
  unfold nextAttempt
  cases j.retry with
  | none => simp
  | some =>
    simp only [Option.elim_some]
    omega

variable {attempt delay : ℕ} {next : SwitchRetry}

lemma runs_recordRetry (ha : 1 ≤ attempt ∧ attempt ≤ 32) (hd : 1 ≤ delay ∧ delay ≤ 30)
    (hsw : s.switch = some j) :
    Runs json t (recordRetry json attempt delay)
      (fun _ s' => ∃ next, s'.switch = some (JournalChange.apply j (.retry next))) s := by
  refine Ensures.after steady_unixTimeMs fun now s1 hs1 => ?_
  have hr : Runs json t (update json (.retry ⟨attempt, delay,
      min (now + delay * 1000) (2 ^ 64 - 1)⟩))
      (fun _ s' => ∃ next, s'.switch = some (JournalChange.apply j (.retry next))) s1 := by
    refine runs_update fun k hk _ hp _ => ?_
    obtain rfl : k = j := Option.some.inj (hk.symm.trans (hs1.trans hsw))
    refine ⟨⟨ha.1, ha.2, hd.1, hd.2, ?_⟩, hp, _, rfl⟩
    simp only
    omega
  exact hr.seq fun _ _ hs2 => .pure hs2

lemma runs_postpone (ha : 1 ≤ attempt ∧ attempt ≤ 32) (hs : s.switch = some j) :
    Runs json t (postpone json attempt delay asked) (fun _ _ => True) s := by
  have hd : 1 ≤ max 1 (min (asked.getD delay) 30) ∧ max 1 (min (asked.getD delay) 30) ≤ 30 := by
    omega
  exact (runs_recordRetry ha hd hs).seq fun _ _ _ => .pure trivial

lemma keeps_unanswered (delay : ℕ) (error : BrokerError) :
    Sound json (unanswered json delay error) := by
  unfold unanswered
  split
  · exact .pure _
  · exact .throw _

lemma runs_beginResume (h : At .serverReconciling s) :
    Runs json t (beginResume json decision) (fun _ _ => True) s := by
  refine Ensures.after steady_newUuid fun id s1 hs1 => ?_
  obtain ⟨j, hj, hp⟩ := h.of_switch hs1
  have hr : Runs json t (update json (.resume id.value decision)) (fun _ _ => True) s1 := by
    refine runs_update fun k hk _ _ hc => ?_
    obtain rfl : k = j := Option.some.inj (hk.symm.trans hj)
    exact ⟨⟨hp, id.canonical⟩, fun _ _ => hc k hk, trivial⟩
  exact hr.seq fun _ _ _ => .pure trivial

def Superseding (desired : RuntimeTarget) (s : SwitchWorld) : Prop :=
  ∃ j id, s.switch = some j ∧ j.phase = .serverReconciling ∧ j.supersedeOperationId = some id ∧
    j.supersedeTarget = some desired

lemma Superseding.of_switch (h : Superseding desired s) (hs : s'.switch = s.switch) :
    Superseding desired s' := by
  obtain ⟨j, id, hj, hr⟩ := h
  exact ⟨j, id, hs.trans hj, hr⟩

lemma runs_supersedeOperation (hd : desired.valid = true)
    (hp : j.phase = .serverReconciling)
    (hsw : s.switch = some (JournalChange.apply j (.retry next))) :
    Runs json t (supersedeOperation json j desired) (fun _ s' => Superseding desired s') s := by
  unfold supersedeOperation
  split
  · rename_i id hi
    split
    · rename_i ht
      exact .pure ⟨_, id, hsw, hp, hi, ht⟩
    · exact .throw
  · refine Ensures.after steady_newUuid fun id s1 hs1 => ?_
    have hr : Runs json t (update json (.supersede id.value desired))
        (fun _ s' => Superseding desired s') s1 := by
      refine runs_update fun k hk _ _ _ => ?_
      obtain rfl := Option.some.inj (hk.symm.trans (hs1.trans hsw))
      refine ⟨⟨hp, id.canonical, hd⟩, pledged_of_phase ?_, _, id.value, rfl, hp, rfl, rfl⟩
      simp [JournalChange.apply, hp]
    exact hr.seq fun _ _ hs2 => .pure hs2

lemma keeps_clearSupersede : Sound json (update json .clearSupersede) :=
  fun _ _ => runs_update fun _ _ _ _ _ => ⟨trivial, fun _ _ => rfl, trivial⟩

lemma runs_follow (h : Superseding desired s) :
    Runs json t (follow json j supersedeId successorId desired) (fun _ _ => True) s := by
  refine Ensures.after steady_inquire fun source _ hs1 => ?_
  refine Ensures.after (f := SwitchWorld.switch) (Fixes.decided _).relabel fun frozen _ hs2 => ?_
  refine Ensures.after steady_newUuid fun resumeId s3 hs3 => ?_
  obtain ⟨k, _, hk, hp, hi, ht⟩ := h.of_switch (hs3.trans (hs2.trans hs1))
  have hr : Runs json t (update json (.succeed ⟨successorId,
      source.expectedSessionGeneration, desired, json.requestDigest frozen.request⟩ resumeId.value))
      (fun _ _ => True) s3 := by
    refine runs_update fun k' hk' _ _ hc => ?_
    obtain rfl : k' = k := Option.some.inj (hk'.symm.trans hk)
    refine ⟨⟨hp, hc k' hk', resumeId.canonical⟩, fun _ hn => ?_, trivial⟩
    simp [unfinishedSupersede, JournalChange.apply, SwitchJournal.follow, hi, ht] at hn
  refine hr.seq fun _ _ _ => ?_
  refine Ensures.after steady_inquire fun _ s5 _ => ?_
  exact (keeps_clearSupersede t s5).seq fun _ _ _ => .pure trivial

lemma runs_supersede (ha : 1 ≤ attempt ∧ attempt ≤ 32) (hd : desired.valid = true)
    (hp : j.phase = .serverReconciling)
    (hsw : s.switch = some (JournalChange.apply j (.retry next))) :
    Runs json t (supersede json j attempt delay frozen desired) (fun _ _ => True) s := by
  refine (runs_supersedeOperation hd hp hsw).seq fun _ _ hs1 => ?_
  refine Ensures.after steady_ask fun answer s2 hs2 => ?_
  have h2 := hs1.of_switch hs2
  cases answer with
  | error error => exact keeps_unanswered delay error t s2
  | ok =>
    obtain ⟨k, _, hk, -⟩ := h2
    dsimp only
    split
    · exact runs_postpone ha hk
    · exact runs_follow (hs1.of_switch hs2)

lemma runs_reconciled (ha : 1 ≤ attempt ∧ attempt ≤ 32)
    (hp : j.phase = .serverReconciling)
    (hsw : s.switch = some (JournalChange.apply j (.retry next))) :
    Runs json t (reconciled json c j attempt delay frozen) (fun _ _ => True) s := by
  have hat : At .serverReconciling s := ⟨_, hsw, hp⟩
  unfold reconciled
  split
  · exact runs_beginResume hat
  · refine (runs_desiredTarget t s).seq fun _ _ hs1 => ?_
    split
    · exact runs_beginResume (hat.of_switch hs1.2)
    · exact runs_supersede ha hs1.1 hp (hs1.2.trans hsw)

lemma runs_recoverReconcile (hp : j.phase = .serverReconciling) (hsw : s.switch = some j) :
    Runs json t (recoverReconcile json c j) (fun _ _ => True) s := by
  refine Ensures.after steady_waiting fun wait _ hs1 => ?_
  cases wait with
  | some => exact .pure trivial
  | none =>
    have ha := nextAttempt_bounds j
    refine (runs_recordRetry ha (retryDelay_bounds _) (hs1.trans hsw)).seq fun _ _ hs2 => ?_
    obtain ⟨_, hs2⟩ := hs2
    refine Ensures.after steady_frozenRequest fun _ _ hs3 => ?_
    refine Ensures.after steady_ask fun answer s4 hs4 => ?_
    have h4 := hs4.trans (hs3.trans hs2)
    cases answer with
    | error error => exact keeps_unanswered _ error t s4
    | ok =>
      dsimp only
      split
      · exact runs_postpone ha h4
      · exact runs_reconciled ha hp h4

lemma runs_advance (hp : j.phase = .authResuming) (hsw : s.switch = some j) :
    Runs json t (advance json j resumeId desired) (fun _ _ => True) s := by
  refine Ensures.after steady_inquire fun _ _ hs1 => ?_
  refine Ensures.after steady_inquire fun successor s2 hs2 => ?_
  have h2 := hs2.trans (hs1.trans hsw)
  have hr : Runs json t (update json (.advance ⟨successor.request.operationId,
      successor.request.expectedSessionGeneration, successor.request.targetIdentity,
      json.requestDigest successor.request⟩)) (fun _ _ => True) s2 := by
    refine runs_update fun k hk _ _ hc => ?_
    obtain rfl : k = j := Option.some.inj (hk.symm.trans h2)
    refine ⟨⟨hp, hc k hk⟩, pledged_of_phase ?_, trivial⟩
    simp [JournalChange.apply]
  exact hr.seq fun _ _ _ => .pure trivial

lemma runs_admitResumed (hp : j.phase = .authResuming) (hsw : s.switch = some j)
    (hf : unfinishedSupersede j = none) :
    Runs json t (admitResumed json j recorded target resumed) (fun _ _ => True) s := by
  refine Ensures.after (steady_demand _) fun _ _ hs1 => ?_
  refine Ensures.after (steady_demand _) fun _ _ hs2 => ?_
  refine Ensures.after steady_inquire fun _ _ hs3 => ?_
  refine Ensures.after (steady_finishSelection _) fun _ s4 hs4 => ?_
  have h4 := hs4.trans (hs3.trans (hs2.trans (hs1.trans hsw)))
  have hr : Runs json t (update json .complete) (fun _ _ => True) s4 := by
    refine runs_update fun k hk _ hpl _ => ?_
    obtain rfl : k = j := Option.some.inj (hk.symm.trans h4)
    refine ⟨⟨hp, hpl hp hf⟩, pledged_of_phase ?_, trivial⟩
    simp [JournalChange.apply]
  exact hr.seq fun _ _ _ => .pure trivial

lemma runs_dispatchResume (hp : j.phase = .authResuming) (hsw : s.switch = some j)
    (hf : unfinishedSupersede j = none) :
    Runs json t (dispatchResume json c j recorded) (fun _ _ => True) s := by
  refine Ensures.after (steady_demand _) fun decision _ hs1 => ?_
  refine Ensures.after (steady_demand _) fun _ _ hs2 => ?_
  refine Ensures.after (steady_demand _) fun _ _ hs3 => ?_
  refine Ensures.after steady_inquire fun _ s4 hs4 => ?_
  have h4 := hs4.trans (hs3.trans (hs2.trans (hs1.trans hsw)))
  cases decision with
  | cancel => exact runs_admitResumed hp h4 hf
  | apply =>
    refine (runs_desiredTarget t s4).seq fun _ _ hs5 => ?_
    have h5 := hs5.2.trans h4
    split
    · exact runs_admitResumed hp h5 hf
    · exact runs_advance hp h5

lemma runs_recoverResume (hp : j.phase = .authResuming) (hsw : s.switch = some j) :
    Runs json t (recoverResume json c j recorded) (fun _ _ => True) s := by
  refine Ensures.after steady_withdrawable fun withdrawn _ hs1 => ?_
  have h1 := hs1.trans hsw
  cases withdrawn with
  | true =>
    refine Ensures.after steady_newUuid fun id s2 hs2 => ?_
    have hr : Runs json t (update json (.withdraw id.value)) (fun _ _ => True) s2 := by
      refine runs_update fun k hk _ hpl _ => ?_
      obtain rfl : k = j := Option.some.inj (hk.symm.trans (hs2.trans h1))
      exact ⟨⟨hp, id.canonical⟩, hpl, trivial⟩
    exact hr.seq fun _ _ _ => .pure trivial
  | false =>
    refine Ensures.after steady_waiting fun wait s2 hs2 => ?_
    cases wait with
    | some => exact .pure trivial
    | none =>
      dsimp only
      split
      · refine Ensures.after steady_inquire fun _ s3 _ => ?_
        exact (keeps_clearSupersede t s3).seq fun _ _ _ => .pure trivial
      · rename_i hf
        exact runs_dispatchResume hp (hs2.trans h1) hf

end Recovery

section Calls

variable {json : Json}
variable (c : Coordinator)

lemma keeps_recoverRound : Sound json (recoverRound json c) := by
  intro t s
  refine looks_snapshot.seq fun current _ hs1 => ?_
  obtain ⟨hc, hs1⟩ := hs1
  cases current with
  | none => exact .pure trivial
  | some j =>
    refine Ensures.after steady_checkAuthority fun _ _ hs2 => ?_
    refine Ensures.after (steady_demand _) fun recorded s3 hs3 => ?_
    have h3 : s3.switch = some j := hs3.trans (hs2.trans (hs1.trans hc.symm))
    have hst (hr : j.stoppedOrLater = false) :
        Runs json t (Sum.inl <$> recoverStop json recorded : SwitchProg json Round)
          (fun _ _ => True) s3 := by
      refine Ensures.map ((stopRules.recoverStop recorded trivial fun k hk => ?_).mono fun _ _ _ => trivial)
      obtain rfl : k = j := Option.some.inj (hk.symm.trans h3)
      exact hr
    unfold recoverPhase
    cases hp : j.phase with
    | requested | cleanupHandedOff | runtimeStopping =>
      exact hst (by simp [SwitchJournal.stoppedOrLater, hp])
    | localStopped =>
      refine Ensures.map (runs_update fun k hk _ _ _ => ?_)
      obtain rfl : k = j := Option.some.inj (hk.symm.trans h3)
      refine ⟨hp, pledged_of_phase ?_, trivial⟩
      simp [JournalChange.apply]
    | serverReconciling => exact runs_recoverReconcile hp h3
    | authResuming => exact runs_recoverResume hp h3
    | complete => exact .pure trivial

lemma keeps_recoverLocked : Sound json (recoverLocked json c) :=
  fun _ _ => .loop fun _ => keeps_recoverRound c

lemma keeps_cancelAndRecover : Sound json (cancelAndRecover json c) := by
  intro t s
  have hr : Runs json t (update json .cancelRequested) (fun _ _ => True) s :=
    runs_update fun _ _ _ hp _ => ⟨trivial, hp, trivial⟩
  exact hr.seq fun _ s' _ => keeps_recoverLocked c t s'

lemma steady_requireIdle : Steady json (requireIdle json) :=
  steady_snapshot.seq fun _ => .require _ _

lemma steady_freezeRequest (source : TransitionSource) (target : Option RuntimeTarget)
    : Steady json (freezeRequest json source handoff target) := by
  refine (Fixes.require _ _).seq fun _ => ?_
  refine (steady_demand _).seq fun _ => ?_
  refine (steady_demand _).seq fun target => ?_
  refine steady_newUuid.seq fun _ => ?_
  exact (Fixes.decided _).relabel.seq fun _ => .pure _

lemma keeps_beginAndStop (journal : SwitchJournal) {α : Type} {f : Unit → SwitchProg json α}
    (hf : Sound json (f ())) :
    Sound json (beginRequested json journal >>= fun _ => stopHandoff json handoff >>= f) := by
  intro t s
  have hb : Runs json t (beginRequested json journal)
      (fun _ s' => ∀ j, s'.switch = some j → j.stoppedOrLater = false) s := by
    refine runs_beginRequested fun hp j hj => ?_
    cases hj
    simp [SwitchJournal.stoppedOrLater, hp]
  refine hb.seq fun _ _ hs1 => ?_
  exact (stopRules.stopHandoff handoff trivial hs1).seq fun _ s2 _ => hf t s2

lemma keeps_requestLocked (slot : RuntimeSlot) :
    Sound json (requestLocked json c slot recovering) := by
  have hb : Steady json (whenever (!recovering) do
      let pending ← updateBarrierPending json
      require (!pending) .recoveryRequired) :=
    Fixes.whenever (steady_updateBarrierPending.seq fun _ => .require _ _)
  refine hb.keeps.seq fun _ => ?_
  refine steady_requireIdle.keeps.seq fun _ => ?_
  refine (steady_inquire).keeps.seq fun _ => ?_
  refine (steady_inquire).keeps.seq fun _ => ?_
  refine (steady_freezeRequest _ _).keeps.seq fun journal => ?_
  exact keeps_beginAndStop journal (keeps_recoverLocked c)

lemma keeps_cancelPending : Sound json (cancelPending json) := by
  refine steady_updateBarrierPending.keeps.seq fun _ => ?_
  refine Keeps.require ?_
  exact steady_coordinator.keeps.seq fun c => keeps_cancelAndRecover c

lemma keeps_cancelPendingFor (active : RuntimeTarget) :
    Sound json (cancelPendingFor json active) := by
  refine steady_updateBarrierPending.keeps.seq fun _ => ?_
  refine steady_coordinator.keeps.seq fun c => ?_
  refine Keeps.require ?_
  refine steady_snapshot.keeps.seq fun current => ?_
  cases current with
  | none => exact .throw _
  | some j =>
    refine Keeps.require ?_
    split
    · exact Keeps.require (keeps_requestLocked c _)
    · exact keeps_cancelAndRecover c

lemma keeps_cancelUpdateStop (operationId : String) :
    Sound json (cancelUpdateStop json c operationId) := by
  refine steady_snapshot.keeps.seq fun current => ?_
  cases current with
  | none => exact .pure _
  | some j =>
    dsimp only
    split
    · split
      · exact .pure _
      · exact .throw _
    · split
      · split
        · exact .pure _
        · exact .throw _
      · exact keeps_cancelAndRecover c

lemma steady_demandSnapshot : Steady json (snapshot json >>= demand json) :=
  steady_snapshot.seq fun _ => steady_demand _

lemma keeps_continueUpdateStop (expected : String) :
    Sound json (continueUpdateStop json expected) := by
  intro t s
  have hf : Runs json t (snapshot json >>= demand json)
      (fun j s' => s'.switch = some j) s := by
    refine looks_snapshot.seq fun current s1 hs1 => ?_
    cases current with
    | none => exact Ensures.throw
    | some j => exact hs1.2.trans hs1.1.symm
  refine hf.seq fun j s1 hs1 => ?_
  refine Ensures.require fun _ => ?_
  have hst : Runs json t (whenever (!j.stoppedOrLater) do
      let recorded ← demand json j.runtimeSnapshot
      recoverStop json recorded) (fun _ _ => True) s1 := by
    refine wpe_whenever (fun hr => ?_) fun _ => trivial
    refine Ensures.after (steady_demand _) fun recorded s2 hs2 => ?_
    refine (stopRules.recoverStop recorded trivial fun k hk => ?_).mono fun _ _ _ => trivial
    obtain rfl : k = j := Option.some.inj (hk.symm.trans (hs2.trans hs1))
    simpa using hr
  refine hst.seq fun _ s2 _ => ?_
  refine Ensures.require fun _ => ?_
  refine Ensures.after steady_demandSnapshot fun _ _ _ => ?_
  exact Ensures.require fun _ => .pure trivial

lemma keeps_beginUpdateStop {persist : SwitchJournal → RuntimeSlot → SwitchProg json Unit}
    (hp : ∀ j slot, Steady json (persist j slot)) : Sound json (beginUpdateStop json c persist) := by
  refine steady_requireIdle.keeps.seq fun _ => ?_
  refine steady_currentSelection.keeps.seq fun _ => ?_
  refine (steady_inquire).keeps.seq fun _ => ?_
  refine (steady_demand _).keeps.seq fun _ => ?_
  refine (steady_demand _).keeps.seq fun _ => ?_
  refine Keeps.require ?_
  refine (steady_inquire).keeps.seq fun _ => ?_
  refine (steady_freezeRequest _ _).keeps.seq fun journal => ?_
  refine (hp _ _).keeps.seq fun _ => ?_
  refine keeps_beginAndStop journal ?_
  refine steady_demandSnapshot.keeps.seq fun _ => ?_
  exact Keeps.require ((Keeps.pure _))

lemma steady_demandUpdate : Steady json (demandUpdate json) :=
  steady_loadUpdate.seq fun _ => .decided _

lemma keeps_settlePrepare (hs : Sound json stop) : Sound json (settlePrepare json c stop) := by
  refine hs.relabel.outcome.seq fun result => ?_
  cases result with
  | error error =>
    have ha : Sound json (abandonPrepare json) := by
      refine steady_snapshot.relabel.keeps.outcome.seq fun current => ?_
      cases current with
      | error e => exact .pure _
      | ok => exact steady_removeUpdate.keeps.outcome.map.whenever
    exact ha.seq fun _ => (Keeps.throw _)
  | ok =>
    refine steady_demandUpdate.keeps.seq fun u => ?_
    refine (steady_validateSwitchLink _).keeps.seq fun _ => ?_
    exact Keeps.require ((steady_replaceUpdate _).keeps)

lemma keeps_prepare (target : String) : Sound json (prepare json target) := by
  refine Keeps.require ?_
  refine steady_coordinator.relabel.keeps.seq fun c => ?_
  refine Keeps.require ?_
  refine steady_loadUpdate.keeps.seq fun current => ?_
  cases current with
  | none =>
    refine keeps_settlePrepare c (keeps_beginUpdateStop c fun j _ => ?_)
    exact (steady_demand _).seq fun _ => (steady_replaceUpdate _).relabel
  | some u =>
    refine Keeps.require ?_
    refine (steady_validateSwitchLink _).keeps.seq fun _ => ?_
    exact (keeps_settlePrepare c (keeps_continueUpdateStop _)).whenever

lemma keeps_installerFailed : Sound json (installerFailed json c) := by
  refine steady_loadUpdate.keeps.seq fun current => ?_
  cases current with
  | none => exact .pure _
  | some u =>
    refine Keeps.require ?_
    refine (steady_replaceUpdate _).whenever.keeps.seq fun _ => ?_
    refine (keeps_cancelUpdateStop c _).relabel.seq fun progress => ?_
    cases progress with
    | pending => exact .throw _
    | ready => exact (steady_finishSelection _).relabel.keeps.seq fun _ => steady_removeUpdate.keeps

lemma keeps_beforeTunnelStartLocked : Sound json (beforeTunnelStartLocked json c recovering) := by
  have hs : Sound json (command json .satisfyInitialTransition) :=
    Fixes.keeps (Quiet.command fun _ _ => ⟨rfl, rfl⟩)
  have hr (j : Option SwitchJournal) : Sound json (initialTransitionRequired json c j) := by
    have hl : Steady json (command json .initialTransitionSatisfied) :=
      Quiet.command fun _ _ => ⟨rfl, rfl⟩
    refine hl.keeps.seq fun _ => ?_
    split
    · exact .pure _
    · split
      · exact .pure _
      · exact (steady_demand _).keeps.seq fun _ => (Keeps.pure _)
  refine (keeps_recoverLocked c).seq fun progress => ?_
  cases progress with
  | pending => exact .throw _
  | ready =>
    refine steady_snapshot.keeps.seq fun j => ?_
    refine (hr j).seq fun _ => ?_
    split
    · refine (steady_demand _).keeps.seq fun slot => ?_
      refine (keeps_requestLocked c slot).seq fun progress => ?_
      cases progress with
      | pending => exact .throw _
      | ready => exact hs
    · exact hs

lemma keeps_recoverUpdateForStart (recovery : UpdateStartRecovery) :
    Sound json (recoverUpdateForStart json c recovery) := by
  have hf (operationId : String) : Sound json (finishUpdateRecovery json operationId) := by
    refine Keeps.relabel (steady_demandUpdate.keeps.seq fun u => ?_)
    exact Keeps.require (steady_removeUpdate.keeps)
  cases recovery with
  | cancel operationId =>
    refine (keeps_cancelUpdateStop c operationId).seq fun progress => ?_
    cases progress with
    | pending => exact .throw _
    | ready => exact (steady_finishSelection _).keeps.seq fun _ => hf _
  | installed =>
    exact (keeps_beforeTunnelStartLocked c).seq fun _ => hf _
  | none | blocked => exact .throw _

lemma keeps_beforeTunnelStart (active : Option RuntimeTarget) :
    Sound json (beforeTunnelStart json active) := by
  have hs (c : Coordinator) : Sound json (active.elim (pure false) (restartRequired json c)) := by
    cases active with
    | none => exact .pure _
    | some =>
      refine steady_currentSelection.keeps.outcome.seq fun selection => ?_
      cases selection with
      | error e => exact .pure _
      | ok =>
        refine steady_snapshot.keeps.outcome.seq fun current => ?_
        cases current with
        | error e | ok => exact .pure _
  refine steady_coordinator.keeps.seq fun c => ?_
  refine (hs c).seq fun _ => ?_
  refine Keeps.require ?_
  refine (steady_updateStartRecovery).keeps.seq fun recovery => ?_
  cases recovery with
  | none => exact keeps_beforeTunnelStartLocked c
  | blocked | cancel | installed => exact keeps_recoverUpdateForStart c _

lemma keeps_recoverUpdate (installed : String) : Sound json (recoverUpdate json installed) := by
  refine steady_coordinator.relabel.keeps.seq fun c => ?_
  refine steady_loadUpdate.keeps.seq fun current => ?_
  cases current with
  | none => exact .pure _
  | some u =>
    refine Keeps.require ?_
    split
    · exact keeps_installerFailed c
    · refine Keeps.relabel ((steady_updateStartRecovery).keeps.seq fun recovery => ?_)
      cases recovery with
      | installed => exact keeps_recoverUpdateForStart c _
      | none | blocked | cancel => exact .throw _

lemma Closed.installed (h : Closed json s) (manifest : VerifiedContainerManifest)
    (selection : Option SlotSelection) (required : Option RuntimeSlot) :
    Closed json (s.installed json manifest selection required) := h.congr rfl rfl

lemma wp_switchProgram (op : SwitchOp) (t : ℕ) (s : SwitchWorld) :
    wp (closureContract json) t (switchProgram json op) (fun _ _ => True) s := by
  cases op with
  | beginRequested journal =>
    have hb : Sound json (beginRequested json journal) := fun t s => runs_beginRequested fun _ => trivial
    exact wp_unobserved (hb t s)
  | request slot =>
    exact wp_unobserved ((steady_coordinator.keeps.seq fun c => keeps_requestLocked c slot) t s)
  | recover => exact wp_unobserved ((steady_coordinator.keeps.seq fun c => keeps_recoverLocked c) t s)
  | cancelPending => exact wp_unobserved (keeps_cancelPending t s)
  | cancelPendingFor active => exact wp_unobserved ((keeps_cancelPendingFor active) t s)
  | cancelUpdateStop operationId =>
    exact wp_unobserved ((steady_coordinator.keeps.seq fun c => keeps_cancelUpdateStop c operationId) t s)
  | beforeTunnelStart active => exact wp_unobserved ((keeps_beforeTunnelStart active) t s)
  | prepare target => exact wp_unobserved ((keeps_prepare target) t s)
  | installerOpened =>
    refine wp_unobserved ((steady_demandUpdate.keeps.seq fun u => ?_) t s)
    exact Keeps.require ((steady_replaceUpdate _).keeps)
  | installerFailed =>
    exact wp_unobserved ((steady_coordinator.relabel.keeps.seq fun c => keeps_installerFailed c) t s)
  | recoverUpdate installed => exact wp_unobserved ((keeps_recoverUpdate installed) t s)
  | install manifest selection required =>
    have hi : Sound json (command json (.install manifest selection required)) :=
      fun t s => Ensures.surely (wp_exec fun i hin _ => ⟨hin.installed _ _ _, trivial⟩)
    exact wp_unobserved (hi t s)

end Calls

/-- Every update of the switch journal is accepted, and so is the journal on disk,
in every sequence of calls, crashes and starts on other containers: unless a
resume is recorded beside a pending supersede, or the broker names a request
that no journal can follow. -/
theorem journal_updates_accepted {json : Json} {s₀ : SwitchWorld} (hswitch : s₀.switch = none)
    (hkept : s₀.rejected = false) {P : Pool (switchSystem json)}
    (hrun : Reach (S := switchSystem json) Orderly (Pool.idle s₀) P) :
    P.state.rejected = false ∧ ∀ j, P.state.switch = some j → j.valid json = true := by
  have hf : Closed json s₀ := by
    constructor
    · exact hkept
    · intro j hj
      rw [hswitch] at hj
      cases hj
    · intro j hj
      rw [hswitch] at hj
      cases hj
  have hc : Closed json P.state :=
    Reach.sequential hrun (fun op t s _ => wp_switchProgram op t s)
      (fun s hs => hs.installed _ _ _) hf
  exact ⟨hc.kept, hc.accepted⟩

def plainDigest : Fingerprint :=
  ⟨"0123456789abcdef0123456789abcdef0123456789abcdef0123456789abcdef", by decide +kernel⟩

def plainJson : Json := ⟨fun _ => plainDigest, fun _ => plainDigest, fun _ => true⟩

def singleContainer (version : String) : VerifiedContainerManifest := ⟨version, ⟨version, 1⟩, none⟩

def singleRuntime (version : String) : RuntimeIdentity := ⟨.latest, version, 1, version, some 1⟩

def singleSource (version : String) : TransitionSource :=
  ⟨1, "family", some (singleRuntime version), "device", some 1, plainDigest.value⟩

def singleRecord (version : String) : RuntimeCleanupSnapshot :=
  ⟨.latest, version, some ⟨1, "family", singleRuntime version⟩, [], [], false⟩

instance neZeroTen : NeZero (10 : ℕ) := ⟨Nat.succ_ne_zero 9⟩

def numberedUuid (n : Fin 10) : FreshUuid where
  value := String.ofList ("00000000-0000-4000-8000-00000000000".toList ++ [Char.ofNat (48 + n.val)])
  canonical := by
    revert n
    decide +kernel

/-- The answers of a broker and a control that serve a runtime of version `version`; requests to
the server end as given. The broker begins a resume only to the target that is installed. -/
def singleReplies (version : String) (reconcile : Except BrokerError ReconcileReceipt) :
    (q : Question) → Except BrokerError (Reply q)
  | .transitionSource => .ok (singleSource version)
  | .handoffCleanup _ => .ok (singleRecord version)
  | .restoreTransitionRequest request _ => .ok ⟨request, "device", plainDigest.value⟩
  | .prepareCompletedApplyReconcile predecessor _ _ _ => .ok predecessor
  | .reconcileTransition _ => reconcile
  | .supersedeTransition _ _ _ => .error .timeout
  | .transitionResumeIsUndispatched _ => .ok true
  | .resumeTransition arguments installed =>
    if installed = some arguments.target then
      .ok ⟨arguments.target.toIdentity (arguments.expectedSessionGeneration.map (· + 1)), some "access"⟩
    else .error .recoveryRequired
  | .gracefulStop _ _ | .forceStop _ _ | .completeCleanupAndAdmit _ _ _
  | .retireCompletedTransitions _ _ | .finishSupersede _ _ => .ok ()

def upgradedWorld : SwitchWorld where
  coordinator := ⟨singleContainer "1.0.0", some (.fromIdentity (singleRuntime "1.0.0")), some .latest⟩
  initialTransitionSatisfied := false
  selection := some ⟨"1.0.0", .latest, none⟩
  switch := none
  update := none
  rejected := false

def callMoves {json : Json} (t : ℕ) (op : SwitchOp) (steps : ℕ) (i : SwitchInput) :
    List (Move (switchSystem json)) :=
  .start op :: segment t (List.replicate steps i)

/-- The switch to the new runtime waits for the server while the container of the old one is
installed again. The supersede back to the old runtime is recorded and gets no answer. Then the
switch is cancelled. -/
def cancelledUpgrade : List (Move (switchSystem plainJson)) :=
  callMoves 0 (.request .latest) 22
      ⟨.done, 1, numberedUuid 1, singleReplies "0.9.0" (.error .timeout)⟩ ++
    callMoves 1 (.install (singleContainer "0.9.0") (some ⟨"0.9.0", .latest, none⟩) (some .latest)) 1
      ⟨.done, 1, numberedUuid 1, singleReplies "0.9.0" (.error .timeout)⟩ ++
    callMoves 2 .recover 12
      ⟨.done, 1000000, numberedUuid 2, singleReplies "0.9.0" (.ok ⟨.clean, none⟩)⟩ ++
    callMoves 3 .cancelPending 19
      ⟨.done, 2000000, numberedUuid 3, singleReplies "0.9.0" (.ok ⟨.clean, none⟩)⟩

/-- The cancelled resume succeeds, and the last update of the journal is refused. -/
theorem cancel_beside_supersede_refused :
    upgradedWorld.switch = none ∧ upgradedWorld.rejected = false ∧
      ∃ P : Pool (switchSystem plainJson),
        Reach (unconditioned _) (Pool.idle upgradedWorld) P ∧ P.state.rejected = true ∧
        P.state.switch.map (fun j => (j.phase, j.decision)) = some (.authResuming, some .cancel) := by
  have hru : (moves (unconditioned _) (Pool.idle upgradedWorld) cancelledUpgrade).map
      (fun P => (P.state.rejected, P.state.switch.map fun j => (j.phase, j.decision))) =
        some (true, some (.authResuming, some .cancel)) := by
    decide +kernel
  obtain ⟨P, hre, ho⟩ := Reach.observed hru
  exact ⟨rfl, rfl, P, hre, congrArg Prod.fst ho, congrArg Prod.snd ho⟩

def completedUpgrade : List (Move (switchSystem plainJson)) :=
  callMoves 0 (.request .latest) 36
    ⟨.done, 1, numberedUuid 1, singleReplies "0.9.0" (.ok ⟨.clean, none⟩)⟩

/-- The invariant along a switch that completes. -/
theorem journal_updates_accepted_upgrade :
    ∃ P : Pool (switchSystem plainJson),
      P.state.switch.map (·.phase) = some .complete ∧ P.state.rejected = false := by
  have hru : (moves Orderly (Pool.idle upgradedWorld)
      completedUpgrade).map (fun P => P.state.switch.map (·.phase)) = some (some .complete) := by
    decide +kernel
  obtain ⟨P, hr, hp⟩ := Reach.observed hru
  exact ⟨P, hp, (journal_updates_accepted rfl rfl hr).1⟩

end NelomaiClient.SwitchClosure
