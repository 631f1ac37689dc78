import NelomaiClient.AuthBroker
import NelomaiClient.AuthChanges

/-!
# The discipline of the calls

What the programs of the broker promise about each command before they issue it,
whatever happens at their awaits: a call that has a ticket holds the issuance
lock, a login begins without a ticket, a refresh token is spent by the call that
was given it, and a reconcile is answered by the call that has sent it. The
promises are proved once over the programs and hold in every run.
-/

namespace NelomaiClient.AuthDiscipline

open AwaitProgram AwaitPool AwaitRely AwaitFallible
open Checked SwitchRecord AuthRecord AuthSections AuthChanges AuthBroker
open SwitchCoordinator (BrokerError FrozenReconcileRequest ResumeArguments)

section Promises

def Admitted (holds : Prop) (call : CallState) : Section → Prop
  | .finishSupersede _ _ | .retireCompletedTransitions _ _ | .stagePushCleanup _
  | .finishPushCleanup _ | .finishRuntimeLogoutCleanup _ => call.epoch = none
  | .restoreTransitionRequest _ _ | .captureLoginFence _ | .accessCheck _ | .transitionLookup _
  | .logoutFence _ _ | .logoutFinish _ _ _ | .acceptBackgroundRecovery _ _ =>
    call.epoch = none ∨ holds
  | .loginBegin _ _ => holds ∧ call.epoch = none
  | .bootstrapRejected ticket | .bootstrapAccepted ticket _ =>
    holds ∧ ticket.kind = .legacyBootstrap
  | .resumeBegin _ _ _ _ => holds ∧ call.reconciling = none
  | .resumeAccepted ticket _ _ _ => holds ∧ ticket.kind = .resume
  | .reconcileAnswered frozen _ => holds ∧ call.reconciling = some frozen.request.operationId
  | .reconcileFailed operationId _ => holds ∧ call.reconciling = some operationId
  | _ => holds

lemma admitted_mono (h : holds → holds') (ha : Admitted holds call c) : Admitted holds' call c := by
  cases c
  all_goals first
    | exact ha
    | exact h ha
    | exact ⟨h ha.1, ha.2⟩
    | exact ha.imp (fun hn => hn) h

def Disciplined (t : ℕ) (c : BrokerCmd) (w : BrokerWorld) : Prop :=
  match c with
  | .locked c => Admitted (w.issuance = some t) (w.calls t) c
  | .spend rotation => w.issuance = some t ∧ (w.calls t).rotation = some rotation
  | _ => True

def Untouched (u : ℕ) (w w' : BrokerWorld) : Prop :=
  w'.calls u = w.calls u ∧ (w.issuance = some u → w'.issuance = some u)

variable (p : Platform)

def discipline : Contract (brokerMachine p) where
  inv _ := True
  cond _ _ _ _ := True
  guar t c _ w w' := Disciplined t c w ∧ ∀ u, u ≠ t → Untouched u w w'
  rely u w w' := Untouched u w w'
  rely_refl _ _ := ⟨rfl, fun h => h⟩
  rely_trans _ _ _ _ h₁ h₂ := ⟨h₂.1.trans h₁.1, fun h => h₂.2 (h₁.2 h)⟩
  guar_rely _ u _ _ _ _ hne _ _ _ hguar := hguar.2 u (Ne.symm hne)

end Promises

section Frames

variable {p : Platform} {i : BrokerInput} {t u : ℕ} {w w' : BrokerWorld}

lemma untouched_setCall (hn : u ≠ t) (call : CallState) : Untouched u w (w.setCall t call) := by
  unfold Untouched BrokerWorld.setCall
  exact ⟨by simp [hn], fun h => h⟩

lemma Untouched.trans (h1 : Untouched u w w1) (h2 : Untouched u w1 w') : Untouched u w w' :=
  ⟨h2.1.trans h1.1, fun h => h2.2 (h1.2 h)⟩

inductive LockedStep (p : Platform) (t : ℕ) (w : BrokerWorld) (c : Section) :
    Except BrokerError c.Answer → BrokerWorld → Prop
  | refused (error : BrokerError) : LockedStep p t w c (.error error) w
  | read {uuid : FreshUuid} {a : c.Answer} (hvalid : w.auth.valid = true)
      (hrun : runSection p uuid w.auth c = .ok (a, none)) :
      LockedStep p t w c (.ok a) (w.setCall t ((w.calls t).after w.auth.authEpoch c a))
  | saved {uuid : FreshUuid} {a : c.Answer} {write : Write} (hvalid : w.auth.valid = true)
      (hrun : runSection p uuid w.auth c = .ok (a, some write)) (hrecord : write.record.valid = true) :
      LockedStep p t w c (.ok a)
        ((w.store write.record).setCall t ((w.calls t).after write.record.authEpoch c a))
  | late {uuid : FreshUuid} {a : c.Answer} {write : Write} (error : BrokerError)
      (hvalid : w.auth.valid = true) (hrun : runSection p uuid w.auth c = .ok (a, some write))
      (hrecord : write.record.valid = true) :
      LockedStep p t w c (.error error) (w.store write.record)

lemma lockedStep (p : Platform) (i : BrokerInput) (t : ℕ) (w : BrokerWorld) (c : Section) :
    LockedStep p t w c (w.locked p i t c).1 (w.locked p i t c).2 := by
  unfold BrokerWorld.locked
  split
  · exact .refused _
  · rename_i hl
    have hv : w.auth.valid = true := by
      simp only [Bool.or_eq_true, Bool.not_eq_true', not_or, Bool.not_eq_false] at hl
      exact hl.2
    split
    · exact .refused _
    · rename_i a hru
      exact .read hv hru
    · rename_i a write hru
      split
      · rename_i ha
        have hr : write.record.valid = true := by
          simp only [BrokerWorld.accepts, Bool.and_eq_true] at ha
          exact ha.2
        split
        · exact .saved hv hru hr
        · exact .refused _
        · exact .late _ hv hru hr
      · exact .refused _

/-- A section leaves the record as it is, or saves an accepted one. -/
lemma LockedStep.record (h : LockedStep p t w c r w') :
    w'.auth = w.auth ∨ ∃ uuid a write, runSection p uuid w.auth c = .ok (a, some write) ∧
      w'.auth = write.record ∧ write.record.valid = true := by
  cases h with
  | refused | read => exact .inl rfl
  | saved _ hru hr | late _ _ hru hr => exact .inr ⟨_, _, _, hru, rfl, hr⟩

lemma exec_locked (h : w.exec p i t (.locked c) = some (r, w')) :
    LockedStep p t w c r w' := by
  have hs := lockedStep p i t w c
  rw [Option.some.inj h] at hs
  exact hs

lemma untouched_locked (hn : u ≠ t)
    (h : LockedStep p t w c r w') : Untouched u w w' := by
  cases h with
  | refused | late => exact ⟨rfl, fun h => h⟩
  | read _ _ => exact untouched_setCall hn _
  | @saved _ _ write =>
    have hs : Untouched u w (w.store write.record) := ⟨rfl, fun h => h⟩
    exact hs.trans (untouched_setCall hn _)

inductive Executed (p : Platform) (t : ℕ) (w : BrokerWorld) : BrokerCmd → BrokerWorld → Prop
  | entered : Executed p t w .enter (w.setCall t {})
  | taken {c : BrokerCmd} (hfree : w.issuance = none) :
      Executed p t w c ({ w with issuance := some t }.setCall t {})
  | released {c : BrokerCmd} (hheld : w.issuance = some t) :
      Executed p t w c { w with issuance := none }
  | locked {c : Section} {r : Except BrokerError c.Answer} {w' : BrokerWorld}
      (h : LockedStep p t w c r w') : Executed p t w (.locked c) w'
  | spent {rotation : Rotation} :
      Executed p t w (.spend rotation)
        ({ w with spent := rotation :: w.spent }.setCall t { w.calls t with rotation := none })
  | silent {c : BrokerCmd} (retry : Option RefreshRetry) (stops : ℕ) :
      Executed p t w c { w with retry := retry, stops := stops }

lemma executed (h : w.exec p i t c = some (r, w')) : Executed p t w c w' := by
  cases c with
  | enter =>
    cases h
    exact .entered
  | lockIssuance =>
    simp only [BrokerWorld.exec] at h
    split at h
    · rename_i hn
      cases h
      exact .taken (Option.isNone_iff_eq_none.mp hn)
    · cases h
  | tryLockIssuance =>
    simp only [BrokerWorld.exec, Option.some.injEq] at h
    split at h
    · rename_i hn
      cases h
      exact .taken (Option.isNone_iff_eq_none.mp hn)
    · cases h
      exact .silent _ _
  | unlockIssuance =>
    simp only [BrokerWorld.exec, Option.some.injEq, Prod.mk.injEq, true_and] at h
    subst h
    split
    · rename_i hh
      exact .released hh
    · exact .silent _ _
  | locked c => exact .locked (exec_locked h)
  | spend =>
    cases h
    exact .spent
  | pace operationId =>
    have hp : (w.pace i operationId).2 = w' := by rw [Option.some.inj h]
    rw [← hp]
    unfold BrokerWorld.pace
    dsimp only
    split
    · exact .silent _ _
    · split
      · exact .silent _ _
      · exact .silent _ _
  | _ =>
    cases h
    exact .silent _ _

lemma untouched_exec (hn : u ≠ t) (h : w.exec p i t c = some (r, w')) :
    Untouched u w w' := by
  cases executed h with
  | entered => exact untouched_setCall hn _
  | taken hf =>
    refine ⟨by simp [BrokerWorld.setCall, hn], fun h => ?_⟩
    rw [hf] at h
    cases h
  | released hh =>
    refine ⟨rfl, fun h => ?_⟩
    rw [hh] at h
    exact (hn (Option.some.inj h).symm).elim
  | locked h => exact untouched_locked hn h
  | spent => exact ⟨by simp [BrokerWorld.setCall, hn], fun h => h⟩
  | silent => exact ⟨rfl, fun h => h⟩

end Frames

section Rules

variable {p : Platform} {α β : Type} {t : ℕ} {b : Bool} {call : CallState}

def Has (t : ℕ) (b : Bool) (call : CallState) (w : BrokerWorld) : Prop :=
  (b = true → w.issuance = some t) ∧ w.calls t = call

/-- A program keeps the discipline and its lock, and an answer meets `Q`. -/
def Follows (t : ℕ) (b : Bool) (call : CallState) (x : BrokerProg p α) (Q : α → CallState → Prop) :
    Prop :=
  ∀ w, Has t b call w → wpe (discipline p) t x (fun a w' => ∃ call', Q a call' ∧ Has t b call' w')
    (fun _ w' => ∃ call', Has t b call' w') w

abbrev Obeys (t : ℕ) (b : Bool) (call : CallState) (x : BrokerProg p α) : Prop :=
  Follows t b call x fun _ _ => True

/-- It ends with the call as it was. -/
abbrev Leaves (t : ℕ) (b : Bool) (call : CallState) (x : BrokerProg p α) : Prop :=
  Follows t b call x fun _ call' => call' = call

lemma Follows.pure {a : α} (h : Q a call) : Follows t b call (pure a : BrokerProg p α) Q :=
  fun _ hw => ⟨call, h, hw⟩

lemma Follows.throw : Follows t b call (throw e : BrokerProg p α) Q := fun _ hw => ⟨call, hw⟩

lemma Follows.seq {P : β → CallState → Prop} {f : β → BrokerProg p α} (hx : Follows t b call x P)
    (hf : ∀ a call', P a call' → Follows t b call' (f a) Q) : Follows t b call (x >>= f) Q := by
  intro w hw
  refine wpe_seq (hx w hw) (fun _ _ h => h) fun a w' h => ?_
  obtain ⟨call', ha, hw'⟩ := h
  exact hf a call' ha w' hw'

lemma Follows.mono {P : α → CallState → Prop} (hx : Follows t b call x P)
    (hp : ∀ a call', P a call' → Q a call') : Follows t b call x Q := by
  intro w hw
  refine wpe_mono (fun a _ h => ?_) (fun _ _ h => h) (hx w hw)
  obtain ⟨call', ha, hw'⟩ := h
  exact ⟨call', hp a call' ha, hw'⟩

lemma Follows.decided (h : ∀ a, r = .ok a → Q a call) :
    Follows t b call (decided r : BrokerProg p α) Q := by
  cases r with
  | ok a => exact .pure (h a rfl)
  | error e => exact .throw

lemma Follows.require {f : Unit → BrokerProg p α} (h : Follows t b call (f ()) Q) :
    Follows t b call (require c e >>= f) Q := by
  intro w hw
  exact wpe_require (fun _ => ⟨call, hw⟩) fun _ => h w hw

lemma Follows.whenever {Q : Unit → CallState → Prop} (hx : Follows t b call x Q) (hQ : Q () call) :
    Follows t b call (whenever c x) Q := by
  intro w hw
  exact wpe_whenever (fun _ => hx w hw) fun _ => ⟨call, hQ, hw⟩

lemma wpe_command {R : BrokerResp c → BrokerWorld → Prop} (hd : Disciplined t c w)
    (h : ∀ i r w', w.exec p i t c = some (r, w') → R r w') :
    wpe (discipline p) t (command p c) R E w := by
  refine (wpe_surely _ _ _ _ _ _).mpr ?_
  intro i r w' _ _ hs
  have hf : ∀ u, u ≠ t → Untouched u w w' := fun u hn => @untouched_exec p i t u w w' c r hn hs
  exact ⟨trivial, ⟨hd, hf⟩, h i r w' hs⟩

lemma Follows.suspend : Leaves t b call (suspend p) := by
  intro w hw
  refine (wpe_bind _ _ _ _ _ _ _).mpr ?_
  refine (wpe_surely _ _ _ _ _ _).mpr ((wp_pause _ _ _ _).mpr fun w1 _ hr => ?_)
  have hw1 : Has t b call w1 := ⟨fun h => hr.2 (hw.1 h), hr.1.trans hw.2⟩
  refine (wpe_bind _ _ _ _ _ _ _).mpr (wpe_command trivial fun i _ _ he => ?_)
  cases he
  cases i.dropped with
  | true => exact ⟨call, hw1⟩
  | false => exact ⟨call, rfl, hw1⟩

lemma Follows.command (hf : ∀ w, Disciplined t c w)
    (hke : ∀ i w r w', w.exec p i t c = some (r, w') → Untouched t w w') :
    Leaves t b call (command p c) := by
  intro w hw
  refine wpe_command (hf w) fun i r w' he => ?_
  have hk := hke i w r w' he
  exact ⟨call, rfl, fun h => hk.2 (hw.1 h), hk.1.trans hw.2⟩

lemma Follows.ask (q : Request) : Leaves t b call (ask p q) := by
  refine Follows.suspend.seq fun _ _ h => ?_
  subst h
  refine Follows.command (fun _ => trivial) fun i w r w' hs => ?_
  cases hs
  exact ⟨rfl, fun h => h⟩

def told : (c : Section) → c.Answer → Prop
  | .sourceBegin, .bootstrap ticket _ => ticket.kind = .legacyBootstrap
  | .resumeBegin _ _ _ _, .send ticket _ => ticket.kind = .resume
  | _, _ => True

lemma told_of_run
    (h : runSection p uuid auth c = .ok (a, write)) : told c a := by
  cases c with
  | sourceBegin =>
    simp only [runSection, sourceBegin, bind_eq_ok] at h
    obtain ⟨_, _, _, _, h⟩ := h
    split at h
    · simp only [bind_eq_ok, reads_eq_ok, Prod.mk.injEq] at h
      obtain ⟨_, _, _, _, rfl, _⟩ := h
      trivial
    · split at h
      · simp only [bind_eq_ok, ensure_eq_ok, decide_eq_true_eq, reads_eq_ok, Prod.mk.injEq] at h
        obtain ⟨_, hk, _, _, rfl, _⟩ := h
        exact hk
      · split at h
        · simp only [bind_eq_ok, saves_eq_ok, Prod.mk.injEq] at h
          obtain ⟨_, hb, rfl, _⟩ := h
          exact (begun_of_begin hb).kind
        · simp only [reads_eq_ok, Prod.mk.injEq] at h
          obtain ⟨rfl, _⟩ := h
          trivial
  | resumeBegin =>
    simp only [runSection, resumeBegin, bind_eq_ok] at h
    obtain ⟨_, _, _, _, h⟩ := h
    split at h
    · simp only [bind_eq_ok, reads_eq_ok, Prod.mk.injEq] at h
      obtain ⟨_, _, _, _, _, _, rfl, _⟩ := h
      trivial
    · simp only [bind_eq_ok] at h
      obtain ⟨_, _, h⟩ := h
      split at h
      · simp only [bind_eq_ok, saves_eq_ok, Prod.mk.injEq] at h
        obtain ⟨_, _, _, _, _, hb, rfl, _⟩ := h
        exact (begun_of_begin hb).kind
      · simp only [bind_eq_ok, saves_eq_ok, Prod.mk.injEq] at h
        obtain ⟨_, _, _, _, _, hb, rfl, _⟩ := h
        exact (begun_of_begin hb).kind
  | _ => trivial

lemma Has.locked {c : Section} {r : Except BrokerError c.Answer} {w w' : BrokerWorld}
    (hw : Has t b call w) (h : LockedStep p t w c r w') :
    match r with
    | .ok a => ∃ call', (told c a ∧ ∃ epoch, call' = call.after epoch c a) ∧ Has t b call' w'
    | .error _ => ∃ call', Has t b call' w' := by
  cases h with
  | refused | late => exact ⟨call, hw⟩
  | @read _ a _ hr =>
    have hc : (w.setCall t ((w.calls t).after w.auth.authEpoch c a)).calls t =
        call.after w.auth.authEpoch c a := by
      simp [BrokerWorld.setCall, hw.2]
    exact ⟨_, ⟨told_of_run hr, _, rfl⟩, hw.1, hc⟩
  | @saved _ a write _ hr _ =>
    have hc : ((w.store write.record).setCall t
        ((w.calls t).after write.record.authEpoch c a)).calls t =
        call.after write.record.authEpoch c a := by
      simp [BrokerWorld.setCall, hw.2]
    exact ⟨_, ⟨told_of_run hr, _, rfl⟩, hw.1, hc⟩

lemma Follows.locked {c : Section} (ha : Admitted (b = true) call c) :
    Follows t b call (locked p c)
      (fun a call' => told c a ∧ ∃ epoch, call' = call.after epoch c a) := by
  refine Follows.suspend.seq fun _ call' h => ?_
  subst h
  intro w hw i r _ _ _ hse
  have hd : Disciplined t (.locked c) w := by
    have hl := admitted_mono hw.1 ha
    rw [← hw.2] at hl
    exact hl
  have hs := exec_locked hse
  refine ⟨trivial, ⟨hd, fun u hn => untouched_locked hn hs⟩, ?_⟩
  have haf := hw.locked hs
  cases r with
  | ok a | error e => exact haf

lemma Follows.spend {rotation : Rotation} (hr : call.rotation = some rotation) :
    Follows t true call (spend p rotation)
      (fun _ call' => call' = { call with rotation := none }) := by
  have hs : Follows t true call (AuthBroker.command p (.spend rotation))
      (fun _ call' => call' = { call with rotation := none }) := by
    intro w hw
    have hd : Disciplined t (.spend rotation) w := ⟨hw.1 rfl, hw.2 ▸ hr⟩
    refine wpe_command hd fun i r _ he => ?_
    cases he
    exact ⟨_, rfl, fun _ => hw.1 rfl, by simp [BrokerWorld.setCall, hw.2]⟩
  refine hs.seq fun _ call' h => ?_
  subst h
  exact Follows.ask _

variable {body : BrokerProg p α}

lemma releasing_follows (h : Obeys t true call body) (hw : Has t true call w) :
    wpe (discipline p) t (releasing p body) (fun _ w' => ∃ call', Has t false call' w')
      (fun _ w' => ∃ call', Has t false call' w') w := by
  have hu : ∀ (r : Except BrokerError α) (w' : BrokerWorld), (∃ call', Has t true call' w') →
      wpe (discipline p) t (do AuthBroker.command p .unlockIssuance; decided r)
        (fun _ w' => ∃ call', Has t false call' w') (fun _ w' => ∃ call', Has t false call' w')
        w' := by
    rintro r _ ⟨call', hw1⟩
    refine (wpe_bind _ _ _ _ _ _ _).mpr (wpe_command trivial fun i u w2 hex => ?_)
    have hw2 : Has t false call' w2 := by
      cases hex
      refine ⟨fun h => Bool.noConfusion h, ?_⟩
      split
      · exact hw1.2
      · exact hw1.2
    cases r with
    | ok a | error e => exact ⟨call', hw2⟩
  refine (wpe_bind _ _ _ _ _ _ _).mpr ((wpe_outcome _ _ _ _ _ _).mpr ?_)
  refine wpe_mono (fun a w' ha => ?_) (fun e w' he => ?_) (h w hw)
  · obtain ⟨call', _, hw'⟩ := ha
    exact hu (.ok a) w' ⟨call', hw'⟩
  · exact hu (.error e) w' he

lemma Follows.withIssuance (h : Obeys t true {} body) :
    Obeys t false call (withIssuance p body) := by
  refine Follows.suspend.seq fun _ _ _ => ?_
  intro w _
  refine (wpe_bind _ _ _ _ _ _ _).mpr (wpe_command trivial fun i u w1 hex => ?_)
  have hw1 : Has t true {} w1 := by
    simp only [BrokerWorld.exec] at hex
    split at hex
    · cases hex
      exact ⟨fun _ => rfl, by simp [BrokerWorld.setCall]⟩
    · cases hex
  refine wpe_mono (fun a _ ha => ?_) (fun _ _ he => he) (releasing_follows h hw1)
  obtain ⟨call'', hw'⟩ := ha
  exact ⟨call'', trivial, hw'⟩

lemma Follows.step {f : c.Answer → BrokerProg p α} (ha : Admitted (b = true) call c)
    (hf : ∀ a epoch, told c a → Follows t b (call.after epoch c a) (f a) Q) :
    Follows t b call (AuthBroker.locked p c >>= f) Q := by
  refine (Follows.locked ha).seq fun a _ h => ?_
  obtain ⟨ht, epoch, rfl⟩ := h
  exact hf a epoch ht

lemma Follows.last (ha : Admitted (b = true) call c) : Obeys t b call (AuthBroker.locked p c) :=
  (Follows.locked ha).mono fun _ _ _ => trivial

lemma Follows.asks {f : q.Answer → BrokerProg p α} (hf : ∀ a, Follows t b call (f a) Q) :
    Follows t b call (AuthBroker.ask p q >>= f) Q := by
  refine (Follows.ask q).seq fun a _ h => ?_
  subst h
  exact hf a

lemma Follows.decides {f : β → BrokerProg p α} (hf : ∀ a, r = .ok a → Follows t b call (f a) Q) :
    Follows t b call (AwaitFallible.decided r >>= f) Q := by
  have hd : Follows t b call (AwaitFallible.decided r : BrokerProg p β)
      (fun a call' => r = .ok a ∧ call' = call) := .decided fun a ha => ⟨ha, rfl⟩
  refine hd.seq fun a call' h => ?_
  obtain ⟨ha, rfl⟩ := h
  exact hf a ha

lemma Follows.served {f : β → BrokerProg p α} (hf : ∀ a, Follows t b call (f a) Q) :
    Follows t b call (served p answer >>= f) Q :=
  .decides fun a _ => hf a

lemma Follows.finally : Obeys t b call (AwaitFallible.decided r : BrokerProg p α) :=
  .decided fun _ _ => trivial

end Rules

section Programs

variable {p : Platform} {t : ℕ} {b : Bool} {call : CallState}

lemma follows_legacyRefresh (allowed : Option String) :
    Obeys t true call (legacyRefresh p allowed) := by
  refine .step rfl fun _ _ _ => ?_
  refine .step rfl fun _ _ _ => ?_
  refine (Follows.spend rfl).seq fun _ _ _ => ?_
  exact .served fun _ => .last rfl

variable {operationId : String} {target : RuntimeTarget} {stamp : Option ScopeStamp}

lemma follows_refreshBoundTransition :
    Obeys t true call (refreshBoundTransition p operationId) := by
  refine .step rfl fun _ _ _ => ?_
  refine .step rfl fun _ _ _ => ?_
  refine (Follows.spend rfl).seq fun _ _ _ => ?_
  exact .served fun _ => .last rfl

lemma follows_transitionSource : Obeys t false call (transitionSource p) := by
  refine .withIssuance (.step rfl fun step _ ht => ?_)
  cases step with
  | known => exact .pure trivial
  | refresh => exact (follows_legacyRefresh none).seq fun _ _ _ => .last rfl
  | bootstrap =>
    refine .step rfl fun _ _ _ => .asks fun answer => ?_
    cases answer with
    | ok => exact .step ⟨rfl, ht⟩ fun _ _ _ => .finally
    | error =>
      dsimp only
      split
      · refine .step ⟨rfl, ht⟩ fun _ _ _ => ?_
        exact (follows_legacyRefresh none).seq fun _ _ _ => .last rfl
      · exact .throw

lemma follows_dispatchRound :
    Follows t true call (dispatchRound p frozen)
      (fun _ call' => call'.reconciling = some frozen.request.operationId) := by
  refine .step rfl fun step _ _ => ?_
  cases step with
  | dispatch => exact .pure rfl
  | refresh bound =>
    have he : ∀ call', Follows t true call' (do
        let authority ← AuthBroker.locked p (.afterRefresh frozen bound)
        pure ⟨authority, false, true⟩ : BrokerProg p Dispatch)
        (fun _ call' => call'.reconciling = some frozen.request.operationId) :=
      fun call' => .step rfl fun authority _ _ => .pure rfl
    cases bound with
    | true => exact (follows_refreshBoundTransition).seq fun _ call' _ => he call'
    | false => exact (follows_legacyRefresh _).seq fun _ call' _ => he call'

lemma follows_dispatchRequest (dispatch : Dispatch) :
    Leaves t true call (dispatchRequest p frozen dispatch) := by
  have hm : Leaves t true call (AuthBroker.locked p (.matchSource dispatch.authority)) := by
    have ha : Admitted (true = true) call (.matchSource dispatch.authority) := rfl
    refine (Follows.locked ha).mono fun _ call' h => ?_
    obtain ⟨_, _, rfl⟩ := h
    rfl
  refine (Follows.whenever hm rfl).seq fun _ call' h => ?_
  subst h
  refine .decides fun _ _ => .asks fun answer => ?_
  cases answer with
  | ok => exact .pure rfl
  | error =>
    dsimp only
    split
    · refine hm.seq fun _ _ h => ?_
      subst h
      refine .asks fun _ => ?_
      refine hm.seq fun _ _ h => ?_
      subst h
      exact .pure rfl
    · exact .pure rfl

lemma follows_reconcileRounds : Obeys t true call (reconcileRounds p frozen rounds) := by
  induction rounds generalizing call with
  | zero => exact .throw
  | succ rounds ih =>
    refine (follows_dispatchRound).seq fun dispatch _ hs => ?_
    refine (follows_dispatchRequest dispatch).seq fun answer _ h => ?_
    subst h
    cases answer with
    | ok => exact .step ⟨rfl, hs⟩ fun _ _ _ => .pure trivial
    | error =>
      dsimp only
      split
      · split
        · exact .step ⟨rfl, hs⟩ fun _ _ _ => ih
        · exact .step ⟨rfl, hs⟩ fun _ _ _ => .throw
      · exact .step ⟨rfl, hs⟩ fun _ _ _ => .throw

lemma follows_reconcileTransition : Obeys t false call (reconcileTransition p frozen) := by
  refine .withIssuance (.step rfl fun receipt _ _ => ?_)
  cases receipt with
  | some => exact .pure trivial
  | none => exact follows_reconcileRounds

lemma follows_supersedeTransition (predecessor : FrozenReconcileRequest) :
    Obeys t false call (supersedeTransition p operationId predecessor target) := by
  refine .withIssuance (.require (.require (.step rfl fun step _ _ => ?_)))
  cases step with
  | answered => exact .pure trivial
  | send =>
    refine .asks fun _ => .served fun response => .require ?_
    exact .step rfl fun _ _ _ => .pure trivial

lemma follows_retireCompletedTransitions (journalOperation : String)
    (activeReconcile : Option String) :
    Obeys t false call (retireCompletedTransitions p journalOperation activeReconcile) := by
  intro w hw
  refine (wpe_bind _ _ _ _ _ _ _).mpr (wpe_command trivial fun i _ _ hex => ?_)
  simp only [BrokerWorld.exec, Option.some.injEq] at hex
  split at hex
  · cases hex
    have hw1 : Has t true {} ({ w with issuance := some t }.setCall t {}) :=
      ⟨fun _ => rfl, by simp [BrokerWorld.setCall]⟩
    have had : Admitted (true = true) {}
        (.retireCompletedTransitions journalOperation activeReconcile) := rfl
    refine wpe_mono (fun a _ ha => ?_) (fun _ _ he => he) (releasing_follows (.last had) hw1)
    obtain ⟨call', hw'⟩ := ha
    exact ⟨call', trivial, hw'⟩
  · cases hex
    exact ⟨call, trivial, hw⟩

lemma follows_stopLocal : Leaves t b call (stopLocal p) := by
  have hs : Leaves t b call (AuthBroker.command p .stopLocal) := by
    refine .command (fun _ => trivial) fun i w r w' he => ?_
    cases he
    exact ⟨rfl, fun h => h⟩
  refine hs.seq fun _ _ h => ?_
  subst h
  exact Follows.ask _

lemma follows_logout (pendingLogin : Option BrokerRequest) (hf : call.epoch = none ∨ b = true) :
    Obeys t b call (logout p stamp pendingLogin) := by
  refine .step hf fun step epoch _ => ?_
  cases step with
  | neverAuthenticated => exact follows_stopLocal.seq fun stop _ _ => .finally
  | repeated epoch =>
    refine follows_stopLocal.seq fun stop _ _ => ?_
    have hh : ∀ call', Obeys t b call' (do
        let ha ← AuthBroker.ask p (.prepareRevocation epoch)
        AwaitFallible.decided ha : BrokerProg p Unit) :=
      fun call' => .asks fun ha => .finally
    exact (Follows.whenever (hh _) trivial).seq fun _ _ _ => .finally
  | revoke epoch proof =>
    cases proof with
    | none =>
      refine follows_stopLocal.seq fun stop _ _ => .asks fun ha => ?_
      refine Follows.finally.seq fun _ _ _ => ?_
      exact Follows.finally.seq fun _ _ _ => .throw
    | some =>
      refine follows_stopLocal.seq fun stop call' h => .asks fun answer => ?_
      subst h
      exact .decides fun _ _ => .require (.step hf fun _ _ _ => .finally)

lemma follows_loginFenced (fence : LoginFence) :
    Obeys t false call (loginFenced p account target fence) := by
  refine .require (.withIssuance (.step ⟨rfl, rfl⟩ fun _ _ _ => ?_))
  refine follows_stopLocal.seq fun stop _ _ => ?_
  cases stop with
  | error => exact .step rfl fun _ _ _ => .throw
  | ok =>
    refine .asks fun answer => ?_
    cases answer with
    | error => exact .step rfl fun _ _ _ => .throw
    | ok =>
      refine .step rfl fun step _ _ => ?_
      cases step with
      | signedIn => exact .finally
      | refused => exact .throw
      | revoke => exact (follows_logout none (.inr rfl)).seq fun _ _ _ => .throw

lemma follows_login (he : call.epoch = none) :
    Obeys t false call (login p stamp account target) :=
  .step (.inl he) fun fence _ _ => follows_loginFenced fence

lemma follows_pace (operationId : String) :
    Leaves t b call (attempt (Prog.call (M := brokerMachine p) (.pace operationId))) := by
  intro w hw i r w' _ _ hs
  have hf : ∀ u, u ≠ t → Untouched u w w' :=
    fun u hn => @untouched_exec p i t u w w' (.pace operationId) r hn hs
  have hw' : Has t b call w' := by
    have hp : (w.pace i operationId).2 = w' := by rw [Option.some.inj hs]
    rw [← hp]
    unfold BrokerWorld.pace
    dsimp only
    split
    · exact hw
    · split
      · exact hw
      · exact hw
  refine ⟨trivial, ⟨trivial, hf⟩, ?_⟩
  cases r with
  | ok a => exact ⟨call, rfl, hw'⟩
  | error e => exact ⟨call, hw'⟩

lemma follows_recoverRounds : Obeys t true call (recoverRounds p rounds) := by
  have hp {c : BrokerCmd} {call' : CallState} (hf : ∀ w, Disciplined t c w)
      (hk : ∀ i w r w', w.exec p i t c = some (r, w') → Untouched t w w') :
      Obeys t true call' (AuthBroker.command p c) :=
    (Follows.command hf hk).mono fun _ _ _ => trivial
  induction rounds generalizing call with
  | zero => exact .throw
  | succ rounds ih =>
    refine .step rfl fun found _ _ => ?_
    cases found with
    | none => exact .pure trivial
    | some request =>
      refine .decides fun request hr => ?_
      subst hr
      refine (follows_pace _).seq fun _ _ h => ?_
      subst h
      refine (Follows.spend rfl).seq fun answer _ _ => ?_
      cases answer with
      | error error =>
        refine (hp (c := .paceFailed error) (fun _ => trivial) fun i w r w' he => ?_).seq fun _ _ _ => .throw
        cases he
        exact ⟨rfl, fun h => h⟩
      | ok =>
        refine .step rfl fun step _ _ => ?_
        cases step with
        | mismatch =>
          refine (hp (c := .paceRejected) (fun _ => trivial) fun i w r w' he => ?_).seq fun _ _ _ => .throw
          cases he
          exact ⟨rfl, fun h => h⟩
        | saved done =>
          refine (hp (c := .paceSettled) (fun _ => trivial) fun i w r w' he => ?_).seq fun _ _ _ => ?_
          · cases he
            exact ⟨rfl, fun h => h⟩
          · cases done with
            | true => exact .pure trivial
            | false => exact ih

lemma follows_recoverPendingRefresh : Obeys t false call (recoverPendingRefresh p) :=
  .whenever (.withIssuance follows_recoverRounds) trivial

lemma follows_accessToken (stale : Option AccessSnapshot) (he : call.epoch = none) :
    Obeys t false call (accessToken p stamp stale) := by
  refine .step (.inl he) fun _ _ _ => .withIssuance ?_
  have hs : Obeys t true {} (AuthBroker.locked p (.stampCheck stamp)) := .last rfl
  refine (Follows.whenever hs trivial).seq fun _ _ _ => ?_
  refine (Follows.whenever follows_recoverRounds trivial).seq fun _ call' _ => ?_
  refine .step rfl fun step epoch _ => ?_
  cases step with
  | current => exact .pure trivial
  | refresh ticket token =>
    dsimp only
    split
    · exact (follows_recoverRounds).seq fun _ _ _ => .last rfl
    · rename_i hp
      have hr : (call'.after epoch (.accessBegin stamp stale) (.refresh ticket token)).rotation =
          some ⟨token, ticket, false⟩ := by
        have hn : ticket.refresh = none := by simpa using hp
        simp [CallState.after, Section.rotation, hn]
      refine (Follows.spend hr).seq fun _ _ _ => ?_
      exact .served fun _ => .step rfl fun access _ _ => .finally

lemma follows_resumeInner (transition : Option String) :
    Obeys t false call (resumeInner p arguments transition allowNew) := by
  refine .decides fun _ _ => .withIssuance (.step ⟨rfl, rfl⟩ fun step epoch ht => ?_)
  cases step with
  | done => exact .pure trivial
  | send =>
    refine .step rfl fun _ _ _ => .asks fun answer => .served fun response => ?_
    exact .step ⟨rfl, ht⟩ fun _ _ _ => .finally

lemma follows_resumeHistorical (ticket : BrokerRequest) (refresh : String) :
    Obeys t false call (resumeHistorical p arguments ticket refresh) := by
  refine .withIssuance (.step rfl fun _ _ _ => .asks fun answer => .served fun response => ?_)
  exact .decides fun _ _ => .step rfl fun _ _ _ => .pure trivial

lemma follows_resumeTransition (he : call.epoch = none) :
    Obeys t false call (resumeTransition p arguments allowNew) := by
  refine .step (.inl he) fun step _ _ => ?_
  cases step with
  | receipt => exact .pure trivial
  | historical ticket refresh => exact follows_resumeHistorical ticket refresh
  | current => exact (follows_resumeInner _).seq fun _ _ _ => .pure trivial

lemma follows_acceptBackgroundRecovery (ticket : RecoveryTicket) (response : TokenResponse)
    (hf : call.epoch = none ∨ b = true) :
    Obeys t b call (acceptBackgroundRecovery p ticket response) :=
  .step hf fun _ _ _ => .finally

lemma follows_nativeAuth (recover : Bool) (hep : call.epoch = none) :
    Obeys t false call (nativeAuth p recover) := by
  refine .step (.inl hep) fun _ _ _ => .withIssuance ?_
  refine .step rfl fun ticket _ _ => .asks fun outcome => ?_
  have he : ∀ recover outcome call', Obeys t true call' (do
      let access ← AuthBroker.locked p (.nativeEnded ticket recover outcome)
      AwaitFallible.decided access : BrokerProg p AccessSnapshot) :=
    fun recover outcome call' => .step rfl fun access _ _ => .finally
  split
  · exact follows_acceptBackgroundRecovery ticket _ (.inr rfl)
  · exact he _ _ _

lemma follows_stopRuntimeLogoutCleanup (receipt : CompletedRuntimeLogout) :
    Obeys t false call (stopRuntimeLogoutCleanup p receipt) :=
  .withIssuance (.step rfl fun _ _ _ => follows_stopLocal.seq fun _ _ _ => .finally)

end Programs

section Runs

variable {p : Platform}

lemma follows_unobserved (h : ∀ t, Obeys t false {} x) (t : ℕ) (w : BrokerWorld) :
    wp (discipline p) t (unobserved p x) (fun _ _ => True) w := by
  refine (wp_map _ _ _ _ _ _).mpr ?_
  have hr : wpe (discipline p) t (do command p .enter; x) (fun _ _ => True) (fun _ _ => True) w := by
    refine (wpe_bind _ _ _ _ _ _ _).mpr (wpe_command trivial fun i r _ hex => ?_)
    cases hex
    have he : Has t false {} (w.setCall t {}) :=
      ⟨fun h => Bool.noConfusion h, by simp [BrokerWorld.setCall]⟩
    exact wpe_mono (fun _ _ _ => trivial) (fun _ _ _ => trivial) (h t _ he)
  exact wp_mono (fun _ _ _ => trivial) hr

lemma follows_section (c : Section) (h : Admitted False {} c) (t : ℕ) (w : BrokerWorld) :
    wp (discipline p) t (unobserved p (locked p c)) (fun _ _ => True) w :=
  follows_unobserved (fun _ => .last (admitted_mono False.elim h)) t w

lemma follows_serialised (c : Section) (h : Admitted True {} c) (t : ℕ) (w : BrokerWorld) :
    wp (discipline p) t (unobserved p (withIssuance p (locked p c))) (fun _ _ => True) w :=
  follows_unobserved (fun _ => .withIssuance (.last (admitted_mono (fun _ => rfl) h))) t w

lemma covers_discipline (p : Platform) : Covers (S := brokerSystem p) (discipline p) := by
  intro op t w _
  cases op with
  | login =>
    exact follows_unobserved (fun _ => follows_login rfl) t w
  | accessToken stamp stale =>
    exact follows_unobserved (fun _ => follows_accessToken stale rfl) t w
  | recoverPendingRefresh => exact follows_unobserved (fun _ => follows_recoverPendingRefresh) t w
  | resume =>
    exact follows_unobserved (fun _ => follows_resumeInner none) t w
  | resumeTransition =>
    exact follows_unobserved (fun _ => follows_resumeTransition rfl) t w
  | reconcileTransition =>
    exact follows_unobserved (fun _ => follows_reconcileTransition) t w
  | supersedeTransition operationId predecessor =>
    exact follows_unobserved (fun _ => follows_supersedeTransition predecessor) t w
  | finishSupersede operationId reconcileOperationId =>
    exact follows_section (.finishSupersede operationId reconcileOperationId) rfl t w
  | prepareCompletedApplyReconcile predecessor resumeOperationId target legacy =>
    exact follows_serialised
      (.prepareCompletedApplyReconcile predecessor resumeOperationId target legacy) trivial t w
  | retireCompletedTransitions journalOperation activeReconcile =>
    exact follows_unobserved
      (fun _ => follows_retireCompletedTransitions journalOperation activeReconcile) t w
  | restoreTransitionRequest request fingerprint =>
    exact follows_section (.restoreTransitionRequest request fingerprint) (.inl rfl) t w
  | transitionResumeIsUndispatched operationId =>
    exact follows_serialised (.resumeIsUndispatched operationId) trivial t w
  | transitionSource => exact follows_unobserved (fun _ => follows_transitionSource) t w
  | nativeAuth recover => exact follows_unobserved (fun _ => follows_nativeAuth recover rfl) t w
  | beginBackgroundRecovery => exact follows_serialised (.nativeBegin none true) trivial t w
  | acceptBackgroundRecovery ticket response =>
    exact follows_unobserved
      (fun _ => follows_acceptBackgroundRecovery ticket response (.inl rfl)) t w
  | logout stamp pendingLogin =>
    exact follows_unobserved (fun _ => follows_logout pendingLogin (.inl rfl)) t w
  | stagePushCleanup epoch => exact follows_section (.stagePushCleanup epoch) rfl t w
  | finishPushCleanup epoch => exact follows_section (.finishPushCleanup epoch) rfl t w
  | stopRuntimeLogoutCleanup receipt =>
    exact follows_unobserved (fun _ => follows_stopRuntimeLogoutCleanup receipt) t w
  | finishRuntimeLogoutCleanup receipt =>
    exact follows_section (.finishRuntimeLogoutCleanup receipt) rfl t w

variable {cond : StepCondition (brokerSystem p)}

lemma reach_disciplined (h : Reach cond (Pool.idle w0) P) :
    Reach (fun t c i w => cond t c i w ∧ Disciplined t c w) (Pool.idle w0) P :=
  Reach.guaranteed (covers_discipline p) (fun _ _ => trivial) trivial
    (fun _ _ _ _ _ => trivial) (fun _ _ _ _ _ hg => hg.1) h

lemma issued_disciplined (h : Reach cond (Pool.idle w0) P) (hm : P.move m = some P')
    (hi : P.issued m = some (t, c, i)) :
    Disciplined t c P.state := by
  have hr : Reach (discipline p).stepCondition (Pool.idle w0) P := h.mono fun _ _ _ _ _ => trivial
  have hs := Reach.sound hr (covers_discipline p) (fun _ _ => trivial) trivial
  exact (hs.issued (fun _ _ _ _ => trivial) hm hi).1

end Runs

end NelomaiClient.AuthDiscipline
