import NelomaiClient.AuthFence

/-!
# Refresh tokens

A refresh token is spent by a rotation request, which the server accepts once.
The invariant follows each token that was given out or spent: as long as it is
the token of the record, the record keeps the ticket of its request, or the
login has ended, or a new login is under way. So no other operation can begin
with it. The server is assumed never to grant a token that was stored before.
-/

namespace NelomaiClient.AuthRotation

open Checked AwaitPool AwaitRely
open RuntimeOwner SwitchRecord AuthRecord AuthSections AuthChanges AuthBroker
open AuthDiscipline AuthFence
open SwitchClosure (plainJson numberedUuid singleRuntime)
open SwitchCoordinator (BrokerError FrozenReconcileRequest ResumeArguments)

section Tickets

def core (ticket : BrokerRequest) : BrokerRequest := { ticket with refresh := none }

/-- No operation but that of `ticket` can begin with the token of the record. -/
def Blocked (auth : AuthStore) (ticket : BrokerRequest) : Prop :=
  auth.logoutState = .active → ∃ pending, auth.broker.pendingRequest = some pending ∧
    (pending.kind = .login ∨
      core pending = core ticket ∧ (pending.kind = .refresh ∨ pending.kind = .legacyRefresh))

variable {auth : AuthStore}

lemma Blocked.same (h : Blocked auth ticket) (hs : auth'.logoutState = auth.logoutState)
    (hp : auth'.broker.pendingRequest = auth.broker.pendingRequest) : Blocked auth' ticket := by
  intro ha
  rw [hp]
  exact h (hs ▸ ha)

lemma Blocked.ended (h : auth.logoutState ≠ .active) : Blocked auth ticket :=
  fun ha => (h ha).elim

lemma Blocked.kind (h : Blocked auth ticket) (ha : auth.logoutState = .active)
    (hp : auth.broker.pendingRequest = some pending) :
    pending.kind = .login ∨ pending.kind = .refresh ∨ pending.kind = .legacyRefresh := by
  obtain ⟨found, hf, hk⟩ := h ha
  have hs : pending = found := Option.some.inj (hp.symm.trans hf)
  subst hs
  exact hk.imp (fun h => h) (fun h => h.2)

lemma Blocked.not_none (h : Blocked auth ticket) (ha : auth.logoutState = .active) :
    auth.broker.pendingRequest ≠ none := by
  obtain ⟨found, hf, _⟩ := h ha
  rw [hf]
  exact Option.some_ne_none found

end Tickets

section Changes

variable {auth : AuthStore} {c : Section}

lemma Blocked.change {held : List String} (hc : Change auth c auth') (ha : Admitted holds call c)
    (hfr : ∀ response, granted c = some response → response.refreshToken ∉ held)
    (hh : token ∈ held) (ho : auth.refreshToken = some token → Blocked auth ticket)
    (hn : auth'.refreshToken = some token) : Blocked auth' ticket := by
  have hg : ∀ response, granted c = some response →
      auth'.refreshToken = some response.refreshToken → Blocked auth' ticket := by
    intro response hre hrf
    have ht : response.refreshToken = token := Option.some.inj (hrf.symm.trans hn)
    exact (hfr response hre (ht ▸ hh)).elim
  cases hc with
  | kept steady _ _ => exact (ho (steady.refresh ▸ hn)).same steady.state steady.pending
  | issued active none _ => exact ((ho hn).not_none active none).elim
  | resuming begun prior =>
    obtain ⟨pending, hp, _⟩ := ho hn begun.active
    have hr := prior pending hp
    have hk := (ho hn).kind begun.active hp
    simp [hr] at hk
  | @settled _ pending _ active owner section' _ =>
    have hk := (ho hn).kind active owner
    have hb : pending.kind = .legacyBootstrap := by
      rcases section' with rfl | ⟨_, rfl⟩
      · exact ha.2
      · exact ha.2
    simp [hb] at hk
  | @rotated _ response _ _ grant rotation => exact hg response grant rotation.refresh
  | @keyed pending active owner kind =>
    intro _
    obtain ⟨found, hf, hk⟩ := ho hn active
    have hs : pending = found := Option.some.inj (owner.symm.trans hf)
    subst hs
    refine ⟨keyedTicket pending, rfl, ?_⟩
    rcases hk with hl | ⟨hco, _⟩
    · rw [kind] at hl
      cases hl
    · exact .inr ⟨hco, .inl kind⟩
  | @resumed pending _ _ _ _ active owner refresh =>
    have hk := (ho (refresh ▸ hn)).kind active owner
    have hr : pending.kind = .resume := ha.2
    simp [hr] at hk
  | @entered _ _ login _ kind pending => exact fun _ => ⟨login, pending, .inl kind⟩
  | rejected _ state | repeated state _ => exact .ended (by simp [state])
  | @signedIn _ _ response => exact hg response rfl rfl
  | refused _ _ => exact .ended (by simp [unwanted])
  | @cancelled _ _ _ _ cancel =>
    have hp : auth.logoutState = .pending := by
      simp only [loginCancelled, endedSource, Bool.and_eq_true, decide_eq_true_eq] at cancel
      exact cancel.1.1.1.1
    exact .ended (by simp [unwanted, hp])
  | left => exact .ended (by simp)
  | revoking => exact .ended (by simp [loggingOut])
  | finished _ _ => cases hn
  | _ => exact (ho hn).same rfl rfl

end Changes

section Armed

def written (auth : AuthStore) (write : Option Write) : AuthStore :=
  (write.map (·.record)).getD auth

structure Armed (auth : AuthStore) (rotation : Rotation) (auth' : AuthStore) : Prop where
  active : auth.logoutState = .active
  active' : auth'.logoutState = .active
  token : auth.refreshToken = some rotation.token
  token' : auth'.refreshToken = some rotation.token
  ticket : auth'.broker.pendingRequest = some rotation.ticket
  kind : rotation.ticket.kind = .refresh ∨ rotation.ticket.kind = .legacyRefresh
  free : rotation.keyed = false → auth.broker.pendingRequest = none

variable {p : Platform} {auth : AuthStore} {rotation : Rotation}

lemma armed_of_begun
    (hb : Begun auth kind none begun) (hk : kind = .refresh ∨ kind = .legacyRefresh)
    (hn : auth.broker.pendingRequest = none) (ht : auth.refreshToken = some token) :
    Armed auth ⟨token, begun.1, false⟩ begun.2 where
  active := hb.active
  active' := by
    rw [hb.record]
    exact hb.active
  token := ht
  token' := by
    rw [hb.record]
    exact ht
  ticket := by rw [hb.record]
  kind := by
    rw [← hb.kind] at hk
    exact hk
  free _ := hn

lemma armed_legacyBegin (h : legacyBegin p uuid auth allowed = .ok (rotation, write)) :
    Armed auth rotation (written auth write) := by
  simp only [legacyBegin, bind_eq_ok, ensure_eq_ok, present_eq_ok, saves_eq_ok, Prod.mk.injEq,
    Bool.and_eq_true, Option.isNone_iff_eq_none] at h
  obtain ⟨_, _, _, _, _, hn, _, ht, _, hb, rfl, rfl⟩ := h
  exact armed_of_begun (begun_of_begin hb) (.inr rfl) hn.1.1.1 ht

lemma armed_boundBegin (h : boundBegin p uuid auth operationId = .ok (rotation, write)) :
    Armed auth rotation (written auth write) := by
  simp only [boundBegin, matchCurrentTransitionSource, bind_eq_ok, ensure_eq_ok, saves_eq_ok,
    Prod.mk.injEq, Bool.and_eq_true, Option.isNone_iff_eq_none, decide_eq_true_eq] at h
  obtain ⟨_, _, _, _, _, ⟨_, _, hn⟩, _, _, _, hb, rfl, rfl⟩ := h
  exact armed_of_begun (begun_of_begin hb) (.inl rfl) hn.1.1.1.1 hn.2

lemma armed_accessBegin (h : accessBegin p uuid auth stamp stale = .ok (a, write))
    (hr : Section.rotation (.accessBegin stamp stale) a = some rotation) :
    Armed auth rotation (written auth write) := by
  simp only [accessBegin, bind_eq_ok, ensure_eq_ok, Bool.and_eq_true, Option.isNone_iff_eq_none] at h
  obtain ⟨_, _, _, _, _, _, _, hn, _, _, h⟩ := h
  split at h
  · simp only [reads_eq_ok, Prod.mk.injEq] at h
    obtain ⟨rfl, _⟩ := h
    cases hr
  · simp only [bind_eq_ok] at h
    obtain ⟨_, _, h⟩ := h
    split at h
    · simp only [reads_eq_ok, Prod.mk.injEq] at h
      obtain ⟨rfl, _⟩ := h
      cases hr
    · simp only [bind_eq_ok, present_eq_ok, saves_eq_ok, Prod.mk.injEq] at h
      obtain ⟨_, ht, _, hb, rfl, rfl⟩ := h
      simp only [Section.rotation] at hr
      split at hr
      · cases hr
        exact armed_of_begun (begun_of_begin hb) (.inl rfl) hn.1 ht
      · cases hr

lemma recoverRequest_eq (h : recoverRequest auth ticket = .ok request) :
    request.ticket = ticket ∧ auth.refreshToken = some request.refreshToken := by
  simp only [recoverRequest, bind_eq_ok, present_eq_ok, pure_eq_ok] at h
  obtain ⟨_, _, _, _, _, _, _, ht, rfl⟩ := h
  exact ⟨rfl, ht⟩

lemma armed_recoverBegin (h : recoverBegin auth = .ok (a, write))
    (hr : Section.rotation .recoverBegin a = some rotation) :
    Armed auth rotation (written auth write) := by
  unfold recoverBegin at h
  split at h
  · simp only [reads_eq_ok, Prod.mk.injEq] at h
    obtain ⟨rfl, _⟩ := h
    cases hr
  · rename_i ticket hp
    split at h
    · simp only [reads_eq_ok, Prod.mk.injEq] at h
      obtain ⟨rfl, _⟩ := h
      cases hr
    · rename_i hk
      simp only [bind_eq_ok, active_eq_ok] at h
      obtain ⟨_, ha, _, _, _, _, _, _, h⟩ := h
      split at h
      · simp only [saves_eq_ok, Prod.mk.injEq] at h
        obtain ⟨rfl, rfl⟩ := h
        cases hre : recoverRequest auth (keyedTicket ticket) with
        | error =>
          rw [hre] at hr
          cases hr
        | ok =>
          rw [hre] at hr
          obtain ⟨ht, hto⟩ := recoverRequest_eq hre
          cases hr
          exact ⟨ha.1, ha.1, hto, hto, by rw [ht]; rfl,
            .inl (by rw [ht]; exact not_not.mp hk), fun h => Bool.noConfusion h⟩
      · simp only [reads_eq_ok, Prod.mk.injEq] at h
        obtain ⟨rfl, rfl⟩ := h
        cases hre : recoverRequest auth ticket with
        | error =>
          rw [hre] at hr
          cases hr
        | ok =>
          rw [hre] at hr
          obtain ⟨ht, hto⟩ := recoverRequest_eq hre
          cases hr
          exact ⟨ha.1, ha.1, hto, hto, by rw [ht]; exact hp,
            .inl (by rw [ht]; exact not_not.mp hk), fun h => Bool.noConfusion h⟩

lemma armed_of_run (h : runSection p uuid auth c = .ok (a, write))
    (hr : Section.rotation c a = some rotation) :
    Armed auth rotation (written auth write) := by
  cases c with
  | legacyBegin =>
    cases hr
    exact armed_legacyBegin h
  | boundBegin =>
    cases hr
    exact armed_boundBegin h
  | accessBegin => exact armed_accessBegin h hr
  | recoverBegin => exact armed_recoverBegin h hr
  | _ => cases hr

lemma holds_of_rotation (h : Admitted holds call c) (hr : Section.rotation c a = some rotation) :
    holds := by
  cases c with
  | legacyBegin | boundBegin | accessBegin | recoverBegin => exact h
  | _ => cases hr

end Armed

section Invariant

/-- A rotation that was sent, or that the holder of the lock is about to send. -/
def Claimed (w : BrokerWorld) (rotation : Rotation) : Prop :=
  rotation ∈ w.spent ∨ ∃ t, w.issuance = some t ∧ (w.calls t).rotation = some rotation

def plainOf (token : String) (rotation : Rotation) : Bool :=
  !rotation.keyed && rotation.token == token

structure Rotating (w : BrokerWorld) : Prop where
  held : ∀ token, w.auth.refreshToken = some token → token ∈ w.held
  stored : ∀ ticket, w.auth.broker.pendingRequest = some ticket → ticket ∈ w.stored
  claimedHeld : ∀ rotation, Claimed w rotation → rotation.token ∈ w.held
  claimedStored : ∀ rotation, Claimed w rotation → rotation.ticket ∈ w.stored
  blocked : ∀ rotation, Claimed w rotation → w.auth.refreshToken = some rotation.token →
    Blocked w.auth rotation.ticket
  unique : ∀ rotation other, Claimed w rotation → Claimed w other →
    rotation.token = other.token → core rotation.ticket = core other.ticket
  /-- A rotation without a key is the first of its token. -/
  first : ∀ t rotation, w.issuance = some t → (w.calls t).rotation = some rotation →
    rotation.keyed = false → ∀ other ∈ w.spent, other.token ≠ rotation.token
  once : ∀ token, w.spent.countP (plainOf token) ≤ 1

variable {p : Platform} {i : BrokerInput} {t : ℕ} {w w' : BrokerWorld}

lemma Rotating.shrink (h : Rotating w) (hr : w'.auth.refreshToken = w.auth.refreshToken)
    (hp : w'.auth.broker.pendingRequest = w.auth.broker.pendingRequest)
    (hsa : w'.auth.logoutState = w.auth.logoutState) (hs : w'.spent = w.spent)
    (hst : w'.stored = w.stored) (hh : w'.held = w.held)
    (ha : ∀ t rotation, w'.issuance = some t → (w'.calls t).rotation = some rotation →
      w.issuance = some t ∧ (w.calls t).rotation = some rotation) : Rotating w' := by
  have hc : ∀ rotation, Claimed w' rotation → Claimed w rotation := by
    rintro rotation (hi | ⟨u, hl, hi⟩)
    · exact .inl (hs ▸ hi)
    · exact .inr ⟨u, ha u rotation hl hi⟩
  constructor
  · intro token ht
    rw [hh]
    exact h.held token (hr ▸ ht)
  · intro ticket hti
    rw [hst]
    exact h.stored ticket (hp ▸ hti)
  · intro rotation hi
    rw [hh]
    exact h.claimedHeld rotation (hc rotation hi)
  · intro rotation hi
    rw [hst]
    exact h.claimedStored rotation (hc rotation hi)
  · intro rotation hi ht
    exact (h.blocked rotation (hc rotation hi) (hr ▸ ht)).same hsa hp
  · intro rotation other hi ho
    exact h.unique rotation other (hc rotation hi) (hc other ho)
  · intro u rotation hl hi hpl
    obtain ⟨hl, hi⟩ := ha u rotation hl hi
    rw [hs]
    exact h.first u rotation hl hi hpl
  · intro token
    rw [hs]
    exact h.once token

variable {rotation : Rotation}

lemma Rotating.store {c : Section} {record : AuthStore} {holds : Prop} (h : Rotating w)
    (ha : Admitted holds call c)
    (hf : ∀ response, granted c = some response → response.refreshToken ∉ w.held)
    (hc : Change w.auth c record) : Rotating (w.store record) := by
  constructor
  · intro token ht
    have hi : token ∈ record.refreshToken.toList := by
      rw [show record.refreshToken = some token from ht]
      simp
    exact List.mem_append_left _ hi
  · intro ticket hti
    have hi : ticket ∈ record.broker.pendingRequest.toList := by
      rw [show record.broker.pendingRequest = some ticket from hti]
      simp
    exact List.mem_append_left _ hi
  · intro rotation hi
    exact List.mem_append_right _ (h.claimedHeld rotation hi)
  · intro rotation hi
    exact List.mem_append_right _ (h.claimedStored rotation hi)
  · intro rotation hi ht
    exact Blocked.change hc ha hf (h.claimedHeld rotation hi) (h.blocked rotation hi) ht
  · exact h.unique
  · exact h.first
  · exact h.once

lemma rotation_setCall (h : ((w.setCall t call).calls u).rotation = some rotation) :
    u = t ∧ call.rotation = some rotation ∨ (w.calls u).rotation = some rotation := by
  by_cases hu : u = t
  · subst hu
    exact .inl ⟨rfl, by simpa [BrokerWorld.setCall] using h⟩
  · exact .inr (by simpa [BrokerWorld.setCall, hu] using h)

/-- The token of the record, with its ticket. -/
def Current (w : BrokerWorld) (rotation : Rotation) : Prop :=
  w.auth.logoutState = .active ∧ w.auth.refreshToken = some rotation.token ∧
    w.auth.broker.pendingRequest = some rotation.ticket ∧
    (rotation.ticket.kind = .refresh ∨ rotation.ticket.kind = .legacyRefresh)

/-- Two claims of one token, of which the second is of the record. -/
lemma Rotating.core_current (h : Rotating w) (hi : Claimed w rotation)
    (ho : Current w other) (hs : rotation.token = other.token) :
    core rotation.ticket = core other.ticket := by
  obtain ⟨ha, hto, ht, hk⟩ := ho
  obtain ⟨found, hf, hor⟩ := h.blocked rotation hi (hs ▸ hto) ha
  have ht : other.ticket = found := Option.some.inj (ht.symm.trans hf)
  subst ht
  rcases hor with hl | ⟨hc, _⟩
  · rw [hl] at hk
    simp at hk
  · exact hc.symm

lemma Rotating.setCall (h : Rotating w)
    (hg : ∀ rotation, call.rotation = some rotation → (w.calls t).rotation = some rotation ∨
      w.issuance = some t ∧ Current w rotation ∧
        (rotation.keyed = false → ∀ other ∈ w.spent, other.token ≠ rotation.token)) :
    Rotating (w.setCall t call) := by
  have hcl : ∀ rotation, Claimed (w.setCall t call) rotation →
      Claimed w rotation ∨ Current w rotation := by
    rintro rotation (hi | ⟨u, hl, hi⟩)
    · exact .inl (.inl hi)
    · rcases rotation_setCall hi with ⟨rfl, hca⟩ | hca
      · rcases hg rotation hca with ho | ⟨_, hc, _⟩
        · exact .inl (.inr ⟨u, hl, ho⟩)
        · exact .inr hc
      · exact .inl (.inr ⟨u, hl, hca⟩)
  constructor
  · exact h.held
  · exact h.stored
  · intro rotation hi
    rcases hcl rotation hi with ho | hc
    · exact h.claimedHeld rotation ho
    · exact h.held rotation.token hc.2.1
  · intro rotation hi
    rcases hcl rotation hi with ho | hc
    · exact h.claimedStored rotation ho
    · exact h.stored rotation.ticket hc.2.2.1
  · intro rotation hi hto
    rcases hcl rotation hi with ho | ⟨_, _, ht, hk⟩
    · exact h.blocked rotation ho hto
    · exact fun _ => ⟨rotation.ticket, ht, .inr ⟨rfl, hk⟩⟩
  · intro rotation other hi hot hs
    rcases hcl rotation hi with ho | hc
    · rcases hcl other hot with ho' | hc'
      · exact h.unique rotation other ho ho' hs
      · exact h.core_current ho hc' hs
    · rcases hcl other hot with ho' | hc'
      · exact (h.core_current ho' hc hs.symm).symm
      · rw [Option.some.inj (hc.2.2.1.symm.trans hc'.2.2.1)]
  · intro u rotation hl hi hp
    rcases rotation_setCall hi with ⟨rfl, hca⟩ | hca
    · rcases hg rotation hca with ho | ⟨_, _, hf⟩
      · exact h.first u rotation hl ho hp
      · exact hf hp
    · exact h.first u rotation hl hca hp
  · exact h.once

lemma Rotating.locked (h : Rotating w) (had : Admitted (w.issuance = some t) (w.calls t) c)
    (hfr : ∀ response, granted c = some response → response.refreshToken ∉ w.held)
    (hst : LockedStep p t w c r w') : Rotating w' := by
  -- What a section gives out comes with its ticket, and a first rotation finds no ticket.
  have ha : ∀ {a : c.Answer} {write : Option Write} {uuid : FreshUuid} {epoch : ℕ}
      {rotation : Rotation}, runSection p uuid w.auth c = .ok (a, write) →
      ((w.calls t).after epoch c a).rotation = some rotation →
      (w.calls t).rotation = some rotation ∨ w.issuance = some t ∧
        Armed w.auth rotation (written w.auth write) ∧
        (rotation.keyed = false → ∀ other ∈ w.spent, other.token ≠ rotation.token) := by
    intro a _ _ _ rotation hr haf
    cases hg : Section.rotation c a with
    | none => exact .inl (by simpa [CallState.after, hg] using haf)
    | some given =>
      have hs : given = rotation := by simpa [CallState.after, hg] using haf
      subst hs
      have ha := armed_of_run hr hg
      have hf : given.keyed = false → ∀ other ∈ w.spent, other.token ≠ given.token := by
        intro hp other hi hs
        have hb := h.blocked other (.inl hi) (hs ▸ ha.token)
        exact hb.not_none ha.active (ha.free hp)
      exact .inr ⟨holds_of_rotation had hg, ha, hf⟩
  cases hst with
  | refused => exact h
  | read _ hr =>
    refine h.setCall fun rotation haf => ?_
    rcases ha hr haf with ho | ⟨hh, ha, hf⟩
    · exact .inl ho
    · exact .inr ⟨hh, ⟨ha.active', ha.token', ha.ticket, ha.kind⟩, hf⟩
  | saved _ hr _ =>
    refine (h.store had hfr (change_of_run hr)).setCall fun rotation haf => ?_
    rcases ha hr haf with ho | ⟨hh, ha, hf⟩
    · exact .inl ho
    · exact .inr ⟨hh, ⟨ha.active', ha.token', ha.ticket, ha.kind⟩, hf⟩
  | late _ _ hr _ => exact h.store had hfr (change_of_run hr)

lemma Rotating.spend (h : Rotating w) (hl : w.issuance = some t)
    (hi : (w.calls t).rotation = some rotation) :
    Rotating ({ w with spent := rotation :: w.spent }.setCall t
      { w.calls t with rotation := none }) := by
  have how : Claimed w rotation := .inr ⟨t, hl, hi⟩
  -- The holder has nothing in hand afterwards.
  have hn : ∀ u other, w.issuance = some u →
      (if u = t then { w.calls t with rotation := none } else w.calls u).rotation ≠ some other := by
    intro u _ hu
    have hu : u = t := Option.some.inj (hu.symm.trans hl)
    simp [hu]
  have hc : ∀ other, Claimed ({ w with spent := rotation :: w.spent }.setCall t
      { w.calls t with rotation := none }) other → Claimed w other := by
    rintro other (ho | ⟨u, hu, ho⟩)
    · rcases List.mem_cons.mp ho with rfl | ho
      · exact how
      · exact .inl ho
    · exact (hn u other hu ho).elim
  constructor
  · exact h.held
  · exact h.stored
  · exact fun other ho => h.claimedHeld other (hc other ho)
  · exact fun other ho => h.claimedStored other (hc other ho)
  · exact fun other ho => h.blocked other (hc other ho)
  · exact fun other third ho ht => h.unique other third (hc other ho) (hc third ht)
  · exact fun u other hu ho => (hn u other hu ho).elim
  · intro token
    have hb := h.once token
    by_cases hp : plainOf token rotation
    · -- It is the first of its token.
      have hk : rotation.keyed = false ∧ rotation.token = token := by
        simpa [plainOf] using hp
      have hz : w.spent.countP (plainOf token) = 0 := by
        rw [List.countP_eq_zero]
        intro other ho hs
        have hto : other.token = token := by
          simp only [plainOf, Bool.and_eq_true, beq_iff_eq] at hs
          exact hs.2
        exact h.first t rotation hl hi hk.1 other ho (hto.trans hk.2.symm)
      simp [BrokerWorld.setCall, hp, hz]
    · simpa [BrokerWorld.setCall, hp] using hb

def fresh (p : Platform) : StepCondition (brokerSystem p) := fun _ c _ w =>
  match c with
  | .locked s => ∀ response ∈ granted s, response.refreshToken ∉ w.held
  | _ => True

lemma Rotating.exec (h : Rotating w) (hd : Disciplined t c w)
    (hf : fresh p t c i w) (he : w.exec p i t c = some (r, w')) : Rotating w' := by
  cases executed he with
  | locked hs =>
    exact h.locked hd (fun response hg => hf response hg) hs
  | spent => exact h.spend hd.1 hd.2
  | entered =>
    refine h.shrink rfl rfl rfl rfl rfl rfl fun u rotation hl hi => ⟨hl, ?_⟩
    by_cases hu : u = t
    · simp [BrokerWorld.setCall, hu] at hi
    · simpa [BrokerWorld.setCall, hu] using hi
  | taken =>
    refine h.shrink rfl rfl rfl rfl rfl rfl fun u rotation hl hi => ?_
    have hu : t = u := Option.some.inj hl
    simp [BrokerWorld.setCall, hu] at hi
  | released _ =>
    refine h.shrink rfl rfl rfl rfl rfl rfl fun u rotation hl hi => ?_
    cases hl
  | silent _ _ => exact h.shrink rfl rfl rfl rfl rfl rfl fun u rotation hl hi => ⟨hl, hi⟩

lemma Rotating.reopened (h : Rotating w) : Rotating w.reopened := by
  have ha : w.reopened.auth.refreshToken = w.auth.refreshToken ∧
      w.reopened.auth.broker.pendingRequest = w.auth.broker.pendingRequest ∧
      w.reopened.auth.logoutState = w.auth.logoutState := by
    unfold BrokerWorld.reopened
    split
    · exact ⟨rfl, rfl, rfl⟩
    · exact ⟨rfl, rfl, rfl⟩
  refine h.shrink ha.1 ha.2.1 ha.2.2 rfl rfl rfl fun u _ hl _ => ?_
  cases hl

lemma rotating_opened (auth : AuthStore) : Rotating (.opened auth) := by
  have hc : ∀ rotation, ¬ Claimed (.opened auth) rotation := by
    rintro _ (hi | ⟨u, hl, _⟩)
    · cases hi
    · cases hl
  constructor
  · intro token hto
    simp [BrokerWorld.opened, show auth.refreshToken = some token from hto]
  · intro ticket ht
    simp [BrokerWorld.opened, show auth.broker.pendingRequest = some ticket from ht]
  · exact fun rotation hi => (hc rotation hi).elim
  · exact fun rotation hi => (hc rotation hi).elim
  · exact fun rotation hi => (hc rotation hi).elim
  · exact fun rotation _ hi => (hc rotation hi).elim
  · exact fun u rotation hl => nomatch hl
  · exact fun token => Nat.zero_le 1

lemma rotating_of_reach (h : Reach (fresh p) (Pool.idle (BrokerWorld.opened auth)) P) :
    Rotating P.state := by
  refine Reach.invariant ?_ ?_ (rotating_opened auth) (reach_disciplined h)
  · intro t c i r w w' hc hr hs
    exact @Rotating.exec p i t w w' c r hr hc.2 hc.1 hs
  · exact fun w hr => hr.reopened

end Invariant

/-- When the server never grants a token that was stored before, the rotations of one token belong
to one ticket, at most one of them has no key, and a rotation is sent when its ticket is stored. -/
theorem refresh_token_spent_by_one_ticket {p : Platform} {auth : AuthStore}
    {P : Pool (brokerSystem p)}
    (h : Reach (fresh p) (Pool.idle (BrokerWorld.opened auth)) P) :
    (∀ rotation ∈ P.state.spent, ∀ other ∈ P.state.spent, rotation.token = other.token →
      core rotation.ticket = core other.ticket) ∧
    (∀ token, P.state.spent.countP (plainOf token) ≤ 1) ∧
    ∀ m P' t rotation i, P.issued m = some (t, .spend rotation, i) → P.move m = some P' →
      rotation.ticket ∈ P.state.stored := by
  have hr := rotating_of_reach h
  refine ⟨fun rotation hin other ho => hr.unique rotation other (.inl hin) (.inl ho), hr.once, ?_⟩
  intro m _ t rotation i hi hm
  obtain ⟨hl, hin⟩ := issued_disciplined h hm hi
  exact hr.claimedStored rotation (.inr ⟨t, hl, hin⟩)

instance (p : Platform) (t : ℕ) (c : BrokerCmd) (i : BrokerInput) (w : BrokerWorld) :
    Decidable (fresh p t c i w) :=
  match c with
  | .locked s =>
    inferInstanceAs (Decidable (∀ response ∈ granted s, response.refreshToken ∉ w.held))
  | .enter | .lockIssuance | .tryLockIssuance | .unlockIssuance | .spend _ | .answer _ | .dropped
  | .stopLocal | .pace _ | .paceFailed _ | .paceRejected | .paceSettled => .isTrue trivial

def handset : Platform := ⟨plainJson, true, fun _ => true⟩

def renewal (uuid : Fin 10) (access refresh : String) : BrokerInput where
  readable := true
  save := .done
  uuid := numberedUuid uuid
  now := 0
  dropped := false
  reply
    | .rotate _ => .ok ⟨"Bearer", access, 60, refresh, 600,
        ⟨"device", some "1.0.0", some "1.0.0", some 1, some .latest, some 1⟩⟩
    | q => plainReply q

def renew (t : ℕ) (stale : String) (i : BrokerInput) : List (Move (brokerSystem handset)) :=
  .start (.accessToken none (some ⟨stale, singleRuntime "1.0.0", 1, "family"⟩)) ::
    [1, 2, 2, 3, 2, 3].flatMap fun steps =>
      segment t (List.replicate steps (i : (brokerSystem handset).machine.Input))

/-- A server that answers a rotation with the token that it was given makes a phone send that token
twice, for two operations. -/
theorem repeated_grant_spent_twice :
    ∃ P : Pool (brokerSystem handset),
      Reach (unconditioned (brokerSystem handset)) (Pool.idle (BrokerWorld.opened signedInStore)) P ∧
      P.state.spent.map (fun rotation => (rotation.token, rotation.ticket.operationId)) =
        [("refresh", (numberedUuid 3).value), ("refresh", (numberedUuid 2).value)] ∧
      P.state.spent.countP (plainOf "refresh") = 2 := by
  have hru :
      (moves (unconditioned (brokerSystem handset)) (Pool.idle (BrokerWorld.opened signedInStore))
        (renew 0 "access" (renewal 2 "second" "refresh") ++
          renew 1 "second" (renewal 3 "third" "refresh"))).map (fun P =>
        (P.state.spent.map (fun rotation => (rotation.token, rotation.ticket.operationId)),
          P.state.spent.countP (plainOf "refresh"))) =
      some ([("refresh", (numberedUuid 3).value), ("refresh", (numberedUuid 2).value)], 2) := by
    decide +kernel
  obtain ⟨P, hr, hru⟩ := Reach.observed hru
  obtain ⟨hs, hc⟩ := Prod.mk.inj hru
  exact ⟨P, hr, hs, hc⟩

/-- A server that answers with new tokens is asked once for each. -/
theorem refresh_token_spent_by_one_ticket_renewed :
    ∃ P : Pool (brokerSystem handset),
      Reach (fresh handset) (Pool.idle (BrokerWorld.opened signedInStore)) P ∧
      P.state.spent.map (·.token) = ["later", "refresh"] ∧
      ∀ token, P.state.spent.countP (plainOf token) ≤ 1 := by
  have hru :
      (moves (fresh handset) (Pool.idle (BrokerWorld.opened signedInStore))
        (renew 0 "access" (renewal 2 "second" "later") ++
          renew 1 "second" (renewal 3 "third" "last"))).map (fun P => P.state.spent.map (·.token)) =
      some ["later", "refresh"] := by
    decide +kernel
  obtain ⟨P, hr, hs⟩ := Reach.observed hru
  exact ⟨P, hr, hs, (refresh_token_spent_by_one_ticket hr).2.1⟩

end NelomaiClient.AuthRotation
