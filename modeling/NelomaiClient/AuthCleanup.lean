import NelomaiClient.AuthLogout

/-!
# The receipt of a logout

The end of a logout leaves a receipt for the cleanup of the runtime, which another
component finishes later. The cleanup asks the broker whether the login has ended,
and a second logout writes a receipt of its own. So the receipt is safe as long as
no login begins while it is there.
-/

namespace NelomaiClient.AuthCleanup

open Checked AwaitPool AwaitRely AwaitTotal
open RuntimeOwner AuthRecord AuthSections AuthChanges AuthBroker
open AuthDiscipline AuthFence AuthLogout
open SwitchClosure (plainJson numberedUuid singleRuntime)
open SwitchCoordinator (BrokerError)

section Changes

variable {auth : AuthStore}

lemma receipt_of_change (h : Change auth c auth') :
    auth'.completedRuntimeLogout = auth.completedRuntimeLogout ∨
      (∃ receipt, c = .finishRuntimeLogoutCleanup receipt ∧
        auth.completedRuntimeLogout = some receipt) ∨
      (auth.logoutState = .pending ∧ auth'.logoutState = .loggedOut) := by
  cases h with
  | kept steady => exact .inl steady.receipt
  | rotated _ _ rotation => exact .inl rotation.receipt
  | resumed _ _ _ _ _ _ _ _ _ receipt | entered _ _ _ _ _ receipt
  | rejected _ _ _ _ _ _ _ _ _ receipt => exact .inl receipt
  | revoking _ archived => exact .inl (archive_keeps archived).2.2
  | finished state _ => exact .inr (.inr ⟨state, rfl⟩)
  | cleaned current => exact .inr (.inl ⟨_, rfl, current⟩)
  | _ => exact .inl rfl

lemma loggedOut_of_change (h : Change auth c auth') (hs : auth.logoutState = .loggedOut) :
    auth'.logoutState = .loggedOut ∨ ∃ fence login, c = .loginBegin fence login := by
  have he : auth.logoutState ≠ .active := by simp [hs]
  cases h with
  | kept steady => exact .inl (steady.state.trans hs)
  | entered => exact .inr ⟨_, _, rfl⟩
  | cancelled cancel =>
    simp only [loginCancelled, endedSource, Bool.and_eq_true, decide_eq_true_eq] at cancel
    rw [hs] at cancel
    exact absurd cancel.1.1.1.1 (by simp)
  | finished state _ =>
    rw [hs] at state
    cases state
  | resuming begun => exact (he begun.active).elim
  | captured active | superseded active | issued active | settled active | rotated active
  | keyed active | resumed active | doubted active | rejected active | signedIn active
  | refused active | left active | revoking active => exact (he active).elim
  | _ => exact .inl hs

lemma valid_cleaned {keep : PendingRuntimeSupersede → Bool} (h : auth.valid = true) :
    AuthStore.valid { auth with
      completedRuntimeLogout := none
      pendingRuntimeSupersede := auth.pendingRuntimeSupersede.filter keep } = true := by
  simp only [AuthStore.valid, AuthStore.checks, passes_append, Bool.and_eq_true] at h ⊢
  obtain ⟨⟨⟨⟨⟨hsc, hi⟩, _⟩, hs⟩, ho⟩, hb⟩ := h
  refine ⟨⟨⟨⟨⟨hsc, hi⟩, rfl⟩, ?_⟩, ho⟩, hb⟩
  cases hso : auth.pendingRuntimeSupersede with
  | none => rfl
  | some ticket =>
    rw [hso] at hs
    cases hk : keep ticket with
    | true => simpa [Option.filter, hk] using hs
    | false => simp [Option.filter, hk]

end Changes

section Runs

variable {p : Platform} {i : BrokerInput} {t : ℕ} {w w' : BrokerWorld}

/-- The record is accepted, and what it owes belongs to a login that has ended. -/
structure Owing (w : BrokerWorld) : Prop where
  valid : w.auth.valid = true
  ended : w.auth.completedRuntimeLogout ≠ none → w.auth.logoutState = .loggedOut

/-- A login that saves its ticket finds no receipt. -/
def cleanedFirst (p : Platform) : StepCondition (brokerSystem p) := fun _ c i w =>
  match c with
  | .locked (.loginBegin fence login) =>
    savesRecord (loginBegin p i.uuid w.auth fence login) = true →
      w.auth.completedRuntimeLogout = none
  | _ => True

lemma savesRecord_congr {x : Except SwitchCoordinator.BrokerError β}
    {f g : β → Except SwitchCoordinator.BrokerError (Decided α)}
    (h : ∀ b, savesRecord (f b) = savesRecord (g b)) :
    savesRecord (x >>= f) = savesRecord (x >>= g) := by
  cases x with
  | error => rfl
  | ok b => exact h b

/-- Whether a login saves its ticket does not depend on the number that it draws. -/
lemma savesRecord_loginBegin (uuid uuid' : SwitchRecord.FreshUuid) :
    savesRecord (loginBegin p uuid auth fence account) =
      savesRecord (loginBegin p uuid' auth fence account) := by
  simp only [loginBegin, beginWithRefresh, LawfulMonad.bind_assoc, pure_bind]
  iterate 7 refine savesRecord_congr fun _ => ?_
  rfl

lemma Owing.change (h : Owing w) (hco : cleanedFirst p t (.locked s) i w)
    (hru : runSection p uuid w.auth s = .ok (a, some write))
    (hr : write.record.completedRuntimeLogout ≠ none) :
    write.record.logoutState = .loggedOut := by
  have hc := change_of_run hru
  rcases receipt_of_change hc with hs | ⟨_, rfl, hcu⟩ | ⟨_, he⟩
  · have hb : w.auth.completedRuntimeLogout ≠ none := hs ▸ hr
    rcases loggedOut_of_change hc (h.ended hb) with he | ⟨_, _, rfl⟩
    · exact he
    · have hs : savesRecord (loginBegin p uuid w.auth _ _) = true :=
        congrArg savesRecord hru
      exact (hb (hco (savesRecord_loginBegin uuid i.uuid ▸ hs))).elim
  · have he := h.ended (by simp [hcu])
    rcases loggedOut_of_change hc he with he | ⟨_, _, hl⟩
    · exact he
    · cases hl
  · exact he

lemma Owing.exec (h : Owing w) (hco : cleanedFirst p t c i w)
    (he : w.exec p i t c = some (r, w')) : Owing w' := by
  cases executed he with
  | locked hst =>
    rcases hst.record with hs | ⟨_, _, _, hru, hs, hv⟩
    · exact ⟨hs ▸ h.valid, hs ▸ h.ended⟩
    · exact ⟨hs ▸ hv, hs ▸ h.change hco hru⟩
  | _ => exact ⟨h.valid, h.ended⟩

lemma reopened_receipt :
    w.reopened.auth.completedRuntimeLogout = w.auth.completedRuntimeLogout := by
  unfold BrokerWorld.reopened
  split
  · rfl
  · rfl

lemma Owing.reopened (h : Owing w) : Owing w.reopened := by
  unfold BrokerWorld.reopened
  constructor
  · dsimp only
    split
    · exact h.valid
    · exact h.valid
  · dsimp only
    split
    · exact h.ended
    · exact h.ended

lemma owing_of_reach (h0 : Owing (.opened auth))
    (h : Reach (cleanedFirst p) (Pool.idle (BrokerWorld.opened auth)) P) : Owing P.state := by
  refine Reach.invariant ?_ ?_ h0 h
  · intro t c i r w w' hc ho hs
    exact @Owing.exec p i t w w' c r ho hc hs
  · exact fun w ho => ho.reopened

lemma Owing.receipt {r : BrokerResp c} {receipt : CompletedRuntimeLogout} (h : Owing w)
    (hr : w.auth.completedRuntimeLogout = some receipt)
    (hex : w.exec p i t c = some (r, w')) :
    w'.auth.completedRuntimeLogout = some receipt ∨ c = .locked
      (.finishRuntimeLogoutCleanup receipt) := by
  rcases auth_of_exec hex with hs | ⟨s, rfl, hch⟩
  · exact .inl (hs ▸ hr)
  · rcases receipt_of_change hch with hs | ⟨other, rfl, hc⟩ | ⟨hp, _⟩
    · exact .inl (hs.trans hr)
    · have ho : receipt = other := Option.some.inj (hr.symm.trans hc)
      exact .inr (ho ▸ rfl)
    · have he := h.ended (by simp [hr])
      rw [he] at hp
      cases hp

/-- When no login begins while a receipt is there, it stays until its own cleanup is finished, and
while it is there the cleanup can stop the connection and be finished. -/
theorem receipt_kept_until_finished {auth : AuthStore} (hvalid : auth.valid = true)
    (hended : auth.completedRuntimeLogout ≠ none → auth.logoutState = .loggedOut)
    {P : Pool (brokerSystem p)}
    (h : Reach (cleanedFirst p) (Pool.idle (BrokerWorld.opened auth)) P)
    {receipt : CompletedRuntimeLogout}
    (hreceipt : P.state.auth.completedRuntimeLogout = some receipt) :
    (∀ m P', P.move m = some P' → P'.state.auth.completedRuntimeLogout = some receipt ∨
      ∃ t i, P.issued m = some (t, .locked (.finishRuntimeLogoutCleanup receipt), i)) ∧
    ∀ t, Succeeds Working t (AuthBroker.locked p (.logoutCleanupCheck receipt))
        (fun _ w' => w'.auth = P.state.auth) P.state ∧
      Succeeds Working t (AuthBroker.locked p (.finishRuntimeLogoutCleanup receipt))
        (fun _ w' => w'.auth.completedRuntimeLogout = none) P.state := by
  have ho : Owing P.state := owing_of_reach ⟨hvalid, hended⟩ h
  refine ⟨fun m P' hm => ?_, fun t => ⟨?_, ?_⟩⟩
  · rcases Pool.move_cases hm with ⟨t, c, i, hi⟩ | hsa | hr
    · obtain ⟨r, hse⟩ := Pool.move_issued hm hi
      rcases @Owing.receipt p i t P.state P'.state c r receipt ho hreceipt hse with hk | rfl
      · exact .inl hk
      · exact .inr ⟨t, i, hi⟩
    · exact .inl (hsa ▸ hreceipt)
    · exact .inl (hr ▸ (reopened_receipt).trans hreceipt)
  · refine succeeds_read (a := ()) ho.valid fun uuid => ?_
    have hst := ho.ended (by simp [hreceipt])
    simp [runSection, logoutCleanupCheck, hreceipt, hst]
  · have hs := succeeds_saved (p := p) (t := t) (s := .finishRuntimeLogoutCleanup receipt)
      (Q := fun _ record => record.completedRuntimeLogout = none) ho.valid ?_
    · exact hs.mono fun _ w' hw' => hw'.1
    · intro uuid
      have hru : runSection p uuid P.state.auth (.finishRuntimeLogoutCleanup receipt) =
          .ok ((), some ⟨{ P.state.auth with
            completedRuntimeLogout := none
            pendingRuntimeSupersede := P.state.auth.pendingRuntimeSupersede.filter fun ticket =>
              !(ticket.source.family == receipt.source.family &&
                ticket.source.deviceId == receipt.source.deviceId) }, false⟩) := by
        simp only [runSection, finishRuntimeLogoutCleanup, hreceipt, decide_true]
        rfl
      exact ⟨(), _, hru, valid_cleaned ho.valid, rfl⟩

instance (t : ℕ) (c : BrokerCmd) (i : BrokerInput) (w : BrokerWorld) :
    Decidable (cleanedFirst p t c i w) := by
  unfold cleanedFirst
  split
  · infer_instance
  · infer_instance

def unfinished (p : Platform) : StepCondition (brokerSystem p) := fun _ c _ _ =>
  match c with
  | .locked (.finishRuntimeLogoutCleanup _) => False
  | _ => True

instance (t : ℕ) (c : BrokerCmd) (i : BrokerInput) (w : BrokerWorld) :
    Decidable (unfinished p t c i w) := by
  unfold unfinished
  split
  · infer_instance
  · infer_instance

def obliging (uuid : Fin 10) : BrokerInput where
  readable := true
  save := .done
  uuid := numberedUuid uuid
  now := 0
  dropped := false
  reply
    | .logout _ => .ok ⟨"already_inactive", none⟩
    | .login _ _ => .ok ⟨"Bearer", "access", 60, "refresh", 600,
        ⟨"device", some "1.0.0", some "1.0.0", some 1, some .latest, some 2⟩⟩
    | q => plainReply q

/-- A call from its start to its end, with the numbers of its steps between awaits. -/
def whole (t : ℕ) (op : BrokerOp) (uuid : Fin 10) (steps : List ℕ) :
    List (Move (brokerSystem desktop)) :=
  .start op :: steps.flatMap fun n =>
    segment t (List.replicate n (obliging uuid : (brokerSystem desktop).machine.Input))

def confirmedLogout (t : ℕ) (uuid : Fin 10) : List (Move (brokerSystem desktop)) :=
  whole t (.logout none none) uuid [1, 3, 2, 2, 2]

def remoteLogin (t : ℕ) (uuid : Fin 10) : List (Move (brokerSystem desktop)) :=
  whole t (.login (some ⟨2, "family", some (singleRuntime "1.0.0")⟩) "user"
    ⟨"1.0.0", "1.0.0", 1, .latest⟩) uuid [1, 2, 2, 3, 2, 2, 3]

/-- A login and a second logout replace the receipt of the first logout, whose cleanup nobody has
finished. -/
theorem second_logout_replaces_receipt :
    ∃ P P' : Pool (brokerSystem desktop),
      Reach (unconditioned (brokerSystem desktop)) (Pool.idle (BrokerWorld.opened signedInStore)) P ∧
      Reach (unfinished desktop) P P' ∧
      P.state.auth.completedRuntimeLogout.map (·.operationId) = some (numberedUuid 1).value ∧
      P'.state.auth.completedRuntimeLogout.map (·.operationId) = some (numberedUuid 3).value := by
  have hr :
      ((moves (unconditioned (brokerSystem desktop)) (Pool.idle (BrokerWorld.opened signedInStore))
        (confirmedLogout 0 1)).bind fun P =>
          (moves (unfinished desktop) P (remoteLogin 1 2 ++ confirmedLogout 2 3)).map fun P' =>
            (P.state.auth.completedRuntimeLogout.map (·.operationId),
              P'.state.auth.completedRuntimeLogout.map (·.operationId))) =
        some (some (numberedUuid 1).value, some (numberedUuid 3).value) := by
    decide +kernel
  obtain ⟨P, hP, hr⟩ := Option.bind_eq_some_iff.mp hr
  obtain ⟨P', hP', hr⟩ := Option.map_eq_some_iff.mp hr
  obtain ⟨hb, ha⟩ := Prod.mk.inj hr
  exact ⟨P, P', Reach.moves _ .refl _ hP, Reach.moves _ .refl _ hP', hb, ha⟩

/-- A logout leaves a receipt whose cleanup can be finished. -/
theorem receipt_kept_until_finished_logout :
    ∃ (P : Pool (brokerSystem desktop)) (receipt : CompletedRuntimeLogout),
      Reach (cleanedFirst desktop) (Pool.idle (BrokerWorld.opened signedInStore)) P ∧
      P.state.auth.completedRuntimeLogout = some receipt ∧
      Succeeds Working 1 (AuthBroker.locked desktop (.finishRuntimeLogoutCleanup receipt))
        (fun _ w' => w'.auth.completedRuntimeLogout = none) P.state := by
  have hru :
      ((moves (cleanedFirst desktop) (Pool.idle (BrokerWorld.opened signedInStore))
        (confirmedLogout 0 1)).bind fun P => P.state.auth.completedRuntimeLogout.map fun receipt =>
          receipt.operationId) = some (numberedUuid 1).value := by
    decide +kernel
  obtain ⟨P, hP, hru⟩ := Option.bind_eq_some_iff.mp hru
  obtain ⟨receipt, hr, _⟩ := Option.map_eq_some_iff.mp hru
  have hre : Reach (cleanedFirst desktop) (Pool.idle (BrokerWorld.opened signedInStore)) P :=
    Reach.moves _ .refl _ hP
  have hv : signedInStore.valid = true := by decide +kernel
  have hk := receipt_kept_until_finished hv (fun h => (h rfl).elim) hre hr
  exact ⟨P, receipt, hre, hr, (hk.2 1).2⟩

end Runs

end NelomaiClient.AuthCleanup
