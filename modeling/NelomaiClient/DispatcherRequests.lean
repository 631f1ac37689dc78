import NelomaiClient.DispatcherContract

/-!
# Requests of the dispatcher

Every request keeps the contract. A stop ends without an engine, without a
marker and with its identity selected; the recovery inside it is the only place
where a spawn may fail over a marker that was found. A start ends with a marker.
-/

namespace NelomaiClient.DispatcherRequests

open EngineChannel EngineDispatcher DispatcherContract
open AwaitProgram AwaitPool AwaitRely AwaitFallible

variable {codec : Codec} {r p : Prop} {t : ℕ} {w : DispatcherWorld} {F : Facts}

structure Ready (F : Facts) : Prop where
  held : F.holder.isSome
  present : F.identity.isSome
  between : F.exchange = .none

def Rejected (w : DispatcherWorld) : Prop := Ready (facts w)

lemma Ready.rejected (h : Ready F) (hF : facts w = F) : Rejected w := by
  unfold Rejected
  rw [hF]
  exact h

lemma Ready.of {G : Facts} (h : Ready F) (hh : G.holder = F.holder)
    (hi : G.identity = F.identity) (he : G.exchange = F.exchange) : Ready G :=
  ⟨hh ▸ h.held, hi ▸ h.present, he.trans h.between⟩

lemma Ready.seq {α β : Type} {x : Prog (dispatching codec) (Except IoError α)}
    {f : α → Dispatch codec β} {Q : β → DispatcherWorld → Prop} (h : Ready F)
    (hx : wp (contract codec r p) t x (fun _ w' => facts w' = F) w)
    (hf : ∀ a w', facts w' = F →
      wpe (contract codec r p) t (f a) Q (fun _ w' => Rejected w') w') :
    wpe (contract codec r p) t (attempt x >>= f) Q (fun _ w' => Rejected w') w :=
  wpe_seq (wpe_attempt hx) (fun _ _ hF => h.rejected hF) hf

def owning (F : Facts) (created stopped : Bool) : Facts :=
  { F with
    marker := true
    child := true
    failed := false
    spawned := true
    created := created
    stopped := stopped }

/-- A spawned engine that is ready, or a rejection. The removal of the marker
after a failed spawn needs its ground. -/
lemma spawn_program_spec (origin : SpawnOrigin) (hF : facts w = F) (hr : Ready F)
    (hch : F.child = false)
    (hg : (r → origin ≠ .recovery) → (r → F.failed = false) ∧
      (F.marker = false → F.spawned = false ∧
        ∃ contract identity, F.request = .handle (.start contract identity)) ∧
      (F.marker = true → ¬ r)) :
    wpe (contract codec r p) t (spawn codec origin)
      (fun _ w' => ∃ created stopped, facts w' = owning F created stopped)
      (fun _ w' => Rejected w') w := by
  unfold spawn
  refine quiet_seq rfl hF fun identity w' hF _ => ?_
  refine hr.seq (wp_still rfl hF) fun verified w' hF => ?_
  unfold authorize
  refine wpe_require (fun _ => hr.rejected hF) fun _ => ?_
  refine quiet_seq rfl hF fun marked w' hF hma => ?_
  have hmr : wpe (contract codec r p) t
      (whenever (!marked) (attempt (call codec (.createMarker identity))))
      (fun _ w' => ∃ created, facts w' = { F with marker := true, created := created } ∧
        (F.marker = false → created = true))
      (fun _ w' => Rejected w') w' := by
    refine wpe_whenever (fun _ => ?_) fun ho => ?_
    · refine wpe_mono (fun _ w' h => ⟨true, h, fun _ => rfl⟩) (fun _ w' h => ?_)
        (createMarker_spec identity hF)
      obtain ⟨_, _, h⟩ := h
      refine Ready.rejected ?_ h
      exact hr.of rfl rfl rfl
    · have ht : F.marker = true := by
        rw [← show marked = F.marker from hma]
        simpa using ho
      refine ⟨F.created, ?_, fun hf => ?_⟩
      · rw [hF, ← ht]
      · rw [ht] at hf
        cases hf
  refine wpe_seq hmr (fun _ _ h => h) fun _ w' ⟨created, hF, hc⟩ => ?_
  have hr' : Ready { F with marker := true, created := created } := hr.of rfl rfl rfl
  refine hr'.seq (wp_still rfl hF) fun _ w' hF => ?_
  rw [wpe_bind, wpe_outcome]
  refine wpe_mono (fun _ w' hF => ?_) (fun e w' hF => ?_)
    (spawn_spec origin hF hr'.present rfl hr'.between)
  · -- the engine is asked whether it is ready
    unfold spawned
    refine wpe_seq (exchange_spec .ready codec.readyFrame hF hr.held hr.between
      (fun _ => rfl) hr.present rfl) (fun _ w' h => ?_) fun body w' ⟨stopped, hF, _⟩ => ?_
    · refine Ready.rejected ?_ h
      exact hr.of rfl rfl rfl
    · have hr'' : Ready (owning F created stopped) := hr.of rfl rfl rfl
      unfold require
      split
      · exact ⟨created, stopped, hF⟩
      · exact hr''.rejected hF
  · obtain ⟨hF, hfr⟩ := hF
    obtain ⟨hu, hre, ho⟩ := hg hfr
    refine wpe_seq (removeMarker_spec hF hch hu ?_) (fun _ _ h => hr'.rejected h) fun _ w' hF => ?_
    · cases hm : F.marker with
      | false =>
        obtain ⟨hs, contract, identity, hst⟩ := hre hm
        exact Or.inr (Or.inl ⟨contract, identity, hst, hc hm, hs⟩)
      | true => exact Or.inr (Or.inr (ho hm))
    · have hr'' : Ready { F with marker := false, created := created } := hr.of rfl rfl rfl
      exact hr''.rejected hF

lemma start_spec (hF : facts w = F) (hr : Ready F) {identity : EngineIdentity}
    (hre : F.request = .handle (.start contractVersion identity))
    (hs : F.spawned = false) :
    wpe (contract codec r p) t (start codec) (fun _ w' => (facts w').marker = true ∧ Rejected w')
      (fun _ w' => Rejected w') w := by
  unfold start
  refine quiet_seq rfl hF fun failed w' hF hf => ?_
  refine wpe_require (fun _ => hr.rejected hF) fun hu => ?_
  refine wpe_seq (wpe_quiet_marked rfl hF) (fun _ _ h => h) fun child w' ⟨hF, hc, hi⟩ => ?_
  have hc : child = F.child := hc
  cases child with
  | true =>
    refine hr.seq (wp_still rfl hF) fun _ w' hF => ?_
    unfold require
    split
    · refine ⟨?_, hr.rejected hF⟩
      rw [hF]
      exact hi.child hc.symm
    · exact hr.rejected hF
  | false =>
    refine quiet_seq rfl hF fun marked w' hF hm => ?_
    refine wpe_require (fun _ => hr.rejected hF) fun hun => ?_
    have hma : F.marker = false := by
      rw [← show marked = F.marker from hm]
      simpa using hun
    have ho : F.failed = false := by
      rw [← show failed = F.failed from hf]
      simpa using hu
    refine wpe_mono (fun _ w' h => ?_) (fun _ _ h => h)
      (spawn_program_spec .start hF hr hc.symm fun _ =>
        ⟨fun _ => ho, fun _ => ⟨hs, contractVersion, identity, hre⟩, fun h => ?_⟩)
    · obtain ⟨created, stopped, hF⟩ := h
      have hr' : Ready (owning F created stopped) := hr.of rfl rfl rfl
      exact ⟨by rw [hF]; rfl, hr'.rejected hF⟩
    · rw [hma] at h
      cases h

lemma reapFailed_spec (hF : facts w = F) (hr : Ready F) :
    wpe (contract codec r p) t (reapFailed codec)
      (fun _ w' => facts w' = { F with child := F.child && !F.failed })
      (fun _ w' => Rejected w') w := by
  have hre : ∀ w', facts w' = F → wpe (contract codec r p) t (killChild codec)
      (fun _ w' => facts w' = F) (fun _ w' => Rejected w') w' := by
    intro w' hF
    refine quiet_seq rfl hF fun child w' hF _ => ?_
    cases child with
    | false => exact hF
    | true =>
      refine hr.seq (wp_still rfl hF) fun _ w' hF => ?_
      refine wpe_seq
        (wpe_whenever (fun _ => wpe_attempt (wp_still rfl hF)) fun _ => hF)
        (fun _ _ h => hr.rejected h) fun _ w' hF => ?_
      exact wpe_mono (fun _ _ h => h) (fun _ _ h => hr.rejected h) (wpe_attempt (wp_still rfl hF))
  refine quiet_seq rfl hF fun failed w' hF hf => ?_
  have hf : failed = F.failed := hf
  refine wpe_whenever (fun ht => ?_) fun hfa => ?_
  · refine wpe_seq (hre w' hF) (fun _ _ h => h) fun _ w' hF => ?_
    rw [wpe_surely]
    refine wp_mono (fun _ w' h => ?_) (dropChild_spec hF)
    rw [h, ← hf, ht, Bool.not_true, Bool.and_false]
  · have hk : (F.child && !F.failed) = F.child := by
      rw [← hf, hfa, Bool.not_false, Bool.and_true]
    rw [hk]
    exact hF

lemma reapExited_spec (hF : facts w = F) (hr : Ready F) :
    wpe (contract codec r p) t (reapExited codec)
      (fun _ w' => ∃ child, facts w' = { F with child := child } ∧ (child = true → F.child = true))
      (fun _ w' => Rejected w') w := by
  have hs : ∀ w', facts w' = F → ∃ child, facts w' = { F with child := child } ∧
      (child = true → F.child = true) := fun w' hF => ⟨F.child, hF, id⟩
  refine quiet_seq rfl hF fun child w' hF _ => ?_
  refine wpe_whenever (fun _ => ?_) fun _ => hs w' hF
  refine hr.seq (wp_still rfl hF) fun _ w' hF => ?_
  refine wpe_whenever (fun _ => ?_) fun _ => hs w' hF
  rw [wpe_surely]
  exact wp_mono (fun _ w' h => ⟨false, h, (nomatch ·)⟩) (dropChild_spec hF)

structure Recovered (r : Prop) (F G : Facts) : Prop where
  ready : Ready G
  identity : G.identity = F.identity
  /-- An owned engine has a marker and a channel that did not fail. -/
  owned : G.child = true → G.failed = false ∧ G.marker = true
  unowned : G.child = false → G.marker = false ∧ (r → G.failed = false)

lemma recoverCrashed_spec (hF : facts w = F) (hre : Ready F)
    (hca : F.child = true → F.failed = false) :
    wpe (contract codec r p) t (recoverCrashed codec)
      (fun _ w' => Recovered r F (facts w')) (fun _ w' => Rejected w') w := by
  refine quiet_seq rfl hF fun child w' hF hch => ?_
  refine wpe_seq (wpe_quiet_marked rfl hF) (fun _ _ h => h) fun marked w' ⟨hF, hm, hi⟩ => ?_
  have hch : child = F.child := hch
  have hm : marked = F.marker := hm
  rw [hch, hm]
  refine wpe_whenever (fun hc => ?_) fun hn => ?_
  · have hc : F.child = false ∧ F.marker = true := by simpa using hc
    refine hre.seq (wp_still rfl hF) fun _ w' hF => ?_
    refine hre.seq (wp_still rfl hF) fun _ w' hF => ?_
    refine quiet_seq rfl hF fun identity w' hF _ => ?_
    refine wpe_require (fun _ => hre.rejected hF) fun _ => ?_
    refine wpe_mono (fun _ w' h => ?_) (fun _ _ h => h)
      (spawn_program_spec .recovery hF hre hc.1 fun hfr => ?_)
    · obtain ⟨_, _, hF⟩ := h
      rw [hF]
      exact
        { ready := hre.of rfl rfl rfl
          identity := rfl
          owned := fun _ => ⟨rfl, rfl⟩
          unowned := (nomatch ·) }
    · -- the recovery spawn may fail only where its failure is not excluded
      have hno : ¬ r := fun hr => hfr hr rfl
      refine ⟨fun hr => absurd hr hno, fun hf => ?_, fun _ => hno⟩
      rw [hc.2] at hf
      cases hf
  · show Recovered r F (facts w')
    rw [hF]
    refine ⟨hre, rfl, fun ht => ⟨hca ht, hi.child ht⟩, fun hf => ?_⟩
    have hma : F.marker = false := by simpa [hf] using hn
    refine ⟨hma, fun hr => ?_⟩
    cases hfa : F.failed with
    | false => rfl
    | true => exact absurd (hma.symm.trans (hi.failed hr hfa)) (nomatch ·)

/-- What a stop leaves: the selected identity and nothing that is active. -/
structure Stopped (r : Prop) (F G : Facts) : Prop where
  ready : Ready G
  identity : G.identity = F.identity
  child : G.child = false
  marker : G.marker = false
  /-- The channel of the next engine did not fail. -/
  failed : r → G.failed = false

lemma retire_spec (hF : facts w = F) (hr : Ready F) (hs : F.stopped = true)
    (hu : F.failed = false) :
    wpe (contract codec r p) t (retire codec) (fun _ w' => Stopped r F (facts w'))
      (fun _ w' => Rejected w') w := by
  refine quiet_seq rfl hF fun _ w' hF _ => ?_
  have he : wpe (contract codec r p) t (Fallible.loop (exitRound codec) ())
      (fun _ w' => facts w' = F) (fun _ w' => Rejected w') w' := by
    refine wpe_loop (fun _ w' => facts w' = F) hF fun _ w' hF => ?_
    refine hr.seq (wp_still rfl hF) fun exited w' hF => ?_
    cases exited with
    | true => exact hF
    | false =>
      refine quiet_seq rfl hF fun passed w' hF _ => ?_
      cases passed with
      | false => exact hF
      | true =>
        refine hr.seq (wp_still rfl hF) fun _ w' hF => ?_
        refine hr.seq (wp_still rfl hF) fun _ w' hF => ?_
        exact hF
  refine wpe_seq he (fun _ _ h => h) fun _ w' hF => ?_
  have hd : wpe (contract codec r p) t (surely (call codec .dropChild) : Dispatch codec Unit)
      (fun _ w' => facts w' = { F with child := false }) (fun _ w' => Rejected w') w' :=
    (wpe_surely _ _ _ _ _ _).mpr (dropChild_spec hF)
  refine wpe_seq hd (fun _ _ h => h) fun _ w' hF => ?_
  have hr' : Ready { F with child := false } := hr.of rfl rfl rfl
  refine wpe_mono (fun _ w' h => ?_) (fun _ _ h => hr'.rejected h)
    (removeMarker_spec hF rfl (fun _ => hu) (Or.inl hs))
  rw [h]
  exact ⟨hr.of rfl rfl rfl, rfl, rfl, rfl, fun _ => hu⟩

lemma stopEngine_spec (hF : facts w = F) (hr : Ready F) (hu : F.failed = false)
    (hm : F.marker = true) :
    wpe (contract codec r p) t (stopEngine codec) (fun _ w' => Stopped r F (facts w'))
      (fun _ w' => Rejected w') w := by
  refine wpe_seq (exchange_spec .stop codec.stopFrame hF hr.held hr.between
    (fun _ => hu) hr.present hm) (fun _ w' h => ?_)
    fun _ w' ⟨stopped, hF, hs⟩ => ?_
  · refine Ready.rejected ?_ h
    exact hr.of rfl rfl rfl
  · have hr' : Ready { F with stopped := stopped } := hr.of rfl rfl rfl
    refine wpe_require (fun _ => hr'.rejected hF) fun hb => ?_
    refine wpe_mono (fun _ w' h => ?_) (fun _ _ h => h) (retire_spec hF hr' (hs rfl hb hu) hu)
    exact ⟨h.ready, h.identity, h.child, h.marker, h.failed⟩

lemma stop_spec (hF : facts w = F) (hre : Ready F) :
    wpe (contract codec r p) t (stop codec) (fun _ w' => Stopped r F (facts w'))
      (fun _ w' => Rejected w') w := by
  refine wpe_seq (reapFailed_spec hF hre) (fun _ _ h => h) fun _ w' hF => ?_
  have hre1 : Ready { F with child := F.child && !F.failed } := hre.of rfl rfl rfl
  refine wpe_seq (reapExited_spec hF hre1) (fun _ _ h => h) fun _ w' ⟨child, hF, hch⟩ => ?_
  have hre2 : Ready { F with child := child } := hre.of rfl rfl rfl
  have hc : child = true → F.failed = false := by
    intro ht
    have hb : F.child = true ∧ F.failed = false := by simpa using hch ht
    exact hb.2
  refine wpe_seq (recoverCrashed_spec hF hre2 hc) (fun _ _ h => h) fun _ w' hr => ?_
  refine quiet_seq rfl rfl fun owned w'' hG ho => ?_
  have ho : owned = (facts w').child := ho
  refine wpe_whenever (fun ht => ?_) fun hf => ?_
  · obtain ⟨hu, hm⟩ := hr.owned (ho.symm.trans ht)
    refine wpe_mono (fun _ w' h => ?_) (fun _ _ h => h) (stopEngine_spec hG hr.ready hu hm)
    exact ⟨h.ready, h.identity.trans hr.identity, h.child, h.marker, h.failed⟩
  · have hn := ho.symm.trans hf
    obtain ⟨hm, hu⟩ := hr.unowned hn
    rw [hG]
    exact ⟨hr.ready, hr.identity, hn, hm, hu⟩

section Handling

structure Fulfilled (r : Prop) (request : DispatcherRequest) (G : Facts) : Prop where
  ready : Ready G
  /-- A stop leaves nothing active under its identity. -/
  stop : r → ∀ contract identity, request = .stop contract identity →
    G.identity = some identity ∧ G.child = false ∧ G.failed = false ∧ G.marker = false
  start : ∀ contract identity, request = .start contract identity → G.marker = true

lemma selectIdentity_spec (identity : EngineIdentity) (hF : facts w = F) (hr : Ready F) :
    wpe (contract codec r p) t (selectIdentity codec (some identity))
      (fun _ w' => facts w' = { F with identity := some identity })
      (fun _ w' => Rejected w') w := by
  refine quiet_seq rfl hF fun current w' hF hc => ?_
  have hc : F.identity = some current := hc
  refine wpe_whenever (fun _ => ?_) fun hsa => ?_
  · refine quiet_seq rfl hF fun child w' hF hch => ?_
    refine quiet_seq rfl hF fun failed w' hF hf => ?_
    refine quiet_seq rfl hF fun marked w' hF hm => ?_
    refine wpe_require (fun _ => hr.rejected hF) fun hi => ?_
    have hi : F.child = false ∧ F.failed = false ∧ F.marker = false := by
      rw [← show child = F.child from hch, ← show failed = F.failed from hf,
        ← show marked = F.marker from hm]
      simpa [and_assoc] using hi
    refine hr.seq (wp_still rfl hF) fun selected w' hF => ?_
    refine wpe_require (fun _ => hr.rejected hF) fun hs => ?_
    have hs : identity = selected := by simpa using hs
    subst hs
    rw [wpe_surely]
    exact select_spec identity hF hr.present hi.1 hi.2.1 hi.2.2
  · have hsa : identity = current := by simpa using hsa
    rw [hsa, ← hc]
    exact hF

lemma carryOut_spec (hF : facts w = F) (hre : Ready F)
    (hrq : F.request = .handle request) (hs : F.spawned = false)
    (hi : F.identity = request.identity) :
    wpe (contract codec r p) t (carryOut codec request)
      (fun _ w' => Fulfilled r request (facts w')) (fun _ w' => Rejected w') w := by
  cases request with
  | start =>
    refine wpe_mono (fun _ w' h => ?_) (fun _ _ h => h) (start_spec hF hre hrq hs)
    exact ⟨h.2, fun _ _ _ ho => (nomatch ho), fun _ _ _ => h.1⟩
  | stop =>
    refine wpe_mono (fun _ w' h => ?_) (fun _ _ h => h) (stop_spec hF hre)
    refine ⟨h.ready, fun hr _ _ hsa => ?_, fun _ _ ho => (nomatch ho)⟩
    cases hsa
    exact ⟨h.identity.trans hi, h.child, h.failed hr, h.marker⟩
  | cleanup =>
    refine wpe_seq (stop_spec hF hre) (fun _ _ h => h) fun _ w' h => ?_
    refine wpe_mono (fun _ w' hG => ?_) (fun _ _ hG => h.ready.rejected hG)
      (wpe_attempt (wp_still rfl rfl))
    rw [hG]
    exact ⟨h.ready, fun _ _ _ ho => (nomatch ho), fun _ _ ho => (nomatch ho)⟩
  | status | version =>
    show Fulfilled r _ (facts w)
    rw [hF]
    exact ⟨hre, fun _ _ _ ho => (nomatch ho), fun _ _ ho => (nomatch ho)⟩

lemma handleInner_spec (hF : facts w = F) (hr : Ready F)
    (hre : F.request = .handle request) (hs : F.spawned = false) :
    wpe (contract codec r p) t (handleInner codec request)
      (fun _ w' => Fulfilled r request (facts w')) (fun _ w' => Rejected w') w := by
  refine wpe_require (fun _ => hr.rejected hF) fun _ => ?_
  refine wpe_whenever (fun hm => ?_) fun hq => ?_
  · obtain ⟨identity, hi⟩ : ∃ identity, request.identity = some identity := by
      cases request with
      | start _ identity | stop _ identity | cleanup _ identity => exact ⟨identity, rfl⟩
      | status _ | version _ => cases hm
    refine hr.seq (wp_still rfl hF) fun _ w' hF => ?_
    rw [hi]
    refine wpe_seq (selectIdentity_spec identity hF hr) (fun _ _ h => h) fun _ w' hF => ?_
    exact carryOut_spec hF ⟨hr.held, rfl, hr.between⟩ hre hs hi.symm
  · show Fulfilled r request (facts w)
    rw [hF]
    refine ⟨hr, fun _ _ _ hso => ?_, fun _ _ hst => ?_⟩
    · subst hso
      cases hq
    · subst hst
      cases hq

lemma respond_spec {response : DispatcherResponse} (hF : facts w = F)
    (hf : response.ok = true → Fulfilled r request F) :
    wp (contract codec r p) t (call codec (.respond request response))
      (fun _ w' => facts w' = F) w := by
  refine wp_command hF fun a _ _ w' hi hF1 _ _ h => ?_
  cases h
  refine ⟨hi, ?_, hF1⟩
  rw [hF1]
  refine
    { marker := fun ht hfa => absurd (ht.symm.trans hfa) (nomatch ·)
      frame := fun _ _ _ hc => nomatch hc
      identity := fun _ hn => absurd rfl hn
      stop := fun hr contract identity _ hc ho => ?_
      start := fun contract identity _ hc ho => ?_ }
  · cases hc
    exact (hf ho).stop hr contract identity rfl
  · cases hc
    exact (hf ho).start contract identity rfl

lemma response_spec (hF : facts w = F) :
    wpe (contract codec r p) t (response codec result)
      (fun answer w' => facts w' = F ∧ (answer.ok = true → result = .ok ()))
      (fun _ _ => False) w := by
  cases result with
  | error => exact ⟨hF, (nomatch ·)⟩
  | ok =>
    have hr : wpe (contract codec r p) t (running codec) (fun _ w' => facts w' = F)
        (fun _ _ => False) w := by
      refine quiet_seq rfl hF fun failed w' hF _ => ?_
      refine quiet_seq rfl hF fun child w' hF _ => ?_
      split
      · refine quiet_seq rfl hF fun exited w' hF _ => ?_
        cases exited with
        | ok | error => exact hF
      · exact hF
    refine wpe_seq hr (fun _ _ h => h) fun running w' hF => ?_
    refine quiet_seq rfl hF fun identity w' hF _ => ?_
    exact ⟨hF, fun _ => rfl⟩

lemma handle_spec (hF : facts w = F) (hra : Ready F) (hre : F.request = .handle request)
    (hs : F.spawned = false) :
    wpe (contract codec r p) t (EngineDispatcher.handle codec request)
      (fun _ w' => Rejected w') (fun _ w' => Rejected w') w := by
  have ha : ∀ result w', Rejected w' →
      (result = .ok () → Fulfilled r request (facts w')) →
      wpe (contract codec r p) t (do
        let answer ← response codec result
        surely (call codec (.respond request answer))
        return answer) (fun _ w' => Rejected w') (fun _ w' => Rejected w') w' := by
    intro _ _ hr hf
    refine wpe_seq (response_spec rfl) (fun _ _ h => h.elim) fun answer w'' ⟨hG, ho⟩ => ?_
    rw [wpe_bind, wpe_surely]
    refine wp_mono (fun _ w'' hG => ?_) (respond_spec hG fun ht => hf (ho ht))
    exact Ready.rejected hr hG
  unfold EngineDispatcher.handle
  rw [wpe_bind, wpe_outcome]
  refine wpe_mono (fun _ w' h => ?_) (fun error w' h => ?_) (handleInner_spec hF hra hre hs)
  · exact ha _ w' h.ready fun _ => h
  · exact ha _ w' h fun ho => (nomatch ho)

lemma relay_spec (frame : Bytes) (hF : facts w = F) (hr : Ready F) (hu : p → F.failed = false) :
    wpe (contract codec r p) t (EngineDispatcher.relay codec frame)
      (fun _ w' => Rejected w') (fun _ w' => Rejected w') w := by
  refine wpe_require (fun _ => hr.rejected hF) fun _ => ?_
  refine hr.seq (wp_still rfl hF) fun _ w' hF => ?_
  refine wpe_seq (wpe_quiet_marked rfl hF) (fun _ _ h => h) fun child w' ⟨hF, hc, hi⟩ => ?_
  refine wpe_require (fun _ => hr.rejected hF) fun ho => ?_
  have hm := hi.child ((show child = F.child from hc).symm.trans ho)
  refine wpe_mono (fun _ w' h => ?_) (fun _ w' h => ?_)
    (exchange_spec .relay frame hF hr.held hr.between hu hr.present hm)
  · obtain ⟨_, hF, _⟩ := h
    refine Ready.rejected ?_ hF
    exact hr.of rfl rfl rfl
  · refine Ready.rejected ?_ h
    exact hr.of rfl rfl rfl

lemma new_spec (hF : facts w = F) (hb : F.exchange = .none) :
    wpe (contract codec r p) t (EngineDispatcher.new codec)
      (fun _ w' => (facts w').exchange = .none) (fun _ w' => (facts w').exchange = .none) w := by
  have hs : ∀ w', facts w' = F → (facts w').exchange = .none := by
    intro _ hF
    rw [hF]
    exact hb
  have hl : wpe (contract codec r p) t (initialLayout codec) (fun _ w' => facts w' = F)
      (fun _ w' => facts w' = F) w := by
    refine quiet_seq rfl hF fun marked w' hF _ => ?_
    cases marked with
    | false => exact wpe_attempt (wp_still rfl hF)
    | true =>
      refine wpe_seq (wpe_attempt (wp_still rfl hF)) (fun _ _ h => h) fun _ w' hF => ?_
      refine wpe_seq (wpe_attempt (wp_still rfl hF)) (fun _ _ h => h) fun identity w' hF => ?_
      refine wpe_seq (wpe_attempt (wp_still rfl hF)) (fun _ _ h => h) fun layout w' hF => ?_
      exact wpe_require (fun _ => hF) fun _ => hF
  refine wpe_seq hl (fun _ w' h => hs w' h) fun layout w' hF => ?_
  rw [wpe_surely]
  refine wp_mono (fun _ w' h => ?_) (build_spec layout hF)
  rw [h]
  exact hb

end Handling

section Coverage

structure Entered (p : Prop) (t : ℕ) (request : Request) (F : Facts) : Prop where
  held : F.holder = some t
  current : F.request = request
  between : F.exchange = .none
  spawned : F.spawned = false
  /-- A relay finds a channel that did not fail. -/
  unfailed : p → request = .relay → F.failed = false

lemma enter_spec (request : Request) :
    wp (contract codec r p) t (call codec (.enter request))
      (fun _ w' => Entered p t request (facts w')) w := by
  refine wp_command rfl fun a _ w1 w' hi hF1 _ hre h => ?_
  simp only [perform] at h
  split at h
  · rename_i hfr
    cases h
    have hu : p → request = .relay → channelFailed w1 = false := by
      intro hp hr
      have hf := hre hp (congrArg Cmd.enter hr)
      rw [← hF1] at hf
      exact hf
    refine ⟨?_, ?_, ⟨rfl, rfl, hi.idle hfr, rfl, hu⟩⟩
    · exact
        { marked := hi.marked
          failedMarked := hi.failedMarked
          known := hi.known
          agrees := hi.agrees
          idle := fun hn => by cases hn
          answers := hi.answers }
    · refine allowed_of (fun ht => ?_) ?_ (by simp) (by simp)
      · rw [← hF1] at ht
        exact ht
      · rw [← hF1]
        rfl
  · cases h

lemma leave_spec (hb : (facts w).exchange = .none) :
    wp (contract codec r p) t (call codec .leave) (fun _ _ => True) w := by
  refine wp_command rfl fun a _ w1 _ hi hF1 _ _ h => ?_
  cases h
  have hn : w1.exchange = .none := by
    rw [← hF1] at hb
    exact hb
  refine ⟨?_, ?_, trivial⟩
  · exact
      { marked := hi.marked
        failedMarked := hi.failedMarked
        known := hi.known
        agrees := hi.agrees
        idle := fun _ => hn
        answers := hi.answers }
  · refine allowed_of (fun ht => ?_) ?_ (nofun) (nofun)
    · rw [← hF1] at ht
      exact ht
    · rw [← hF1]
      rfl

variable {α : Type}

lemma exclusively_spec {request : Request}
    (h : ∀ w, Entered p t request (facts w) → wpe (contract codec r p) t x
      (fun _ w' => (facts w').exchange = .none) (fun _ w' => (facts w').exchange = .none) w) :
    wp (contract codec r p) t (exclusively codec request x) (fun _ _ => True) w := by
  unfold exclusively
  rw [wp_bind]
  refine wp_mono (fun _ w' he => ?_) (enter_spec request)
  rw [wp_bind]
  refine wp_mono (fun result _ hr => ?_) (h w' he)
  cases result with
  | ok | error => exact leave_spec hr

lemma withDispatcher_spec (hF : facts w = F) (hh : F.holder.isSome)
    (hb : F.exchange = .none)
    (h : ∀ w, facts w = F → Ready F → wpe (contract codec r p) t x (fun _ w' => Rejected w')
      (fun _ w' => Rejected w') w) :
    wpe (contract codec r p) t (withDispatcher codec x) (fun _ w' => (facts w').exchange = .none)
      (fun _ w' => (facts w').exchange = .none) w := by
  refine quiet_seq rfl hF fun present w' hF hp => ?_
  refine wpe_whenever (fun ht => ?_) fun _ => ?_
  · have hre : Ready F := ⟨hh, (show present = F.identity.isSome from hp).symm.trans ht, hb⟩
    exact wpe_seq (h w' hF hre) (fun _ _ hr => hr.between) fun _ w' hr => hr.between
  · rw [hF]
    exact hb

lemma contract_covers (codec : Codec) (r p : Prop) :
    Covers (S := dispatcherSystem codec) (contract codec r p) := by
  intro op t w _
  cases op with
  | new => exact exclusively_spec fun w' h => new_spec rfl h.between
  | handle =>
    refine exclusively_spec fun w' h => ?_
    refine withDispatcher_spec rfl (by rw [h.held]; rfl) h.between fun w'' hF hr => ?_
    exact handle_spec hF hr h.current h.spawned
  | relay frame =>
    refine exclusively_spec fun w' h => ?_
    refine withDispatcher_spec rfl (by rw [h.held]; rfl) h.between fun w'' hF hr => ?_
    exact relay_spec frame hF hr fun hp => h.unfailed hp rfl

lemma Consistent.restart (h : Consistent codec r p w) : Consistent codec r p w.restart where
  marked := (nomatch ·)
  failedMarked _ hf := nomatch hf
  known _ hc := nomatch hc
  agrees _ _ hc := nomatch hc
  idle _ := rfl
  answers := h.answers

lemma consistent_start (marker : Option Marker) :
    Consistent codec r p { DispatcherWorld.initial with marker := marker } where
  marked := (nomatch ·)
  failedMarked _ hf := nomatch hf
  known _ hc := nomatch hc
  agrees _ _ hc := nomatch hc
  idle _ := rfl
  answers _ _ ha := nomatch ha

lemma reach_sound {P : Pool (dispatcherSystem codec)} {marker : Option Marker}
    (h : Reach (contract codec r p).stepCondition
      (Pool.idle { DispatcherWorld.initial with marker := marker }) P) :
    Sound (contract codec r p) P :=
  Reach.sound h (contract_covers codec r p) (fun _ => Consistent.restart) (consistent_start marker)

end Coverage

end NelomaiClient.DispatcherRequests
