import NelomaiClient.DispatcherRequests

/-!
# What the dispatcher guarantees over its runs

Runs of the dispatcher from any marker file, with engines and a system that act
as they like. The marker goes only with an acknowledged stop, a stop that
succeeds leaves nothing active, and every reply answers its frame. The first two
need that the recovery inside `stop` spawns its engine, the third that nothing is
relayed after an exchange failed; without these a run breaks each of them.
-/

namespace NelomaiClient.DispatcherGuarantees

open EngineChannel EngineDispatcher DispatcherContract DispatcherRequests
open AwaitPool AwaitRely

def stored (marker : Option Marker) : DispatcherWorld :=
  { DispatcherWorld.initial with marker := marker }

instance (t : ℕ) (c : Cmd) (i : Input) (w : DispatcherWorld) :
    Decidable (recoverySpawns t c i w) :=
  inferInstanceAs (Decidable (c = .spawn .recovery → ∀ partWay : Bool, i.answer ≠ .failed partWay))

instance (t : ℕ) (c : Cmd) (i : Input) (w : DispatcherWorld) :
    Decidable (relaysUnfailed t c i w) :=
  inferInstanceAs (Decidable (c = .enter .relay → channelFailed w = false))

def sampleIdentity : EngineIdentity := ⟨.latest, "1", 1, "1", "digest"⟩

def sampleCodec : Codec where
  primitive body := if body = [1] then some .startWireguard else none
  engineReady body := body == [2]
  engineStopped body := body == [3]
  readyFrame := [0, 0, 0, 0]
  stopFrame := [0, 0, 0, 0]

def sampleFrame : Bytes := [0, 0, 0, 0]

abbrev sampleSystem : System := dispatcherSystem sampleCodec

def done : Input := ⟨[], .done⟩

def fails : Input := ⟨[], .failed false⟩

def slot : Input := ⟨[], .layout sampleIdentity⟩

def replies (body : Bytes) : Input := ⟨[.take, .reply body], .done⟩

def runs (t : ℕ) (op : Op) (inputs : List Input) : List (Move sampleSystem) :=
  .start op :: segment t inputs

def built : List (Move sampleSystem) := runs 0 .new [done, done, done, done, slot, done, done]

def builtFresh : List (Move sampleSystem) := runs 0 .new [done, done, slot, done, done]

def stopRequest : DispatcherRequest := .stop 1 sampleIdentity

def startRequest : DispatcherRequest := .start 1 sampleIdentity

def recovering : List Input := List.replicate 12 done ++ [slot, done, done]

def exchanges (body : Bytes) : List Input := [done, done, done, done, replies body]

/-- A stop that recovers the engine of a marker and retires it, up to the removal of the marker. -/
def retires : List Input :=
  recovering ++ done :: exchanges [2] ++ done :: exchanges [3] ++
    [done, done, ⟨[.crash], .done⟩, done]

def losesEngine : List Input := recovering ++ [done, done, done, fails, done, done, done]

/-- A stop that kills the engine of a failed channel and cannot spawn another. -/
def losesMarker : List Input :=
  List.replicate 17 done ++ [slot, done, done, fails, done, done, done]

def starts : List Input :=
  List.replicate 8 done ++ [slot] ++ List.replicate 4 done ++ exchanges [2] ++ List.replicate 6 done

def losesReply : List Input := List.replicate 8 done ++ [fails, done, done]

def relays : List Input := List.replicate 8 done

section Conditions

lemma recovering_condition (t : ℕ) (c : Cmd) (i : Input) (w : DispatcherWorld)
    (h : recoverySpawns t c i w) : (contract codec True False).cond t c i w :=
  ⟨fun _ => h, False.elim⟩

lemma relaying_condition (t : ℕ) (c : Cmd) (i : Input) (w : DispatcherWorld)
    (h : relaysUnfailed t c i w) : (contract codec False True).cond t c i w :=
  ⟨False.elim, fun _ => h⟩

lemma allowed_recovering {P P' : Pool (dispatcherSystem codec)}
    (h : Reach recoverySpawns (Pool.idle (stored marker)) P) (hm : Meets recoverySpawns P m)
    (hs : P.move m = some P') (hi : P.issued m = some (t, c, i)) :
    Allowed True False c (facts P.state) (facts P'.state) :=
  (reach_sound (h.mono recovering_condition)).issued (hm.mono recovering_condition) hs hi

lemma dispatcher_of_facts (hi : (facts w).identity = some identity) (hc : (facts w).child = false)
    (hfa : (facts w).failed = false) : w.dispatcher = some ⟨identity, none, false⟩ := by
  obtain ⟨d, hd, rfl⟩ := Option.map_eq_some_iff.mp hi
  have hn : d.child = none := by
    have hf : (w.dispatcher.bind (·.child)).isSome = false := hc
    rw [hd] at hf
    exact Option.not_isSome_iff_eq_none.mp (by rw [← Option.bind_some d (·.child), hf]; nofun)
  have ho : d.channelFailed = false := by
    have hf : w.dispatcher.any (·.channelFailed) = false := hfa
    rw [hd] at hf
    exact hf
  rw [hd, ← hn, ← ho]

lemma marker_of_facts (hm : (facts w).marker = false) : w.marker = none := by
  have hf : w.marker.isSome = false := hm
  cases hw : w.marker with
  | none => rfl
  | some =>
    rw [hw] at hf
    cases hf

end Conditions

/-- The marker goes only in a request in which an engine acknowledged its stop, or
in a start that created it and spawned no engine; and a start that succeeds ends
with a marker. This holds in every run whose recoveries spawn their engine. -/
theorem marker_goes_with_stop (codec : Codec) {marker : Option Marker}
    {P P' : Pool (dispatcherSystem codec)}
    (h : Reach recoverySpawns (Pool.idle (stored marker)) P) {m : Move (dispatcherSystem codec)}
    (hm : Meets recoverySpawns P m) (hs : P.move m = some P') :
    (P.state.marker.isSome → P'.state.marker = none →
      P.state.stopped = true ∨
        ∃ contractVersion identity,
          P.state.request = .handle (.start contractVersion identity) ∧
            P.state.created = true ∧ P.state.spawned = false) ∧
      ∀ t contractVersion identity response i,
        P.issued m = some (t, .respond (.start contractVersion identity) response, i) →
        response.ok = true → P.state.marker.isSome := by
  constructor
  · intro hb ha
    rcases Pool.move_cases hs with ⟨t, c, i, hi⟩ | hsa | hr
    · have hg : (facts P'.state).marker = false := by
        show P'.state.marker.isSome = false
        rw [ha]
        rfl
      rcases (allowed_recovering h hm hs hi).marker hb hg with hso | hst | hn
      · exact Or.inl hso
      · exact Or.inr hst
      · exact absurd trivial hn
    · rw [hsa] at ha
      rw [ha] at hb
      cases hb
    · have hk : P'.state.marker = P.state.marker := by
        rw [hr]
        rfl
      rw [← hk, ha] at hb
      cases hb
  · intro t contractVersion identity response i hi ho
    exact (allowed_recovering h hm hs hi).start contractVersion identity response rfl ho

/-- A stop that finds a marker and cannot spawn its recovery removes it. -/
theorem marker_goes_without_stop :
    ¬ ∀ (P P' : Pool sampleSystem) (m : Move sampleSystem),
      Reach (unconditioned sampleSystem) (Pool.idle (stored (some (.written sampleIdentity)))) P →
      P.move m = some P' → P.state.marker.isSome → P'.state.marker = none →
      P.state.stopped = true ∨
        ∃ contractVersion identity,
          P.state.request = .handle (.start contractVersion identity) ∧
            P.state.created = true ∧ P.state.spawned = false := by
  intro h
  have hru : lastMove (unconditioned sampleSystem)
      (Pool.idle (stored (some (.written sampleIdentity))))
      (built ++ runs 1 (.handle stopRequest) (recovering ++ [fails])) (.step 1 done)
      (fun P P' => (P.state.marker.isSome, P.state.stopped, P.state.request, P'.state.marker)) =
      some (true, false, .handle stopRequest, none) := by rfl
  obtain ⟨P, P', hre, -, hP', ho⟩ := Reach.lastMove hru
  simp only [Prod.mk.injEq] at ho
  obtain ⟨hm, hst, hr, hg⟩ := ho
  rcases h P P' _ hre hP' hm hg with hso | ⟨_, _, hs, -⟩
  · rw [hst] at hso
    cases hso
  · rw [hr] at hs
    cases hs

theorem marker_goes_with_stop_recovered :
    ∃ P P' : Pool sampleSystem,
      Reach recoverySpawns (Pool.idle (stored (some (.written sampleIdentity)))) P ∧
      P.move (.step 1 done) = some P' ∧ P.state.marker.isSome ∧ P'.state.marker = none ∧
      (P.state.stopped = true ∨
        ∃ contractVersion identity,
          P.state.request = .handle (.start contractVersion identity) ∧
            P.state.created = true ∧ P.state.spawned = false) := by
  have hru : lastMove recoverySpawns
      (Pool.idle (stored (some (.written sampleIdentity))))
      (built ++ runs 1 (.handle stopRequest) retires) (.step 1 done)
      (fun P P' => (P.state.marker.isSome, P'.state.marker)) = some (true, none) := by rfl
  obtain ⟨P, P', hr, hme, hP', ho⟩ := Reach.lastMove hru
  obtain ⟨hm, hg⟩ := Prod.mk.inj ho
  exact ⟨P, P', hr, hP', hm, hg, (marker_goes_with_stop sampleCodec hr hme hP').1 hm hg⟩

/-- A stop that is answered with success leaves its identity selected, no engine,
no failed channel and no marker; and another identity is selected only in such a
state. This holds in every run whose recoveries spawn their engine. -/
theorem stop_leaves_startable (codec : Codec) {marker : Option Marker}
    {P P' : Pool (dispatcherSystem codec)}
    (h : Reach recoverySpawns (Pool.idle (stored marker)) P) {m : Move (dispatcherSystem codec)}
    (hm : Meets recoverySpawns P m) (hs : P.move m = some P') {t : ℕ} {c : Cmd} {i : Input}
    (hi : P.issued m = some (t, c, i)) :
    (∀ contractVersion identity response,
      c = .respond (.stop contractVersion identity) response → response.ok = true →
        P.state.dispatcher = some ⟨identity, none, false⟩ ∧ P.state.marker = none) ∧
      ∀ d d', P.state.dispatcher = some d → P'.state.dispatcher = some d' →
        d'.identity ≠ d.identity → (∀ identity, c ≠ .build identity) →
        d.child = none ∧ d.channelFailed = false ∧ P.state.marker = none := by
  have ha := allowed_recovering h hm hs hi
  constructor
  · intro contractVersion identity response hc ho
    obtain ⟨hid, hch, hf, hma⟩ := ha.stop trivial contractVersion identity response hc ho
    exact ⟨dispatcher_of_facts hid hch hf, marker_of_facts hma⟩
  · intro d d' hd hd' hn hb
    have hid : (facts P.state).identity = some d.identity := by
      show P.state.dispatcher.map (·.identity) = some d.identity
      rw [hd]
      rfl
    have hid' : (facts P'.state).identity = some d'.identity := by
      show P'.state.dispatcher.map (·.identity) = some d'.identity
      rw [hd']
      rfl
    have hca : (facts P'.state).identity ≠ (facts P.state).identity := by
      rw [hid, hid']
      exact fun heq => hn (Option.some.inj heq)
    have hso : (facts P.state).identity ≠ none := by
      rw [hid]
      nofun
    rcases ha.identity hso hca with ⟨layout, hc⟩ | ⟨hch, hf, hma⟩
    · exact absurd hc (hb layout)
    · have hin := dispatcher_of_facts hid hch hf
      have he := Option.some.inj (hd.symm.trans hin)
      exact ⟨congrArg (·.child) he, congrArg (·.channelFailed) he, marker_of_facts hma⟩

/-- After a recovery that lost the marker a stop succeeds over a failed channel. -/
theorem stop_leaves_failed_channel :
    ¬ ∀ (P : Pool sampleSystem) (m : Move sampleSystem) t contractVersion identity response i,
      Reach (unconditioned sampleSystem) (Pool.idle (stored (some (.written sampleIdentity)))) P →
      (P.move m).isSome →
      P.issued m = some (t, Cmd.respond (.stop contractVersion identity) response, i) →
      response.ok = true →
      P.state.dispatcher = some ⟨identity, none, false⟩ ∧ P.state.marker = none := by
  intro h
  have hru : (moves (unconditioned sampleSystem)
      (Pool.idle (stored (some (.written sampleIdentity))))
      (built ++ runs 1 (.handle stopRequest) losesEngine ++
        runs 2 (.handle stopRequest) losesMarker ++
        runs 3 (.handle stopRequest) (List.replicate 14 done))).map
      (fun P => (P.issued (.step 3 done), (P.move (.step 3 done)).isSome, P.state.dispatcher)) =
      some (some (3, Cmd.respond stopRequest (.success sampleIdentity false), done), true,
        some ⟨sampleIdentity, none, true⟩) := by rfl
  obtain ⟨P, hr, ho⟩ := Reach.observed hru
  simp only [Prod.mk.injEq] at ho
  obtain ⟨hi, hm, hd⟩ := ho
  have hc := (h P _ _ _ _ _ _ hr hm hi rfl).1
  rw [hd] at hc
  cases hc

theorem stop_leaves_startable_recovered :
    ∃ P P' : Pool sampleSystem,
      Reach recoverySpawns (Pool.idle (stored (some (.written sampleIdentity)))) P ∧
      P.move (.step 1 done) = some P' ∧
      P.issued (.step 1 done) =
        some (1, Cmd.respond stopRequest (.success sampleIdentity false), done) ∧
      P.state.dispatcher = some ⟨sampleIdentity, none, false⟩ ∧ P.state.marker = none := by
  have hru : lastMove recoverySpawns
      (Pool.idle (stored (some (.written sampleIdentity))))
      (built ++ runs 1 (.handle stopRequest) (retires ++ List.replicate 4 done)) (.step 1 done)
      (fun P _ => P.issued (.step 1 done)) =
      some (some (1, Cmd.respond stopRequest (.success sampleIdentity false), done)) := by rfl
  obtain ⟨P, P', hr, hm, hP', hi⟩ := Reach.lastMove hru
  exact ⟨P, P', hr, hP', hi, (stop_leaves_startable sampleCodec hr hm hP' hi).1 _ _ _ rfl rfl⟩

/-- Every reply that an exchange took answers its own frame, and no frame is
written on a channel on which an exchange failed, in every run that requests no
relay while the channel has failed. -/
theorem replies_answer_frames (codec : Codec) {marker : Option Marker}
    {P P' : Pool (dispatcherSystem codec)}
    (h : Reach relaysUnfailed (Pool.idle (stored marker)) P) {m : Move (dispatcherSystem codec)}
    (hm : Meets relaysUnfailed P m) (hs : P.move m = some P') :
    (∀ a ∈ P'.state.answers, a.2 = some a.1) ∧
      ∀ t origin frame i ch, P.issued m = some (t, .write origin frame, i) →
        P.state.channel = some ch → ch.failed = false := by
  have hso := reach_sound (h.mono relaying_condition)
  have hso' := reach_sound ((h.tail hm hs).mono relaying_condition)
  refine ⟨hso'.1.answers trivial, fun t origin frame i ch hi hc => ?_⟩
  have ha := hso.issued (hm.mono relaying_condition) hs hi
  have ho : channelFailed P.state = false := ha.frame trivial origin frame rfl
  cases hf : ch.failed with
  | false => rfl
  | true =>
    have ht := hso.1.known ch hc hf
    rw [ho] at ht
    cases ht

/-- A relay after a failed one takes the reply to the earlier frame. -/
theorem relay_takes_stale_reply :
    ¬ ∀ P : Pool sampleSystem, Reach (unconditioned sampleSystem) (Pool.idle (stored none)) P →
      ∀ a ∈ P.state.answers, a.2 = some a.1 := by
  intro h
  have hru : (moves (unconditioned sampleSystem) (Pool.idle (stored none))
      (builtFresh ++ runs 1 (.handle startRequest) starts ++
        runs 2 (.relay sampleFrame) losesReply ++
        runs 3 (.relay sampleFrame) (relays ++ [replies [5]]))).map (·.state.answers) =
      some [(2, some 1), (0, some 0)] := by rfl
  obtain ⟨P, hr, ho⟩ := Reach.observed hru
  have hc := h P hr (2, some 1) (by rw [ho]; exact .head _)
  cases hc

theorem replies_answer_frames_relayed :
    ∃ P P' : Pool sampleSystem, Reach relaysUnfailed (Pool.idle (stored none)) P ∧
      P.move (.step 2 (replies [5])) = some P' ∧
      P'.state.answers = [(1, some 1), (0, some 0)] ∧
      ∀ a ∈ P'.state.answers, a.2 = some a.1 := by
  have hru : lastMove relaysUnfailed (Pool.idle (stored none))
      (builtFresh ++ runs 1 (.handle startRequest) starts ++
        runs 2 (.relay sampleFrame) relays) (.step 2 (replies [5]))
      (fun _ P' => P'.state.answers) = some [(1, some 1), (0, some 0)] := by rfl
  obtain ⟨P, P', hr, hm, hP', ha⟩ := Reach.lastMove hru
  exact ⟨P, P', hr, hP', ha, (replies_answer_frames sampleCodec hr hm hP').1⟩

/-- Whatever fails, an engine runs only while its marker is stored. -/
theorem engine_is_marked (codec : Codec) {P : Pool (dispatcherSystem codec)}
    (h : Reach (unconditioned _) (Pool.idle (stored marker)) P)
    (hc : P.state.channel.isSome) : P.state.marker.isSome := by
  have hs : Sound (contract codec False False) P :=
    reach_sound (h.mono fun _ _ _ _ _ => ⟨False.elim, False.elim⟩)
  exact hs.1.marked hc

theorem engine_is_marked_started :
    ∃ P : Pool sampleSystem, P.state.channel.isSome ∧ P.state.marker.isSome := by
  have hru : (moves (unconditioned sampleSystem) (Pool.idle (stored none))
      (builtFresh ++ runs 1 (.handle startRequest) starts)).map (·.state.channel.isSome) =
        some true := by rfl
  obtain ⟨P, hr, hc⟩ := Reach.observed hru
  exact ⟨P, hc, engine_is_marked sampleCodec hr hc⟩

end NelomaiClient.DispatcherGuarantees
