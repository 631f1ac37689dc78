import NelomaiClient.EngineDispatcher

/-!
# The contract of the dispatcher's requests

What holds between the commands of the dispatcher: an owned engine and a failed
channel have a marker, and a channel that did not fail carries at most the one
frame of the exchange in progress. Every command keeps this, and what it may do
to the marker and to the selected identity is read off the facts before it.
-/

namespace NelomaiClient.DispatcherContract

open EngineChannel EngineDispatcher
open AwaitProgram AwaitRely AwaitFallible

structure Facts where
  marker : Bool
  identity : Option EngineIdentity
  child : Bool
  failed : Bool
  exchange : Exchange
  holder : Option ℕ
  request : Request
  /-- An engine answered `engine_stopped` in this request. -/
  stopped : Bool
  created : Bool
  spawned : Bool

def channelFailed (w : DispatcherWorld) : Bool := w.dispatcher.any (·.channelFailed)

def facts (w : DispatcherWorld) : Facts where
  marker := w.marker.isSome
  identity := w.dispatcher.map (·.identity)
  child := w.channel.isSome
  failed := channelFailed w
  exchange := w.exchange
  holder := w.holder
  request := w.request
  stopped := w.stopped
  created := w.created
  spawned := w.spawned

def Agrees (codec : Codec) (ch : Channel) : Exchange → Prop
  | .none => Clean ch
  | .underWay tag _ => Answering codec tag ch
  | .owing tag _ => ch.input = [] ∧ ch.output = [] ∧ ch.work = .awaiting (some tag)
  | .broken => True

/-- The invariant of the dispatcher. With `p` every answer belongs to its frame;
with `r` a failed channel has a marker. -/
structure Consistent (codec : Codec) (r p : Prop) (w : DispatcherWorld) : Prop where
  marked : w.channel.isSome → w.marker.isSome
  failedMarked : r → channelFailed w = true → w.marker.isSome
  /-- The dispatcher knows when its channel failed. -/
  known : ∀ ch, w.channel = some ch → ch.failed = true → channelFailed w = true
  /-- A channel that did not fail agrees with the exchange in progress. -/
  agrees : channelFailed w = false → ∀ ch, w.channel = some ch → Agrees codec ch w.exchange
  /-- No exchange is in progress between requests. -/
  idle : w.holder = none → w.exchange = .none
  answers : p → ∀ a ∈ w.answers, a.2 = some a.1

structure Allowed (r p : Prop) (c : Cmd) (F F' : Facts) : Prop where
  /-- The marker goes with an acknowledged stop, or with a start that made it. -/
  marker : F.marker = true → F'.marker = false →
    F.stopped = true ∨ (∃ contract identity, F.request = .handle (.start contract identity) ∧
      F.created = true ∧ F.spawned = false) ∨ ¬ r
  /-- Frames are written on channels that did not fail. -/
  frame : p → ∀ origin frame, c = .write origin frame → F.failed = false
  /-- The identity changes only while nothing is active. -/
  identity : F.identity ≠ none → F'.identity ≠ F.identity →
    (∃ layout, c = .build layout) ∨ F.child = false ∧ F.failed = false ∧ F.marker = false
  stop : r → ∀ contract identity response, c = .respond (.stop contract identity) response →
    response.ok = true →
    F.identity = some identity ∧ F.child = false ∧ F.failed = false ∧ F.marker = false
  start : ∀ contract identity response, c = .respond (.start contract identity) response →
    response.ok = true → F.marker = true

def recoverySpawns (_ : ℕ) (c : Cmd) (i : Input) (_ : DispatcherWorld) : Prop :=
  c = .spawn .recovery → ∀ partWay, i.answer ≠ .failed partWay

def relaysUnfailed (_ : ℕ) (c : Cmd) (_ : Input) (w : DispatcherWorld) : Prop :=
  c = .enter .relay → channelFailed w = false

/-- The contract of the dispatcher, with the conditions that are assumed. -/
def contract (codec : Codec) (r p : Prop) : Contract (dispatching codec) where
  inv := Consistent codec r p
  cond t c i w := (r → recoverySpawns t c i w) ∧ (p → relaysUnfailed t c i w)
  guar _ c _ w w' := Allowed r p c (facts w) (facts w')
  rely _ _ _ := True
  rely_refl _ _ := trivial
  rely_trans _ _ _ _ _ _ := trivial
  guar_rely _ _ _ _ _ _ _ _ _ _ _ := trivial

variable {codec : Codec} {r : Prop} {w : DispatcherWorld}

lemma channel_onChannel (f : Channel → Channel) : (w.onChannel f).channel = w.channel.map f := by
  unfold DispatcherWorld.channel DispatcherWorld.onChannel
  cases w.dispatcher <;> rfl

lemma channelFailed_onChannel (f : Channel → Channel) :
    channelFailed (w.onChannel f) = channelFailed w := by
  unfold channelFailed DispatcherWorld.onChannel
  cases w.dispatcher <;> rfl

lemma facts_onChannel (f : Channel → Channel) : facts (w.onChannel f) = facts w := by
  have hi : (w.onChannel f).dispatcher.map (·.identity) =
      w.dispatcher.map (·.identity) := by
    unfold DispatcherWorld.onChannel
    cases w.dispatcher <;> rfl
  unfold facts
  rw [hi, channel_onChannel, channelFailed_onChannel, Option.isSome_map]
  rfl

lemma Agrees.acts {exchange : Exchange} (h : Agrees codec ch exchange) (as : List EngineAct) :
    Agrees codec (ch.acts codec as) exchange := by
  cases exchange with
  | none => exact Clean.acts h as
  | underWay => exact Answering.acts h as
  | broken => trivial
  | owing =>
    unfold Channel.acts
    induction as generalizing ch with
    | nil => exact h
    | cons a as ih =>
      refine ih ?_
      obtain ⟨hi, ho, hw⟩ := h
      unfold Channel.act
      split
      · cases a with
        | take =>
          unfold Channel.take
          rw [hw, hi]
          exact ⟨hi, ho, hw⟩
        | primitive | reply =>
          rw [hw]
          exact ⟨hi, ho, hw⟩
        | crash => exact ⟨hi, ho, hw⟩
      · exact ⟨hi, ho, hw⟩

lemma Consistent.onChannel (h : Consistent codec r p w)
    (hf : ∀ ch, Agrees codec ch w.exchange → Agrees codec (f ch) w.exchange)
    (hfa : ∀ ch, (f ch).failed = ch.failed) : Consistent codec r p (w.onChannel f) where
  marked := by
    rw [channel_onChannel, Option.isSome_map]
    exact h.marked
  failedMarked hr := by
    rw [channelFailed_onChannel]
    exact h.failedMarked hr
  known ch hc hfi := by
    rw [channel_onChannel, Option.map_eq_some_iff] at hc
    obtain ⟨ch0, hc0, rfl⟩ := hc
    rw [channelFailed_onChannel]
    exact h.known ch0 hc0 (by rw [← hfa]; exact hfi)
  agrees ho ch hc := by
    rw [channel_onChannel, Option.map_eq_some_iff] at hc
    obtain ⟨ch0, hc0, rfl⟩ := hc
    rw [channelFailed_onChannel] at ho
    exact hf ch0 (h.agrees ho ch0 hc0)
  idle := h.idle
  answers := h.answers

lemma Consistent.acts (h : Consistent codec r p w) (as : List EngineAct) :
    Consistent codec r p (w.onChannel (·.acts codec as)) :=
  h.onChannel (fun _ ha => ha.acts as) fun ch => ch.acts_failed codec as

section Commands

variable {F : Facts}

lemma wp_command {Q : c.Resp → DispatcherWorld → Prop} (hF : facts w = F)
    (h : ∀ a answer w1 w', Consistent codec r p w1 → facts w1 = F →
      (r → c = .spawn .recovery → ∀ partWay, a ≠ .failed partWay) →
      (p → c = .enter .relay → F.failed = false) →
      perform codec c t a w1 = some (answer, w') →
      Consistent codec r p w' ∧ Allowed r p c F (facts w') ∧ Q answer w') :
    wp (contract codec r p) t (call codec c) Q w := by
  intro i answer w' hi hco hs
  have hac : facts (w.onChannel (·.acts codec i.acts)) = F := (facts_onChannel _).trans hF
  have hr : p → c = .enter .relay → F.failed = false := by
    intro hp hc
    rw [← hF]
    exact hco.2 hp hc
  obtain ⟨hi', ha, hQ⟩ := h i.answer answer _ w' (hi.acts i.acts) hac hco.1 hr hs
  refine ⟨hi', ?_, hQ⟩
  show Allowed r p c (facts w) (facts w')
  rw [hF]
  exact ha

def quiet : Cmd → Bool
  | .present | .identity | .hasChild | .channelFailed | .stdinOpen | .closeStdin | .mutationGuard
  | .ownerLease | .prepare | .cleanupPrevious | .markerTrusted | .loadSlot _ | .markerExists
  | .readMarker | .tryWait | .kill | .wait | .deadlinePassed | .primitive _ => true
  | _ => false

def tells : (c : Cmd) → Facts → c.Resp → Prop
  | .present, F, answer => answer = F.identity.isSome
  | .identity, F, answer => F.identity = some answer
  | .hasChild, F, answer => answer = F.child
  | .channelFailed, F, answer => answer = F.failed
  | .markerExists, F, answer => answer = F.marker
  | _, _, _ => True

lemma allowed_of (hm : F.marker = true → F'.marker = true) (hi : F'.identity = F.identity)
    (hw : ∀ origin frame, c ≠ .write origin frame)
    (hr : ∀ request response, c ≠ .respond request response) :
    Allowed r p c F F' where
  marker h h' := by
    rw [hm h] at h'
    cases h'
  frame _ origin frame hc := absurd hc (hw origin frame)
  identity _ h := absurd hi h
  stop _ _ _ _ hc := absurd hc (hr _ _)
  start _ _ _ hc := absurd hc (hr _ _)

lemma Allowed.same {c : Cmd} (hw : ∀ origin frame, c ≠ .write origin frame)
    (hr : ∀ request response, c ≠ .respond request response) : Allowed r p c F F :=
  allowed_of id rfl hw hr

lemma Agrees.unread {exchange : Exchange} (h : Agrees codec ch exchange)
    (hi : ch'.input = ch.input) (ho : ch'.output = ch.output) (hw : ch'.work = ch.work) :
    Agrees codec ch' exchange := by
  cases exchange with
  | none | owing => exact ⟨hi.trans h.1, ho.trans h.2.1, hw.trans h.2.2⟩
  | broken => trivial
  | underWay =>
    cases h with
    | sent frame h1 h2 h3 => exact .sent frame (hi.trans h1) (ho.trans h2) (hw.trans h3)
    | served h1 h2 h3 => exact .served (hi.trans h1) (ho.trans h2) (hw.trans h3)
    | asked body hb h1 h2 h3 =>
      exact .asked body hb (hi.trans h1) (ho.trans h2) (hw.trans h3)
    | heard h1 h2 h3 => exact .heard (hi.trans h1) (ho.trans h2) (hw.trans h3)
    | told ok h1 h2 h3 => exact .told ok (hi.trans h1) (ho.trans h2) (hw.trans h3)
    | replied body hb h1 h2 h3 =>
      exact .replied body hb (hi.trans h1) (ho.trans h2) (hw.trans h3)

/-- Quiet commands leave the world, or what the dispatcher does not know of its engine. -/
lemma perform_quiet (hq : quiet c = true) (h : perform codec c t a w = some (answer, w')) :
    (w' = w ∨ ∃ f : Channel → Channel, w' = w.onChannel f ∧ ∀ ch, (f ch).input = ch.input ∧
      (f ch).output = ch.output ∧ (f ch).work = ch.work ∧ (f ch).failed =
      ch.failed) ∧ tells c (facts w) answer := by
  cases c with
  | present =>
    cases h
    exact ⟨Or.inl rfl, by simp only [tells, facts, Option.isSome_map]⟩
  | hasChild | channelFailed | markerExists =>
    cases h
    exact ⟨Or.inl rfl, rfl⟩
  | stdinOpen =>
    cases h
    exact ⟨Or.inl rfl, trivial⟩
  | identity =>
    simp only [perform, Option.map_eq_some_iff] at h
    obtain ⟨d, hd, h⟩ := h
    cases h
    exact ⟨Or.inl rfl, by simp only [tells, facts, hd, Option.map_some]⟩
  | closeStdin =>
    cases h
    exact ⟨Or.inr ⟨_, rfl, fun _ => ⟨rfl, rfl, rfl, rfl⟩⟩, trivial⟩
  | mutationGuard | ownerLease | prepare | markerTrusted =>
    simp only [perform, Option.map_eq_some_iff] at h
    obtain ⟨_, -, h⟩ := h
    cases h
    exact ⟨Or.inl rfl, trivial⟩
  | cleanupPrevious =>
    simp only [perform] at h
    split at h
    · cases h
      exact ⟨Or.inl rfl, trivial⟩
    · simp only [Option.map_eq_some_iff] at h
      obtain ⟨_, -, h⟩ := h
      cases h
      exact ⟨Or.inl rfl, trivial⟩
  | loadSlot =>
    simp only [perform] at h
    split at h <;> cases h <;> exact ⟨Or.inl rfl, trivial⟩
  | readMarker =>
    simp only [perform, DispatcherWorld.readMarker] at h
    split at h
    · split at h <;> cases h <;> exact ⟨Or.inl rfl, trivial⟩
    · cases h
      exact ⟨Or.inl rfl, trivial⟩
    · cases h
  | tryWait =>
    simp only [perform] at h
    split at h
    · simp only [Option.map_eq_some_iff] at h
      obtain ⟨_, -, h⟩ := h
      cases h
      exact ⟨Or.inl rfl, trivial⟩
    · cases h
      exact ⟨Or.inl rfl, trivial⟩
    · cases h
  | kill =>
    simp only [perform] at h
    split at h
    · cases h
      exact ⟨Or.inr ⟨_, rfl, fun _ => ⟨rfl, rfl, rfl, rfl⟩⟩, trivial⟩
    · cases h
      exact ⟨Or.inl rfl, trivial⟩
    · cases h
  | wait =>
    simp only [perform] at h
    split at h
    · split at h
      · cases h
      · cases h
        exact ⟨Or.inl rfl, trivial⟩
    · cases h
      exact ⟨Or.inl rfl, trivial⟩
    · cases h
  | deadlinePassed | primitive =>
    simp only [perform] at h
    split at h
    · cases h
      exact ⟨Or.inl rfl, trivial⟩
    · cases h
  | _ => cases hq

lemma quiet_keeps (hq : quiet c = true) (hi : Consistent codec r p w)
    (h : perform codec c t a w = some (answer, w')) :
    Consistent codec r p w' ∧ facts w' = facts w := by
  rcases (perform_quiet hq h).1 with rfl | ⟨f, rfl, hf⟩
  · exact ⟨hi, rfl⟩
  · refine ⟨hi.onChannel (fun ch ha => ?_) fun ch => (hf ch).2.2.2, facts_onChannel f⟩
    exact ha.unread (hf ch).1 (hf ch).2.1 (hf ch).2.2.1

structure Marked (r : Prop) (F : Facts) : Prop where
  child : F.child = true → F.marker = true
  failed : r → F.failed = true → F.marker = true

lemma Consistent.facts (h : Consistent codec r p w) : Marked r (facts w) :=
  ⟨h.marked, h.failedMarked⟩

lemma wp_quiet_marked (hq : quiet c = true) (hF : facts w = F) :
    wp (contract codec r p) t (call codec c)
      (fun answer w' => facts w' = F ∧ tells c F answer ∧ Marked r F) w := by
  refine wp_command hF fun a answer _ w' hi hF1 _ _ h => ?_
  obtain ⟨hi', hf⟩ := quiet_keeps hq hi h
  have ht := (perform_quiet hq h).2
  have hm := hi.facts
  rw [hF1] at hf ht hm
  refine ⟨hi', ?_, hf, ht, hm⟩
  rw [hf]
  refine Allowed.same ?_ ?_
  · rintro _ _ rfl
    cases hq
  · rintro _ _ rfl
    cases hq

lemma wp_quiet (hq : quiet c = true) (hF : facts w = F) :
    wp (contract codec r p) t (call codec c) (fun answer w' => facts w' = F ∧ tells c F answer) w :=
  wp_mono (fun _ _ h => ⟨h.1, h.2.1⟩) (wp_quiet_marked hq hF)

lemma wpe_quiet (hq : quiet c = true) (hF : facts w = F) :
    wpe (contract codec r p) t (surely (call codec c) : Dispatch codec c.Resp)
      (fun answer w' => facts w' = F ∧ tells c F answer) E w :=
  (wpe_surely _ _ _ _ _ _).mpr (wp_quiet hq hF)

lemma quiet_seq {α : Type} {f : c.Resp → Dispatch codec α} {Q : α → DispatcherWorld → Prop}
    (hq : quiet c = true) (hF : facts w = F)
    (hf : ∀ a w', facts w' = F → tells c F a → wpe (contract codec r p) t (f a) Q E w') :
    wpe (contract codec r p) t (surely (call codec c) >>= f) Q E w :=
  wpe_seq (wpe_quiet hq hF) (fun _ _ h => h) fun a w' h => hf a w' h.1 h.2

lemma wpe_quiet_marked (hq : quiet c = true) (hF : facts w = F) :
    wpe (contract codec r p) t (surely (call codec c) : Dispatch codec c.Resp)
      (fun answer w' => facts w' = F ∧ tells c F answer ∧ Marked r F) E w :=
  (wpe_surely _ _ _ _ _ _).mpr (wp_quiet_marked hq hF)

lemma wpe_attempt (h : wp (contract codec r p) t x (fun _ w' => facts w' = F) w) :
    wpe (contract codec r p) t (attempt x) (fun _ w' => facts w' = F) (fun _ w' => facts w' = F)
      w := by
  refine wp_mono ?_ h
  intro answer _ hw'
  cases answer with
  | ok a | error e => exact hw'

lemma wp_still (hq : quiet c = true) (hF : facts w = F) :
    wp (contract codec r p) t (call codec c) (fun _ w' => facts w' = F) w :=
  wp_mono (fun _ _ h => h.1) (wp_quiet hq hF)

end Commands

section Effects

lemma channel_onDispatcher :
    (w.onDispatcher f).channel = w.dispatcher.bind fun d => (f d).child := by
  unfold DispatcherWorld.channel DispatcherWorld.onDispatcher
  cases w.dispatcher <;> rfl

lemma facts_present (h : (facts w).identity.isSome) : ∃ d, w.dispatcher = some d := by
  unfold facts at h
  rw [Option.isSome_map] at h
  exact Option.isSome_iff_exists.mp h

/-- A command that does not reach the channel keeps the invariant with the marker. -/
lemma Consistent.aside (h : Consistent codec r p w) (hc : w'.channel = w.channel)
    (hf : channelFailed w' = channelFailed w) (hm : w.marker.isSome → w'.marker.isSome)
    (he : w'.exchange = w.exchange) (hh : w'.holder = w.holder)
    (ha : w'.answers = w.answers) : Consistent codec r p w' where
  marked := by rw [hc]; exact hm ∘ h.marked
  failedMarked := by rw [hf]; exact fun hr => hm ∘ h.failedMarked hr
  known := by rw [hc, hf]; exact h.known
  agrees := by rw [hc, hf, he]; exact h.agrees
  idle := by rw [hh, he]; exact h.idle
  answers := by rw [ha]; exact h.answers

lemma dropChild_spec (hF : facts w = F) :
    wp (contract codec r p) t (call codec .dropChild)
      (fun _ w' => facts w' = { F with child := false }) w := by
  refine wp_command hF fun a _ w1 w' hin hF1 _ _ h => ?_
  cases h
  have hn : (w1.onDispatcher fun d => { d with child := none }).channel = none := by
    rw [channel_onDispatcher]
    cases w1.dispatcher <;> rfl
  have hf : channelFailed (w1.onDispatcher fun d => { d with child := none }) =
      channelFailed w1 := by
    unfold channelFailed DispatcherWorld.onDispatcher
    cases w1.dispatcher <;> rfl
  have hi : (w1.onDispatcher fun d => { d with child := none }).dispatcher.map (·.identity) =
      w1.dispatcher.map (·.identity) := by
    unfold DispatcherWorld.onDispatcher
    cases w1.dispatcher <;> rfl
  have hfa : facts (w1.onDispatcher fun d => { d with child := none }) =
      { F with child := false } := by
    rw [← hF1]
    unfold facts
    rw [hn, hf, hi]
    rfl
  refine ⟨?_, ?_, hfa⟩
  · exact
      { marked := by rw [hn]; exact (nomatch ·)
        failedMarked := fun hr => by rw [hf]; exact hin.failedMarked hr
        known := by rw [hn]; exact fun _ hc => nomatch hc
        agrees := by rw [hn]; exact fun _ _ hc => nomatch hc
        idle := hin.idle
        answers := hin.answers }
  · rw [hfa]
    exact allowed_of id rfl (nofun) (nofun)

lemma failChannel_spec (hF : facts w = F) (hi : F.identity.isSome) (hma : F.marker = true) :
    wp (contract codec r p) t (call codec .failChannel)
      (fun _ w' => facts w' = { F with failed := true, exchange := .none }) w := by
  refine wp_command hF fun a _ w1 w' hin hF1 _ _ h => ?_
  cases h
  subst hF1
  obtain ⟨d, hd⟩ := facts_present hi
  have hf : facts
      { w1.onDispatcher (fun d => { d with
          channelFailed := true, child := d.child.map fun ch => { ch with failed := true } }) with
        exchange := .none } = { facts w1 with failed := true, exchange := .none } := by
    unfold facts channelFailed DispatcherWorld.channel DispatcherWorld.onDispatcher
    simp only [hd, Option.map_some, Option.bind_some, Option.isSome_map, Option.any_some]
  have hm : w1.marker.isSome := hma
  refine ⟨?_, ?_, hf⟩
  · exact
      { marked := fun _ => hm
        failedMarked := fun _ _ => hm
        known := fun _ _ _ => congrArg Facts.failed hf
        agrees := fun ho => by
          have ht := congrArg Facts.failed hf
          exact absurd (ht.symm.trans ho) (nomatch ·)
        idle := fun _ => rfl
        answers := hin.answers }
  · rw [hf]
    exact allowed_of id rfl (nofun) (nofun)

lemma spawn_spec (origin : SpawnOrigin) (hF : facts w = F) (hi : F.identity.isSome)
    (hma : F.marker = true) (he : F.exchange = .none) :
    wpe (contract codec r p) t (attempt (call codec (.spawn origin)))
      (fun _ w' => facts w' = { F with child := true, failed := false, spawned := true })
      (fun _ w' => facts w' = F ∧ (r → origin ≠ .recovery)) w := by
  refine wp_command hF fun a _ w1 w' hin hF1 hs _ h => ?_
  subst hF1
  simp only [perform, DispatcherWorld.spawn] at h
  split at h
  · cases h
    obtain ⟨d, hd⟩ := facts_present hi
    have hf : facts
        { w1.onDispatcher (fun d => { d with child := some .fresh, channelFailed := false }) with
          spawned := true } =
        { facts w1 with child := true, failed := false, spawned := true } := by
      unfold facts channelFailed DispatcherWorld.channel DispatcherWorld.onDispatcher
      simp only [hd, Option.map_some, Option.bind_some, Option.isSome_some, Option.any_some]
    have hc : DispatcherWorld.channel
        { w1.onDispatcher (fun d => { d with child := some .fresh, channelFailed := false }) with
          spawned := true } = some .fresh := by
      unfold DispatcherWorld.channel DispatcherWorld.onDispatcher
      rw [hd]
      rfl
    have hn : w1.exchange = .none := he
    have hm : w1.marker.isSome := hma
    refine ⟨?_, ?_, hf⟩
    · refine
        { marked := fun _ => hm
          failedMarked := fun _ _ => hm
          known := ?_
          agrees := ?_
          idle := hin.idle
          answers := hin.answers }
      · intro _ hch hfa
        rw [hc] at hch
        cases hch
        cases hfa
      · intro _ _ hch
        rw [hc] at hch
        cases hch
        show Agrees codec .fresh w1.exchange
        rw [hn]
        exact ⟨rfl, rfl, rfl⟩
    · rw [hf]
      exact allowed_of id rfl (nofun) (nofun)
  · rename_i partWay
    cases h
    refine ⟨hin, Allowed.same (nofun) (nofun), rfl, fun hr ho => ?_⟩
    subst ho
    exact absurd rfl (hs hr rfl partWay)
  · cases h

lemma createMarker_spec (identity : EngineIdentity) (hF : facts w = F) :
    wpe (contract codec r p) t (attempt (call codec (.createMarker identity)))
      (fun _ w' => facts w' = { F with marker := true, created := true })
      (fun _ w' => ∃ marker created, facts w' = { F with marker := marker, created := created }) w := by
  refine wp_command hF fun a _ w1 w' hi hF1 _ _ h => ?_
  subst hF1
  have hk : ∀ marker : Marker, Consistent codec r p
      { w1 with marker := some marker, created := true } := fun marker =>
    hi.aside rfl rfl (fun _ => rfl) rfl rfl rfl
  simp only [perform, DispatcherWorld.createMarker] at h
  split at h
  · split at h
    · cases h
      exact ⟨hi, Allowed.same (nofun) (nofun), _, _, rfl⟩
    · cases h
      exact ⟨hk _, allowed_of (fun _ => rfl) rfl (nofun) (nofun), rfl⟩
  · cases h
    split
    · exact ⟨hk _, allowed_of (fun _ => rfl) rfl (nofun) (nofun), _, _, rfl⟩
    · exact ⟨hi, Allowed.same (nofun) (nofun), _, _, rfl⟩
  · cases h

lemma removeMarker_spec (hF : facts w = F) (hch : F.child = false)
    (hf : r → F.failed = false)
    (hg : F.stopped = true ∨ (∃ contract identity,
      F.request = .handle (.start contract identity) ∧ F.created = true ∧ F.spawned = false) ∨ ¬ r) :
    wpe (contract codec r p) t (attempt (call codec .removeMarker))
      (fun _ w' => facts w' = { F with marker := false }) (fun _ w' => facts w' = F) w := by
  refine wp_command hF fun a _ w1 w' hi hF1 _ _ h => ?_
  subst hF1
  simp only [perform, DispatcherWorld.removeMarker] at h
  split at h
  · split at h
    · cases h
      refine ⟨?_, ?_, rfl⟩
      · exact
          { marked := fun hs => by
              have hn : w1.channel.isSome = false := hch
              exact absurd (hs.symm.trans hn) (nomatch ·)
            failedMarked := fun hr ht => by
              have hfa : channelFailed w1 = false := hf hr
              exact absurd (ht.symm.trans hfa) (nomatch ·)
            known := hi.known
            agrees := hi.agrees
            idle := hi.idle
            answers := hi.answers }
      · exact
          { marker := fun _ _ => hg
            frame := fun _ _ _ hc => nomatch hc
            identity := fun _ hne => absurd rfl hne
            stop := fun _ _ _ _ hc => nomatch hc
            start := fun _ _ _ hc => nomatch hc }
    · cases h
      exact ⟨hi, Allowed.same (nofun) (nofun), rfl⟩
  · cases h
    exact ⟨hi, Allowed.same (nofun) (nofun), rfl⟩
  · cases h

lemma select_spec (identity : EngineIdentity) (hF : facts w = F) (hp : F.identity.isSome)
    (hci : F.child = false) (hfa : F.failed = false) (hm : F.marker = false) :
    wp (contract codec r p) t (call codec (.select identity))
      (fun _ w' => facts w' = { F with identity := some identity }) w := by
  refine wp_command hF fun a _ w1 w' hi hF1 _ _ h => ?_
  cases h
  subst hF1
  obtain ⟨d, hd⟩ := facts_present hp
  have hch : (w1.onDispatcher fun d => { d with identity := identity }).channel =
      w1.channel := by
    unfold DispatcherWorld.channel DispatcherWorld.onDispatcher
    rw [hd]
    rfl
  have hs : channelFailed (w1.onDispatcher fun d => { d with identity := identity }) =
      channelFailed w1 := by
    unfold channelFailed DispatcherWorld.onDispatcher
    rw [hd]
    rfl
  have hf : facts (w1.onDispatcher fun d => { d with identity := identity }) =
      { facts w1 with identity := some identity } := by
    unfold facts
    rw [hch, hs]
    simp only [DispatcherWorld.onDispatcher, hd, Option.map_some]
  refine ⟨hi.aside hch hs id rfl rfl rfl, ?_, hf⟩
  rw [hf]
  exact
    { marker := fun ht hfl => absurd (ht.symm.trans hfl) (nomatch ·)
      frame := fun _ _ _ hc => nomatch hc
      identity := fun _ _ => Or.inr ⟨hci, hfa, hm⟩
      stop := fun _ _ _ _ hc => nomatch hc
      start := fun _ _ _ hc => nomatch hc }

lemma build_spec (identity : EngineIdentity) (hF : facts w = F) :
    wp (contract codec r p) t (call codec (.build identity))
      (fun _ w' => facts w' = { F with identity := some identity, child := false, failed := false })
      w := by
  refine wp_command hF fun a _ _ w' hi hF1 _ _ h => ?_
  cases h
  subst hF1
  refine ⟨?_, ?_, rfl⟩
  · exact
      { marked := (nomatch ·)
        failedMarked := fun _ hfa => nomatch hfa
        known := fun _ hch => nomatch hch
        agrees := fun _ _ hch => nomatch hch
        idle := hi.idle
        answers := hi.answers }
  · exact
      { marker := fun ht hf => absurd (ht.symm.trans hf) (nomatch ·)
        frame := fun _ _ _ hc => nomatch hc
        identity := fun _ _ => Or.inl ⟨identity, rfl⟩
        stop := fun _ _ _ _ hc => nomatch hc
        start := fun _ _ _ hc => nomatch hc }

end Effects

section Pipes

variable {F : Facts}

lemma facts_breaks (f : Channel → Channel) :
    facts (w.breaks f) = { facts w with exchange := .broken } := by
  have h := facts_onChannel (w := w) f
  rw [← h]
  rfl

lemma tear_failed (partWay : Bool) (ch : Channel) : (ch.tear partWay).failed = ch.failed := by
  unfold Channel.tear
  split <;> rfl

lemma garble_failed (partWay : Bool) (ch : Channel) : (ch.garble partWay).failed = ch.failed := by
  unfold Channel.garble
  split <;> rfl

lemma Consistent.goesOn (h : Consistent codec r p w) (hh : w.holder.isSome)
    (f : Channel → Channel) (exchange : Exchange) (nextTag : ℕ)
    (hfa : ∀ ch, (f ch).failed = ch.failed)
    (ha : ∀ ch, channelFailed w = false → w.channel = some ch → Agrees codec (f ch) exchange) :
    Consistent codec r p { w.onChannel f with exchange := exchange, nextTag := nextTag } where
  marked := by
    have hca : (w.onChannel f).channel = w.channel.map f := channel_onChannel f
    show (w.onChannel f).channel.isSome → _
    rw [hca, Option.isSome_map]
    exact h.marked
  failedMarked hr hf := h.failedMarked hr ((channelFailed_onChannel f).symm.trans hf)
  known ch hc hf := by
    have hc : (w.onChannel f).channel = some ch := hc
    rw [channel_onChannel, Option.map_eq_some_iff] at hc
    obtain ⟨ch0, hc0, rfl⟩ := hc
    exact (channelFailed_onChannel f).trans (h.known ch0 hc0 ((hfa ch0).symm.trans hf))
  agrees ho ch hc := by
    have hc : (w.onChannel f).channel = some ch := hc
    rw [channel_onChannel, Option.map_eq_some_iff] at hc
    obtain ⟨ch0, hc0, rfl⟩ := hc
    exact ha ch0 ((channelFailed_onChannel f).symm.trans ho) hc0
  idle hn := by
    have hs : w.holder = none := hn
    rw [hs] at hh
    cases hh
  answers := h.answers

lemma Consistent.breaks (h : Consistent codec r p w) (hh : w.holder.isSome)
    (hf : ∀ ch, (f ch).failed = ch.failed) : Consistent codec r p (w.breaks f) :=
  h.goesOn hh f .broken w.nextTag hf fun _ _ _ => trivial

lemma write_spec (origin : FrameOrigin) (frame : Bytes) (hF : facts w = F)
    (hh : F.holder.isSome) (he : F.exchange = .none)
    (ho : p → F.failed = false) :
    wpe (contract codec r p) t (attempt (call codec (.write origin frame)))
      (fun _ w' => ∃ tag, facts w' = { F with exchange := .underWay tag origin })
      (fun _ w' => facts w' = { F with exchange := .broken }) w := by
  refine wp_command hF fun a _ w1 w' hin hF1 _ _ h => ?_
  subst hF1
  have ha : ∀ F' : Facts, F'.marker = (facts w1).marker →
      F'.identity = (facts w1).identity → Allowed r p (.write origin frame) (facts w1) F' :=
    fun F' hm hi =>
      { marker := fun ht hfa => absurd ((hm.trans ht).symm.trans hfa) (nomatch ·)
        frame := fun hp _ _ _ => ho hp
        identity := fun _ hne => absurd hi hne
        stop := fun _ _ _ _ hc => nomatch hc
        start := fun _ _ _ hc => nomatch hc }
  simp only [perform, DispatcherWorld.write] at h
  split at h
  · cases h
    have hf : facts { w1.onChannel (fun ch =>
        { ch with input := ch.input ++ [.frame w1.nextTag frame] }) with
          nextTag := w1.nextTag + 1, exchange := .underWay w1.nextTag origin } =
        { facts w1 with exchange := .underWay w1.nextTag origin } := by
      rw [← facts_onChannel (w := w1)
        fun ch => { ch with input := ch.input ++ [.frame w1.nextTag frame] }]
      rfl
    refine ⟨hin.goesOn hh _ _ _ (fun _ => rfl) ?_, ?_, w1.nextTag, hf⟩
    · intro ch hok hch
      have hn : w1.exchange = .none := he
      have hcl := hin.agrees hok ch hch
      rw [hn] at hcl
      exact .sent frame (by rw [hcl.1]; rfl) hcl.2.1 hcl.2.2
    · rw [hf]
      exact ha _ rfl rfl
  · cases h
    have hf := facts_breaks (w := w1) (·.tear ‹Bool›)
    refine ⟨hin.breaks hh (tear_failed _), ?_, hf⟩
    rw [hf]
    exact ha _ rfl rfl
  · cases h

lemma writePrimitiveOk_spec (ok : Bool) (hF : facts w = F) (hhe : F.holder.isSome)
    (he : F.exchange = .owing tag origin) :
    wpe (contract codec r p) t (attempt (call codec (.writePrimitiveOk ok)))
      (fun _ w' => facts w' = { F with exchange := .underWay tag origin })
      (fun _ w' => facts w' = { F with exchange := .broken }) w := by
  refine wp_command hF fun a _ w1 w' hi hF1 _ _ h => ?_
  subst hF1
  have ho : w1.exchange = .owing tag origin := he
  simp only [perform, DispatcherWorld.writePrimitiveOk, ho] at h
  split at h
  · cases h
    have hf : facts { w1.onChannel (fun ch =>
        { ch with input := ch.input ++ [.primitiveOk ok] }) with
          exchange := .underWay tag origin } =
        { facts w1 with exchange := .underWay tag origin } := by
      rw [← facts_onChannel (w := w1) fun ch => { ch with input := ch.input ++ [.primitiveOk ok] }]
      rfl
    refine ⟨hi.goesOn hhe _ _ _ (fun _ => rfl) ?_, ?_, hf⟩
    · intro ch hok hc
      have hh := hi.agrees hok ch hc
      rw [ho] at hh
      exact .told ok (by rw [hh.1]; rfl) hh.2.1 hh.2.2
    · rw [hf]
      exact allowed_of id rfl (nofun) (nofun)
  · cases h
    have hf := facts_breaks (w := w1) (·.tear ‹Bool›)
    refine ⟨hi.breaks hhe (tear_failed _), ?_, hf⟩
    rw [hf]
    exact allowed_of id rfl (nofun) (nofun)
  · cases h

def afterRead (codec : Codec) (F : Facts) (tag : ℕ) (origin : FrameOrigin) (body : Bytes)
    (F' : Facts) : Prop :=
  if (codec.primitive body).isSome then F' = { F with exchange := .owing tag origin }
  else ∃ stopped, F' = { F with exchange := .none, stopped := stopped } ∧
    (origin = .stop → codec.engineStopped body = true → F.failed = false → stopped = true)

lemma noteRequest_spec (rest : List OutItem) (hi : Consistent codec r p w)
    (hhe : w.holder.isSome) (he : w.exchange = .underWay tag origin)
    (hc : w.channel = some ch)
    (hh : channelFailed w = false → ch.input = [] ∧ rest = [] ∧ ch.work = .awaiting (some tag)) :
    Consistent codec r p (w.onChannel fun ch => { ch with output := rest }).noteRequest ∧ facts
      (w.onChannel fun ch => { ch with output := rest }).noteRequest =
      { facts w with exchange := .owing tag origin } := by
  have hn : (w.onChannel fun ch => { ch with output := rest }).noteRequest =
      { w.onChannel (fun ch => { ch with output := rest }) with
        exchange := .owing tag origin, nextTag := w.nextTag } := by
    unfold DispatcherWorld.noteRequest
    simp only [DispatcherWorld.onChannel, he]
  rw [hn]
  constructor
  · refine hi.goesOn hhe _ _ _ (fun _ => rfl) fun ch' ho hc' => ?_
    cases hc.symm.trans hc'
    exact hh ho
  · rw [← facts_onChannel (w := w) fun ch => { ch with output := rest }]
    rfl

lemma noteReply_spec (body : Bytes) (rest : List OutItem) (hi : Consistent codec r p w)
    (hhe : w.holder.isSome) (he : w.exchange = .underWay tag origin)
    (hpa : p → channelFailed w = false) (hc : w.channel = some ch)
    (hh : channelFailed w = false → number = some tag ∧ ch.input = [] ∧ rest = [] ∧
      ch.work = .idle) :
    Consistent codec r p
        ((w.onChannel fun ch => { ch with output := rest }).noteReply codec number body) ∧
      ∃ stopped,
        facts ((w.onChannel fun ch => { ch with output := rest }).noteReply codec number body) =
          { facts w with exchange := .none, stopped := stopped } ∧
        (origin = .stop → codec.engineStopped body = true → channelFailed w = false →
          stopped = true) := by
  have hn : (w.onChannel fun ch => { ch with output := rest }).noteReply codec number body =
      { w.onChannel (fun ch => { ch with output := rest }) with
        exchange := .none
        nextTag := w.nextTag
        answers := (tag, number) :: w.answers
        stopped := w.stopped ||
          (origin == .stop && number == some tag && codec.engineStopped body) } := by
    unfold DispatcherWorld.noteReply
    simp only [DispatcherWorld.onChannel, he]
  have hg : Consistent codec r p
      { w.onChannel (fun ch => { ch with output := rest }) with
        exchange := .none, nextTag := w.nextTag } := by
    refine hi.goesOn hhe _ _ _ (fun _ => rfl) fun ch' hok hc' => ?_
    cases hc.symm.trans hc'
    exact (hh hok).2
  rw [hn]
  refine ⟨?_, w.stopped || (origin == .stop && number == some tag && codec.engineStopped body),
    ?_, ?_⟩
  · refine
      { marked := hg.marked
        failedMarked := hg.failedMarked
        known := hg.known
        agrees := hg.agrees
        idle := hg.idle
        answers := ?_ }
    intro hp a ha
    rcases List.mem_cons.mp ha with rfl | ha
    · exact (hh (hpa hp)).1
    · exact hi.answers hp a ha
  · rw [← facts_onChannel (w := w) fun ch => { ch with output := rest }]
    rfl
  · intro ho hs hok
    rw [ho, (hh hok).1, hs]
    simp

lemma receive_spec (hi : Consistent codec r p w) (hhe : w.holder.isSome)
    (he : w.exchange = .underWay tag origin) (hp : p → channelFailed w = false)
    (hc : w.channel = some ch)
    (hh : channelFailed w = false →
      (codec.primitive body).isSome ∧ ch.input = [] ∧ rest = [] ∧ ch.work = .awaiting (some tag) ∨
      codec.primitive body = none ∧ number = some tag ∧ ch.input = [] ∧ rest = [] ∧
        ch.work = .idle) :
    Consistent codec r p (w.receive codec number body rest).2 ∧
      ((w.receive codec number body rest).1 = .ok body ∧
          afterRead codec (facts w) tag origin body (facts (w.receive codec number body rest).2) ∨
        (w.receive codec number body rest).1 = .error .blocked ∧
          facts (w.receive codec number body rest).2 = { facts w with exchange := .broken }) := by
  unfold DispatcherWorld.receive
  split
  · exact ⟨hi.breaks hhe fun _ => rfl, Or.inr ⟨rfl, facts_breaks _⟩⟩
  · dsimp only
    unfold afterRead
    split
    · rename_i hb
      have hr := noteRequest_spec rest hi hhe he hc fun ho => by
        rcases hh ho with ⟨-, hh⟩ | ⟨hn, -⟩
        · exact hh
        · rw [hn] at hb
          cases hb
      exact ⟨hr.1, Or.inl ⟨rfl, hr.2⟩⟩
    · rename_i hb
      have hre := noteReply_spec body rest hi hhe he hp hc
        fun ho => by
          rcases hh ho with ⟨hs, -⟩ | ⟨-, hh⟩
          · exact absurd hs hb
          · exact hh
      exact ⟨hre.1, Or.inl ⟨rfl, hre.2⟩⟩

lemma read_head (h : Agrees codec ch (.underWay tag origin)) (ho : ch.output = item :: rest) :
    (∃ body, item = .request body ∧ (codec.primitive body).isSome ∧ ch.input = [] ∧ rest = [] ∧
      ch.work = .awaiting (some tag)) ∨
    ∃ body, item = .reply (some tag) body ∧ codec.primitive body = none ∧ ch.input = [] ∧
      rest = [] ∧ ch.work = .idle := by
  cases h with
  | asked body hb hi hh hw =>
    cases ho.symm.trans hh
    exact Or.inl ⟨body, rfl, hb, hi, rfl, hw⟩
  | replied body hb hi hh hw =>
    cases ho.symm.trans hh
    exact Or.inr ⟨body, rfl, hb, hi, rfl, hw⟩
  | sent _ _ he _ | served _ he _ | heard _ he _ | told _ _ he _ =>
    cases ho.symm.trans he

def Taken (codec : Codec) (F : Facts) (tag : ℕ) (origin : FrameOrigin) :
    Except IoError Bytes → Facts → Prop
  | .ok body, F' => afterRead codec F tag origin body F'
  | .error _, F' => F' = { F with exchange := .broken }

lemma read_spec (hF : facts w = F) (hhe : F.holder.isSome)
    (he : F.exchange = .underWay tag origin) (hp : p → F.failed = false) :
    wpe (contract codec r p) t (attempt (call codec .read))
      (fun body w' => afterRead codec F tag origin body (facts w'))
      (fun _ w' => facts w' = { F with exchange := .broken }) w := by
  refine wp_command hF fun a answer w1 w' hin hF1 _ _ h => ?_
  subst hF1
  have hal : ∀ F' : Facts, F'.marker = (facts w1).marker →
      F'.identity = (facts w1).identity → Allowed r p .read (facts w1) F' :=
    fun F' hm hi =>
      allowed_of (fun htr => hm.trans htr) hi (by simp) (by simp)
  have hb : ∀ f : Channel → Channel, (∀ ch, (f ch).failed = ch.failed) →
      Consistent codec r p (w1.breaks f) ∧ Allowed r p .read (facts w1) (facts (w1.breaks f)) ∧
        facts (w1.breaks f) = { facts w1 with exchange := .broken } := by
    intro f hf
    refine ⟨hin.breaks hhe hf, ?_, facts_breaks f⟩
    rw [facts_breaks]
    exact hal _ rfl rfl
  simp only [perform, Option.bind_eq_some_iff] at h
  obtain ⟨ch, hc, h⟩ := h
  have hr : ∀ number body rest,
      (channelFailed w1 = false →
        (codec.primitive body).isSome ∧ ch.input = [] ∧ rest = [] ∧
            ch.work = .awaiting (some tag) ∨
          codec.primitive body = none ∧ number = some tag ∧ ch.input = [] ∧ rest = [] ∧
            ch.work = .idle) →
      w1.receive codec number body rest = (answer, w') →
      Consistent codec r p w' ∧ Allowed r p .read (facts w1) (facts w') ∧
        Taken codec (facts w1) tag origin answer (facts w') := by
    intro _ _ _ hh heq
    have hs := receive_spec hin hhe he hp hc hh
    rw [heq] at hs
    obtain ⟨hin', ⟨rfl, ha⟩ | ⟨rfl, ha⟩⟩ := hs
    · refine ⟨hin', ?_, ha⟩
      unfold afterRead at ha
      split at ha
      · rw [ha]
        exact hal _ rfl rfl
      · obtain ⟨_, ha, -⟩ := ha
        rw [ha]
        exact hal _ rfl rfl
    · refine ⟨hin', ?_, ha⟩
      rw [ha]
      exact hal _ rfl rfl
  have hag : channelFailed w1 = false → Agrees codec ch (.underWay tag origin) := by
    intro hok
    have hag := hin.agrees hok ch hc
    rw [show w1.exchange = .underWay tag origin from he] at hag
    exact hag
  suffices ht : Consistent codec r p w' ∧ Allowed r p .read (facts w1) (facts w') ∧
      Taken codec (facts w1) tag origin answer (facts w') by
    cases answer with
    | ok | error => exact ht
  unfold DispatcherWorld.read at h
  cases a with
  | failed =>
    cases h
    exact hb _ (garble_failed _)
  | done =>
    dsimp only at h
    split at h
    · split at h
      · cases h
      · cases h
        exact hb _ fun _ => rfl
    · rename_i body rest ho
      refine hr none body rest (fun hok => ?_) (Option.some.inj h)
      rcases read_head (hag hok) ho with ⟨_, heq, hh⟩ | ⟨_, heq, -⟩
      · cases heq
        exact Or.inl hh
      · cases heq
    · rename_i number body rest ho
      refine hr number body rest (fun hok => ?_) (Option.some.inj h)
      rcases read_head (hag hok) ho with ⟨_, heq, -⟩ | ⟨_, heq, hbo, hh⟩
      · cases heq
      · cases heq
        exact Or.inr ⟨hbo, rfl, hh⟩
    · cases h
  | bytes body =>
    dsimp only at h
    split at h
    · rename_i rest ho
      refine hr none body rest (fun hok => ?_) (Option.some.inj h)
      rcases read_head (hag hok) ho with ⟨_, heq, -⟩ | ⟨_, heq, -⟩
      · cases heq
      · cases heq
    · cases h
  | layout | flag => cases h

end Pipes

section Exchange

variable {F : Facts}

/-- A failed exchange leaves at most the exchange in progress to be given up. -/
def Failing (F : Facts) (w : DispatcherWorld) : Prop :=
  ∃ exchange, facts w = { F with exchange := exchange }

def Replied (codec : Codec) (F : Facts) (origin : FrameOrigin) (body : Bytes)
    (w : DispatcherWorld) : Prop :=
  ∃ stopped, facts w = { F with stopped := stopped } ∧
    (origin = .stop → codec.engineStopped body = true → F.failed = false → stopped = true)

lemma exchangeRound_spec (hh : F.holder.isSome) (hn : F.exchange = .none)
    (hp : p → F.failed = false) (rounds : Nat)
    (hF : facts w = { F with exchange := .underWay tag origin }) :
    wpe (contract codec r p) t (exchangeRound codec rounds)
      (fun x w' => match x with
        | .inl _ => ∃ tag, facts w' = { F with exchange := .underWay tag origin }
        | .inr body => Replied codec F origin body w')
      (fun _ w' => Failing F w') w := by
  cases rounds with
  | zero => exact ⟨_, hF⟩
  | succ =>
    unfold exchangeRound
    refine wpe_seq (read_spec hF hh rfl hp) (fun _ w' h => ⟨_, h⟩) fun body w' hr => ?_
    unfold afterRead at hr
    cases hb : codec.primitive body with
    | some =>
      simp only [hb, Option.isSome_some, if_true] at hr
      refine wpe_seq (wpe_quiet rfl hr) (fun _ _ h => h) fun ok w' ⟨hF', _⟩ => ?_
      refine wpe_seq (writePrimitiveOk_spec ok hF' hh rfl) (fun _ w' h => ⟨_, h⟩) fun _ w' h => ?_
      exact ⟨tag, h⟩
    | none =>
      simp only [hb, Option.isSome_none, Bool.false_eq_true, if_false] at hr
      obtain ⟨stopped, hf, hs⟩ := hr
      refine ⟨stopped, ?_, hs⟩
      rw [hf, ← hn]

lemma exchangeInner_spec (origin : FrameOrigin) (frame : Bytes) (hF : facts w = F)
    (hh : F.holder.isSome) (hn : F.exchange = .none)
    (ho : p → F.failed = false) :
    wpe (contract codec r p) t (exchangeInner codec origin frame)
      (fun body w' => Replied codec F origin body w') (fun _ w' => Failing F w') w := by
  have hs : ∀ w', facts w' = F → Failing F w' := fun w' h => ⟨F.exchange, h⟩
  refine wpe_seq (wpe_quiet rfl hF) (fun _ _ h => h) fun child w' ⟨hF', _⟩ => ?_
  refine wpe_require (fun _ => hs _ hF') fun _ => ?_
  refine wpe_seq (wpe_quiet rfl hF') (fun _ _ h => h) fun stdin w' ⟨hF', _⟩ => ?_
  refine wpe_require (fun _ => hs _ hF') fun _ => ?_
  refine wpe_seq (write_spec origin frame hF' hh hn ho) (fun _ w' h => ⟨_, h⟩)
    fun _ w' ⟨tag, hF''⟩ => ?_
  refine wpe_loop (fun _ w => ∃ tag, facts w = { F with exchange := .underWay tag origin })
    ⟨tag, hF''⟩ fun rounds w hw => ?_
  obtain ⟨_, hw⟩ := hw
  refine wpe_mono ?_ (fun _ _ h => h) (exchangeRound_spec hh hn ho rounds hw)
  intro x _ hx
  cases x with
  | inl | inr => exact hx

lemma exchange_spec (origin : FrameOrigin) (frame : Bytes) (hF : facts w = F)
    (hh : F.holder.isSome) (hn : F.exchange = .none)
    (ho : p → F.failed = false) (hi : F.identity.isSome)
    (hm : F.marker = true) :
    wpe (contract codec r p) t (exchange codec origin frame)
      (fun body w' => Replied codec F origin body w')
      (fun _ w' => facts w' = { F with failed := true }) w := by
  unfold exchange
  rw [wpe_bind, wpe_outcome]
  refine wpe_mono (fun body w' h => h) (fun e w' hf => ?_)
    (exchangeInner_spec origin frame hF hh hn ho)
  obtain ⟨_, hF'⟩ := hf
  unfold exchanged
  rw [wpe_bind, wpe_surely]
  refine wp_mono (fun _ w' h => ?_) (failChannel_spec hF' hi hm)
  show facts w' = { F with failed := true }
  rw [h, ← hn]

end Exchange

end NelomaiClient.DispatcherContract
