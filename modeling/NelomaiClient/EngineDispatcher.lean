import NelomaiClient.AwaitFallible
import NelomaiClient.EngineChannel
import NelomaiClient.RuntimeRecord

/-!
# The privileged dispatcher

`ProcessDispatcher` owns at most one engine process, the channel to it and a
marker file that says that an engine may be active. One request is handled at a
time. Files, processes and pipes answer as the surroundings choose, the engine
acts before every command, and the dispatcher may die at any command. Beside
that, the world records what the request in progress has seen.
-/

namespace NelomaiClient.EngineDispatcher

open RuntimeRecord EngineChannel AwaitProgram AwaitPool AwaitFallible

structure EngineIdentity where
  slot : RuntimeSlot
  runtimeVersion : String
  runtimeContractVersion : Nat
  containerVersion : String
  manifestSha256 : String
  deriving DecidableEq

inductive DispatcherRequest where
  | start (contractVersion : Nat) (identity : EngineIdentity)
  | stop (contractVersion : Nat) (identity : EngineIdentity)
  | cleanup (contractVersion : Nat) (identity : EngineIdentity)
  | status (contractVersion : Nat)
  | version (contractVersion : Nat)
  deriving DecidableEq

namespace DispatcherRequest

def isMutation : DispatcherRequest → Bool
  | start _ _ | stop _ _ | cleanup _ _ => true
  | status _ | version _ => false

def identity : DispatcherRequest → Option EngineIdentity
  | start _ identity | stop _ identity | cleanup _ identity => some identity
  | status _ | version _ => none

def contract : DispatcherRequest → Nat
  | start contractVersion _ | stop contractVersion _ | cleanup contractVersion _
  | status contractVersion | version contractVersion => contractVersion

end DispatcherRequest

structure DispatcherResponse where
  contractVersion : Nat
  ok : Bool
  identity : Option EngineIdentity
  running : Bool
  error : Option String
  deriving DecidableEq

def DispatcherResponse.success (identity : EngineIdentity) (running : Bool) : DispatcherResponse :=
  ⟨1, true, some identity, running, none⟩

def DispatcherResponse.failure : DispatcherResponse :=
  ⟨1, false, none, false, some "dispatcher_rejected"⟩

inductive IoError where
  | blocked
  | system

/-- Content of the marker file; a write that failed part-way leaves a damaged one. -/
inductive Marker where
  | written (identity : EngineIdentity)
  | damaged

structure ProcessDispatcher where
  identity : EngineIdentity
  child : Option Channel
  channelFailed : Bool

inductive FrameOrigin where
  | ready
  | stop
  | relay
  deriving DecidableEq

inductive SpawnOrigin where
  | start
  | recovery
  deriving DecidableEq

/-- The exchange in progress: none, one that waits for the engine, one that owes
the engine the outcome of a primitive, or one that lost its pipe. -/
inductive Exchange where
  | none
  | underWay (tag : ℕ) (origin : FrameOrigin)
  | owing (tag : ℕ) (origin : FrameOrigin)
  | broken

inductive Request where
  | none
  | new
  | handle (request : DispatcherRequest)
  | relay
  deriving DecidableEq

structure DispatcherWorld where
  marker : Option Marker
  dispatcher : Option ProcessDispatcher
  holder : Option ℕ
  request : Request
  exchange : Exchange
  nextTag : ℕ
  /-- Frame of each finished exchange with the frame that its reply answers. -/
  answers : List (ℕ × Option ℕ)
  /-- An engine answered `engine_stopped` in this request. -/
  stopped : Bool
  created : Bool
  spawned : Bool

def DispatcherWorld.initial : DispatcherWorld :=
  ⟨none, none, none, .none, .none, 0, [], false, false, false⟩

def DispatcherWorld.restart (w : DispatcherWorld) : DispatcherWorld :=
  { DispatcherWorld.initial with marker := w.marker, nextTag := w.nextTag, answers := w.answers }

inductive Cmd where
  | enter (request : Request)
  | leave
  | respond (request : DispatcherRequest) (response : DispatcherResponse)
  | present
  | identity
  | hasChild
  | channelFailed
  | stdinOpen
  | build (identity : EngineIdentity)
  | select (identity : EngineIdentity)
  | failChannel
  | dropChild
  | closeStdin
  | mutationGuard
  | ownerLease
  | prepare
  | cleanupPrevious
  | markerTrusted
  | loadSlot (slot : RuntimeSlot)
  | markerExists
  | createMarker (identity : EngineIdentity)
  | readMarker
  | removeMarker
  | spawn (origin : SpawnOrigin)
  | tryWait
  | kill
  | wait
  | deadlinePassed
  | write (origin : FrameOrigin) (frame : Bytes)
  | writePrimitiveOk (ok : Bool)
  | read
  | primitive (primitive : EnginePrimitive)
  deriving DecidableEq

@[reducible]
def Cmd.Resp : Cmd → Type
  | enter _ | leave | respond _ _ | build _ | select _ | failChannel | dropChild | closeStdin => Unit
  | present | hasChild | channelFailed | stdinOpen | markerExists | deadlinePassed
  | primitive _ => Bool
  | identity => EngineIdentity
  | mutationGuard | ownerLease | prepare | cleanupPrevious | markerTrusted | createMarker _
  | removeMarker | spawn _ | kill | wait | write _ _ | writePrimitiveOk _ => Except IoError Unit
  | loadSlot _ | readMarker => Except IoError EngineIdentity
  | tryWait => Except IoError Bool
  | read => Except IoError Bytes

/-- What the surroundings answer to one command. A failure may come part-way. -/
inductive Answer where
  | done
  | failed (partWay : Bool)
  | layout (identity : EngineIdentity)
  | flag (value : Bool)
  | bytes (body : Bytes)
  deriving DecidableEq

structure Input where
  acts : List EngineAct
  answer : Answer

section Meaning

variable (codec : Codec)
variable (w : DispatcherWorld)

def DispatcherWorld.onChannel (f : Channel → Channel) : DispatcherWorld :=
  { w with
    dispatcher := w.dispatcher.map fun d => { d with child := d.child.map f } }

def DispatcherWorld.onDispatcher
    (f : ProcessDispatcher → ProcessDispatcher) : DispatcherWorld :=
  { w with dispatcher := w.dispatcher.map f }

def DispatcherWorld.channel : Option Channel := w.dispatcher.bind (·.child)

def Answer.verdict : Answer → Option (Except IoError Unit)
  | done => some (.ok ())
  | failed _ => some (.error .system)
  | _ => none

def DispatcherWorld.breaks (f : Channel → Channel) : DispatcherWorld :=
  { w.onChannel f with exchange := .broken }

def DispatcherWorld.write (origin : FrameOrigin) (frame : Bytes) :
    Answer → Option (Except IoError Unit × DispatcherWorld)
  | .done =>
    some (.ok (),
      { w.onChannel fun ch => { ch with input := ch.input ++ [.frame w.nextTag frame] } with
        nextTag := w.nextTag + 1, exchange := .underWay w.nextTag origin })
  | .failed partWay => some (.error .system, w.breaks (·.tear partWay))
  | _ => none

def DispatcherWorld.writePrimitiveOk (ok : Bool) :
    Answer → Option (Except IoError Unit × DispatcherWorld)
  | .done =>
    some (.ok (),
      { w.onChannel fun ch => { ch with input := ch.input ++ [.primitiveOk ok] } with
        exchange := match w.exchange with
          | .owing tag origin => .underWay tag origin
          | exchange => exchange })
  | .failed partWay => some (.error .system, w.breaks (·.tear partWay))
  | _ => none

def DispatcherWorld.noteReply (tag : Option ℕ) (body : Bytes) :
    DispatcherWorld :=
  match w.exchange with
  | .underWay current origin =>
    { w with
      exchange := .none, answers := (current, tag) :: w.answers
      stopped := w.stopped || (origin == .stop && tag == some current && codec.engineStopped body) }
  | _ => w

def DispatcherWorld.noteRequest : DispatcherWorld :=
  { w with
    exchange := match w.exchange with
      | .underWay tag origin => .owing tag origin
      | exchange => exchange }

def DispatcherWorld.receive (tag : Option ℕ) (body : Bytes)
    (rest : List OutItem) : Except IoError Bytes × DispatcherWorld :=
  if body.length > maxEngineFrame then
    (.error .blocked, w.breaks fun ch => { ch with output := .garbled :: rest })
  else
    let w := w.onChannel fun ch => { ch with output := rest }
    (.ok body, if (codec.primitive body).isSome then w.noteRequest else w.noteReply codec tag body)

/-- Read a frame: an empty pipe blocks while the engine runs, and ends with it. -/
def DispatcherWorld.read (ch : Channel) : Answer → Option (Except IoError Bytes × DispatcherWorld)
  | .failed partWay => some (.error .system, w.breaks (·.garble partWay))
  | .done =>
    match ch.output with
    | [] => if ch.alive then none else some (.error .system, w.breaks id)
    | .request body :: rest => some (w.receive codec none body rest)
    | .reply tag body :: rest => some (w.receive codec tag body rest)
    | .garbled :: _ => none
  | .bytes body =>
    match ch.output with
    | .garbled :: rest => some (w.receive codec none body rest)
    | _ => none
  | _ => none

def DispatcherWorld.spawn : Answer → Option (Except IoError Unit × DispatcherWorld)
  | .done =>
    some (.ok (),
      { w.onDispatcher fun d => { d with child := some .fresh, channelFailed := false } with
        spawned := true })
  | .failed _ => some (.error .system, w)
  | _ => none

def DispatcherWorld.createMarker (identity : EngineIdentity) :
    Answer → Option (Except IoError Unit × DispatcherWorld)
  | .done =>
    if w.marker.isSome then some (.error .system, w)
    else some (.ok (), { w with marker := some (.written identity), created := true })
  | .failed partWay =>
    some (.error .system,
      if partWay && w.marker.isNone then { w with marker := some .damaged, created := true } else w)
  | _ => none

def DispatcherWorld.removeMarker : Answer → Option (Except IoError Unit × DispatcherWorld)
  | .done => if w.marker.isSome then some (.ok (), { w with marker := none })
    else some (.error .system, w)
  | .failed _ => some (.error .system, w)
  | _ => none

def DispatcherWorld.readMarker : Answer → Option (Except IoError EngineIdentity × DispatcherWorld)
  | .done =>
    match w.marker with
    | some (.written identity) => some (.ok identity, w)
    | some .damaged => some (.error .blocked, w)
    | none => some (.error .system, w)
  | .failed _ => some (.error .system, w)
  | _ => none

def DispatcherWorld.enter (t : ℕ) (request : Request) : DispatcherWorld :=
  { w with
    holder := some t, request := request, stopped := false, created := false, spawned := false }

def perform (c : Cmd) (t : ℕ) (a : Answer) (w : DispatcherWorld) :
    Option (c.Resp × DispatcherWorld) :=
  match c with
  | .enter request => if w.holder = none then some ((), w.enter t request) else none
  | .leave => some ((), { w with holder := none, request := .none })
  | .respond _ _ => some ((), w)
  | .present => some (w.dispatcher.isSome, w)
  | .identity => w.dispatcher.map fun d => (d.identity, w)
  | .hasChild => some (w.channel.isSome, w)
  | .channelFailed => some (w.dispatcher.any (·.channelFailed), w)
  | .stdinOpen => some (w.channel.any (·.stdin), w)
  | .build identity => some ((), { w with dispatcher := some ⟨identity, none, false⟩ })
  | .select identity => some ((), w.onDispatcher fun d => { d with identity := identity })
  | .failChannel =>
    some ((),
      { w.onDispatcher fun d =>
          { d with
            channelFailed := true, child := d.child.map fun ch => { ch with failed := true } } with
        exchange := .none })
  | .dropChild => some ((), w.onDispatcher fun d => { d with child := none })
  | .closeStdin => some ((), w.onChannel fun ch => { ch with stdin := false })
  | .mutationGuard => a.verdict.map fun r => (r, w)
  | .ownerLease => a.verdict.map fun r => (r, w)
  | .prepare => a.verdict.map fun r => (r, w)
  | .cleanupPrevious =>
    if w.marker.isSome then some (.error .blocked, w) else a.verdict.map fun r => (r, w)
  | .markerTrusted => a.verdict.map fun r => (r, w)
  | .loadSlot _ =>
    match a with
    | .layout identity => some (.ok identity, w)
    | .failed _ => some (.error .system, w)
    | _ => none
  | .markerExists => some (w.marker.isSome, w)
  | .createMarker identity => w.createMarker identity a
  | .readMarker => w.readMarker a
  | .removeMarker => w.removeMarker a
  | .spawn _ => w.spawn a
  | .tryWait =>
    match a with
    | .done => w.channel.map fun ch => (.ok !ch.alive, w)
    | .failed _ => some (.error .system, w)
    | _ => none
  | .kill =>
    match a with
    | .done => some (.ok (), w.onChannel fun ch => { ch with alive := false })
    | .failed _ => some (.error .system, w)
    | _ => none
  | .wait =>
    match a with
    | .done => if w.channel.any (·.alive) then none else some (.ok (), w)
    | .failed _ => some (.error .system, w)
    | _ => none
  | .deadlinePassed =>
    match a with
    | .flag value => some (value, w)
    | _ => none
  | .write origin frame => w.write origin frame a
  | .writePrimitiveOk ok => w.writePrimitiveOk ok a
  | .read => w.channel.bind fun ch => w.read codec ch a
  | .primitive _ =>
    match a with
    | .flag value => some (value, w)
    | _ => none

def sem (c : Cmd) (t : ℕ) (i : Input) (w : DispatcherWorld) : Option (c.Resp × DispatcherWorld) :=
  perform codec c t i.answer (w.onChannel (·.acts codec i.acts))

abbrev dispatching : Machine := ⟨DispatcherWorld, Cmd, Cmd.Resp, Input, sem codec⟩

abbrev Dispatch (α : Type) : Type 1 := Fallible (dispatching codec) IoError α

end Meaning

section Programs

variable (codec : Codec)

def call (c : Cmd) : Prog (dispatching codec) c.Resp := Prog.call (M := dispatching codec) c

/-- One round of `exchange_inner`: a primitive is carried out and answered. -/
def exchangeRound : Nat → Dispatch codec (Nat ⊕ Bytes)
  | 0 => throw .blocked
  | rounds + 1 => do
    let response ← attempt (call codec .read)
    match codec.primitive response with
    | some requested => do
      let ok ← surely (call codec (.primitive requested))
      attempt (call codec (.writePrimitiveOk ok))
      pure (.inl rounds)
    | none => pure (.inr response)

def exchangeInner (origin : FrameOrigin) (frame : Bytes) : Dispatch codec Bytes := do
  let child ← surely (call codec .hasChild)
  require child .blocked
  let stdin ← surely (call codec .stdinOpen)
  require stdin .blocked
  attempt (call codec (.write origin frame))
  Fallible.loop (exchangeRound codec) 16

def exchanged : Except IoError Bytes → Dispatch codec Bytes
  | .ok response => pure response
  | .error error => do
    surely (call codec .failChannel)
    throw error

def exchange (origin : FrameOrigin) (frame : Bytes) : Dispatch codec Bytes := do
  let result ← outcome (exchangeInner codec origin frame)
  exchanged codec result

def authorize (layout identity : EngineIdentity) : Dispatch codec Unit :=
  require (identity == layout) .blocked

def spawned : Except IoError Unit → Dispatch codec Unit
  | .error error => do
    attempt (call codec .removeMarker)
    throw error
  | .ok () => do
    let response ← exchange codec .ready codec.readyFrame
    require (codec.engineReady response) .blocked

def spawn (origin : SpawnOrigin) : Dispatch codec Unit := do
  let identity ← surely (call codec .identity)
  let verified ← attempt (call codec (.loadSlot identity.slot))
  authorize codec verified identity
  let marked ← surely (call codec .markerExists)
  whenever (!marked) (attempt (call codec (.createMarker identity)))
  attempt (call codec .prepare)
  let result ← outcome (attempt (call codec (.spawn origin)))
  spawned codec result

def start : Dispatch codec Unit := do
  let failed ← surely (call codec .channelFailed)
  require (!failed) .blocked
  let child ← surely (call codec .hasChild)
  if child then do
    let exited ← attempt (call codec .tryWait)
    require (!exited) .blocked
  else do
    let marked ← surely (call codec .markerExists)
    require (!marked) .blocked
    spawn codec .start

def killChild : Dispatch codec Unit := do
  let child ← surely (call codec .hasChild)
  if child then do
    let exited ← attempt (call codec .tryWait)
    whenever (!exited) (attempt (call codec .kill))
    attempt (call codec .wait)
  else pure ()

def reapFailed : Dispatch codec Unit := do
  let failed ← surely (call codec .channelFailed)
  whenever failed do
    killChild codec
    surely (call codec .dropChild)

def reapExited : Dispatch codec Unit := do
  let child ← surely (call codec .hasChild)
  whenever child do
    let exited ← attempt (call codec .tryWait)
    whenever exited (surely (call codec .dropChild))

def recoverCrashed : Dispatch codec Unit := do
  let child ← surely (call codec .hasChild)
  let marked ← surely (call codec .markerExists)
  whenever (!child && marked) do
    attempt (call codec .ownerLease)
    let found ← attempt (call codec .readMarker)
    let identity ← surely (call codec .identity)
    authorize codec identity found
    spawn codec .recovery

def exitRound (_ : Unit) : Dispatch codec (Unit ⊕ Unit) := do
  let exited ← attempt (call codec .tryWait)
  if exited then pure (.inr ())
  else do
    let passed ← surely (call codec .deadlinePassed)
    if passed then do
      attempt (call codec .kill)
      attempt (call codec .wait)
      pure (.inr ())
    else pure (.inl ())

def retire : Dispatch codec Unit := do
  surely (call codec .closeStdin)
  Fallible.loop (exitRound codec) ()
  surely (call codec .dropChild)
  attempt (call codec .removeMarker)

def stopEngine : Dispatch codec Unit := do
  let response ← exchange codec .stop codec.stopFrame
  require (codec.engineStopped response) .blocked
  retire codec

def stop : Dispatch codec Unit := do
  reapFailed codec
  reapExited codec
  recoverCrashed codec
  let child ← surely (call codec .hasChild)
  whenever child (stopEngine codec)

def selectIdentity : Option EngineIdentity → Dispatch codec Unit
  | none => pure ()
  | some identity => do
    let current ← surely (call codec .identity)
    whenever (identity != current) do
      let child ← surely (call codec .hasChild)
      let failed ← surely (call codec .channelFailed)
      let marked ← surely (call codec .markerExists)
      require (!(child || failed || marked)) .blocked
      let selected ← attempt (call codec (.loadSlot identity.slot))
      authorize codec selected identity
      surely (call codec (.select selected))

def carryOut : DispatcherRequest → Dispatch codec Unit
  | .start _ _ => start codec
  | .stop _ _ => stop codec
  | .cleanup _ _ => do
    stop codec
    attempt (call codec .cleanupPrevious)
  | .status _ | .version _ => pure ()

def handleInner (request : DispatcherRequest) : Dispatch codec Unit := do
  require (request.contract == 1) .blocked
  whenever request.isMutation do
    attempt (call codec .mutationGuard)
    selectIdentity codec request.identity
    carryOut codec request

def running : Dispatch codec Bool := do
  let failed ← surely (call codec .channelFailed)
  let child ← surely (call codec .hasChild)
  if !failed && child then do
    let exited ← surely (call codec .tryWait)
    match exited with
    | .ok exited => pure !exited
    | .error _ => pure false
  else pure false

def response : Except IoError Unit → Dispatch codec DispatcherResponse
  | .ok () => do
    let running ← running codec
    let identity ← surely (call codec .identity)
    return .success identity running
  | .error _ => return .failure

def handle (request : DispatcherRequest) : Dispatch codec DispatcherResponse := do
  let result ← outcome (handleInner codec request)
  let response ← response codec result
  surely (call codec (.respond request response))
  return response

def relay (frame : Bytes) : Dispatch codec Bytes := do
  require (frameBody frame maxEngineFrame).isSome .blocked
  attempt (call codec .mutationGuard)
  let child ← surely (call codec .hasChild)
  require child .blocked
  exchange codec .relay frame

/-- The layout of a new dispatcher: the one of the marker, if there is one. -/
def initialLayout : Dispatch codec EngineIdentity := do
  let marked ← surely (call codec .markerExists)
  if marked then do
    attempt (call codec .markerTrusted)
    let identity ← attempt (call codec .readMarker)
    let layout ← attempt (call codec (.loadSlot identity.slot))
    authorize codec layout identity
    pure layout
  else attempt (call codec (.loadSlot .latest))

def new : Dispatch codec Unit := do
  let layout ← initialLayout codec
  surely (call codec (.build layout))

inductive Op where
  | new
  | handle (request : DispatcherRequest)
  | relay (frame : Bytes)

def exclusively {α : Type} (request : Request) (x : Dispatch codec α) :
    Prog (dispatching codec) Unit := do
  call codec (.enter request)
  let _ ← x.run
  call codec .leave

def withDispatcher {α : Type} (x : Dispatch codec α) : Dispatch codec Unit := do
  let present ← surely (call codec .present)
  whenever present do
    let _ ← x
    pure ()

def Op.program : Op → Prog (dispatching codec) Unit
  | new => exclusively codec .new (EngineDispatcher.new codec)
  | handle request =>
    exclusively codec (.handle request) (withDispatcher codec (EngineDispatcher.handle codec request))
  | relay frame =>
    exclusively codec .relay (withDispatcher codec (EngineDispatcher.relay codec frame))

abbrev dispatcherSystem : System :=
  ⟨dispatching codec, Op, Op.program codec, DispatcherWorld.restart⟩

end Programs

end NelomaiClient.EngineDispatcher
