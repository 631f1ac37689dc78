import NelomaiClient.EngineChannel

/-!
# The engine's side of its channel

`run_engine_channel` reads frames until the stream ends, hands each request to
the handler and writes the response. A frame is the little-endian length of its
body and the body. The reader ends or fails at any byte, and the writer fails at
any response; what JSON makes of a body is a parameter. The handler is generic
in its backend and remembers here, in order, every request that it was given.
-/

namespace NelomaiClient.EngineService

open EngineChannel

def protocolVersion : ℕ := 5

def maxFrameSize : ℕ := 1024 * 1024

inductive ServiceError where
  | frameTooLarge
  | truncatedFrame
  | invalidRequest
  | unauthorizedClient
  | unsupportedProtocol
  | invalidConfiguration
  | backend (code : String)

/-- The error of a step of a cleanup, which goes on after it. -/
def failure? : Except ServiceError Unit → Option ServiceError
  | .ok () => none
  | .error error => some error

def stableRouteErrorCodes : List String :=
  ["route_plan_too_large", "route_conflict", "route_state_too_large", "route_state_invalid",
    "route_state_read_failed", "route_state_write_failed", "route_state_serialize_failed",
    "route_state_activate_failed", "route_state_remove_failed", "route_add_failed",
    "interface_up_failed", "route_del_failed", "route_delete_failed", "route_command_failed",
    "route_command_unavailable", "route_table_unavailable", "ip_command_unavailable",
    "physical_egress_unavailable", "local_networks_unavailable", "endpoint_route_unavailable",
    "endpoint_route_lost", "amneziawg_uapi_unavailable", "amneziawg_configuration_failed",
    "amneziawg_profile_mismatch", "amneziawg_interface_already_exists",
    "amneziawg_go_start_failed", "amneziawg_go_start_timeout", "untrusted_amneziawg_go",
    "wireguard_go_start_failed", "wireguard_go_start_timeout", "untrusted_wireguard_go",
    "untrusted_runtime_directory", "network_configuration_failed", "invalid_interface_name",
    "tunnel_not_running", "userspace_log_unavailable", "multiple_tunnel_interfaces_detected",
    "udp_rebind_failed", "udp_rebind_unsupported"]

def stableRouteErrorCode (code : String) : Option String :=
  if stableRouteErrorCodes.contains code then some code else none

def ServiceError.code : ServiceError → String
  | .frameTooLarge => "frame_too_large"
  | .truncatedFrame => "truncated_frame"
  | .invalidRequest => "invalid_request"
  | .unauthorizedClient => "unauthorized_client"
  | .unsupportedProtocol => "unsupported_protocol"
  | .invalidConfiguration => "invalid_configuration"
  | .backend code => (stableRouteErrorCode code).getD "service_unavailable"

inductive ServiceTunnelState where
  | stopped
  | starting
  | running
  | stopping
  | failed
  deriving DecidableEq

structure DesktopTunnelOptions where
  excludedIpv4Cidrs : List String := []
  /-- Whether local networks bypass the tunnel. -/
  excludeLocalNetworks : Bool := false
  policyHash : Option String := none
  deriving DecidableEq

structure Response (Metrics : Type) where
  protocolVersion : ℕ
  ok : Bool
  state : Option ServiceTunnelState := none
  serviceVersion : Option String := none
  physicalNetworkFingerprint : Option String := none
  metrics : Option Metrics := none
  diagnostics : Option String := none
  errorCode : Option String := none

def Response.success {Metrics : Type} (state : Option ServiceTunnelState) : Response Metrics :=
  { protocolVersion := EngineService.protocolVersion, ok := true, state := state }

def Response.failure {Metrics : Type} (errorCode : String) : Response Metrics :=
  { protocolVersion := EngineService.protocolVersion, ok := false, errorCode := some errorCode }

inductive Request where
  | start (protocolVersion : ℕ) (configuration : String) (options : DesktopTunnelOptions)
  | stop (protocolVersion : ℕ)
  | status (protocolVersion : ℕ)
  | version (protocolVersion : ℕ)
  | physicalNetworkFingerprint (protocolVersion : ℕ)
  | metrics (protocolVersion : ℕ) (probe : Bool)
  | diagnostics (protocolVersion : ℕ)
  | rebindUdp (protocolVersion : ℕ)
  deriving DecidableEq

namespace Request

def protocolVersion : Request → ℕ
  | .start v _ _ | .stop v | .status v | .version v | .physicalNetworkFingerprint v
  | .metrics v _ | .diagnostics v | .rebindUdp v => v

def ownStop : Request := .stop EngineService.protocolVersion

def isStart : Request → Bool
  | .start _ _ _ => true
  | _ => false

def isStop : Request → Bool
  | .stop _ => true
  | _ => false

end Request

section Handler

/-- `ServiceTunnelBackend` with its state made explicit; what the operating
system contributes is part of the state. -/
structure ServiceTunnelBackend (σ Config Metrics : Type) where
  start : Config → DesktopTunnelOptions → σ → Except ServiceError ServiceTunnelState × σ
  stop : σ → Except ServiceError ServiceTunnelState × σ
  status : σ → Except ServiceError ServiceTunnelState × σ
  physicalNetworkFingerprint : σ → Except ServiceError String × σ
  metrics : Bool → σ → Except ServiceError Metrics × σ
  diagnostics : σ → Except ServiceError String × σ
  rebindUdp : σ → Except ServiceError ServiceTunnelState × σ

structure StartRules (Config : Type) where
  /-- `DesktopTunnelOptions::validate` succeeds. -/
  validOptions : DesktopTunnelOptions → Bool
  parseConfiguration : String → Option Config

variable {σ Config Metrics : Type}

def respond {α : Type} (success : α → Response Metrics) :
    Except ServiceError α × σ → Response Metrics × σ
  | (.ok a, s) => (success a, s)
  | (.error e, s) => (.failure e.code, s)

structure TunnelRequestHandler (σ Config Metrics : Type) where
  backend : ServiceTunnelBackend σ Config Metrics
  rules : StartRules Config
  serviceVersion : String

def TunnelRequestHandler.start (handler : TunnelRequestHandler σ Config Metrics)
    (configuration : String) (options : DesktopTunnelOptions) (s : σ) : Response Metrics × σ :=
  if handler.rules.validOptions options then
    match handler.rules.parseConfiguration configuration with
    | some config => respond (fun state => .success (some state)) (handler.backend.start config options s)
    | none => (.failure ServiceError.invalidConfiguration.code, s)
  else (.failure ServiceError.invalidRequest.code, s)

def TunnelRequestHandler.handle (handler : TunnelRequestHandler σ Config Metrics)
    (request : Request) (s : σ) : Response Metrics × σ :=
  if request.protocolVersion ≠ protocolVersion then (.failure ServiceError.unsupportedProtocol.code, s)
  else
    match request with
    | .start _ configuration options => handler.start configuration options s
    | .stop _ => respond (fun state => .success (some state)) (handler.backend.stop s)
    | .status _ => respond (fun state => .success (some state)) (handler.backend.status s)
    | .version _ => ({ Response.success none with serviceVersion := some handler.serviceVersion }, s)
    | .physicalNetworkFingerprint _ =>
      respond (fun fingerprint =>
        { Response.success none with physicalNetworkFingerprint := some fingerprint })
        (handler.backend.physicalNetworkFingerprint s)
    | .metrics _ probe =>
      respond (fun metrics => { (Response.success none : Response Metrics) with metrics := some metrics })
        (handler.backend.metrics probe s)
    | .diagnostics _ =>
      respond (fun diagnostics => { Response.success none with diagnostics := some diagnostics })
        (handler.backend.diagnostics s)
    | .rebindUdp _ => respond (fun state => .success (some state)) (handler.backend.rebindUdp s)

end Handler

inductive ChannelError where
  | unexpectedEof
  | blocked
  | device
  deriving DecidableEq

structure InputStream where
  bytes : Bytes
  /-- Whether the end is a failure of the device. -/
  fails : Bool

def InputStream.readExact (stream : InputStream) (n : ℕ) :
    Except ChannelError (Bytes × InputStream) :=
  if n ≤ stream.bytes.length then
    .ok (stream.bytes.take n, { stream with bytes := stream.bytes.drop n })
  else .error (if stream.fails then .device else .unexpectedEof)

def readFrame (stream : InputStream) (limit : ℕ) : Except ChannelError (Bytes × InputStream) :=
  match stream.readExact 4 with
  | .error e => .error e
  | .ok (size, rest) =>
    if limit < littleEndian size then .error .blocked
    else
      match rest.readExact (littleEndian size) with
      | .error e => .error e
      | .ok (body, rest) => .ok (size ++ body, rest)

def toLittleEndian (n : ℕ) : Bytes :=
  [UInt8.ofNat n, UInt8.ofNat (n / 256), UInt8.ofNat (n / 65536), UInt8.ofNat (n / 16777216)]

def encodeFrame (body : Bytes) : Option Bytes :=
  if maxFrameSize < body.length then none else some (toLittleEndian body.length ++ body)

structure BodyCodec (Metrics : Type) where
  control : Bytes → Option String
  request : Bytes → Option Request
  response : Response Metrics → Bytes
  engineReady : Bytes
  /-- Body that says whether the engine is stopped. -/
  engineStopped : Bool → Bytes

def decodeRequest {Metrics : Type} (codec : BodyCodec Metrics) (frame : Bytes) :
    Except ServiceError Request :=
  if frame.length < 4 then .error .truncatedFrame
  else if maxFrameSize < littleEndian (frame.take 4) then .error .frameTooLarge
  else if frame.length ≠ littleEndian (frame.take 4) + 4 then .error .truncatedFrame
  else
    match codec.request (frame.drop 4) with
    | some request => .ok request
    | none => .error .invalidRequest

lemma readFrame_shorter (h : readFrame stream limit = .ok (frame, rest)) :
    rest.bytes.length < stream.bytes.length := by
  simp only [readFrame, InputStream.readExact] at h
  split at h
  · simp at h
  · rename_i size rest' hs
    split at hs
    · rename_i hfo
      simp only [Except.ok.injEq, Prod.mk.injEq] at hs
      obtain ⟨-, hr'⟩ := hs
      split at h
      · simp at h
      · split at h
        · simp at h
        · rename_i body rest'' hb
          split at hb
          · simp only [Except.ok.injEq, Prod.mk.injEq] at hb h
            obtain ⟨-, hr⟩ := h
            obtain ⟨-, hr''⟩ := hb
            have hl : rest.bytes.length ≤ rest'.bytes.length := by
              rw [← hr, ← hr'']
              simp
            have hf : rest'.bytes.length = stream.bytes.length - 4 := by
              rw [← hr']
              simp
            omega
          · simp at hb
    · simp at hs

lemma readFrame_body (h : readFrame stream limit = .ok (frame, rest)) :
    frameBody frame limit = some (frame.drop 4) := by
  simp only [readFrame, InputStream.readExact] at h
  split at h
  · simp at h
  · rename_i size rest' hsi
    split at hsi
    · rename_i hf
      simp only [Except.ok.injEq, Prod.mk.injEq] at hsi
      have hs : size.length = 4 := by
        rw [← hsi.1]
        simp [hf]
      split at h
      · simp at h
      · rename_i hl
        split at h
        · simp at h
        · rename_i body rest'' hb
          split at hb
          · rename_i he
            simp only [Except.ok.injEq, Prod.mk.injEq] at hb h
            have hbo : body.length = littleEndian size := by
              rw [← hb.1]
              simp [he]
            have ht : (size ++ body).take 4 = size := by
              rw [← hs]
              simp
            rw [← h.1, frameBody, if_neg, if_neg]
            · rw [ht, List.length_append]
              omega
            · rw [List.length_append]
              omega
          · simp at hb
    · simp at hsi

section Channel

inductive WriteOutcome where
  | written
  | writeFails
  | flushFails
  deriving DecidableEq

inductive ChannelExit where
  | read (error : ChannelError)
  | malformed
  | unencoded
  | unwritten (outcome : WriteOutcome)
  deriving DecidableEq

structure EngineRun (σ : Type) where
  stream : InputStream
  /-- Outcomes of the next writes; later ones succeed. -/
  writes : List WriteOutcome
  backend : σ
  /-- Requests the handler was given, in order. -/
  handled : List Request := []
  output : List Bytes := []

variable {σ Config Metrics : Type} (handler : TunnelRequestHandler σ Config Metrics)
  (codec : BodyCodec Metrics)

def EngineRun.handle (run : EngineRun σ) (request : Request) : Response Metrics × EngineRun σ :=
  let (response, backend) := handler.handle request run.backend
  (response, { run with backend := backend, handled := run.handled ++ [request] })

def EngineRun.answer (run : EngineRun σ) (frame body : Bytes) : Option Bytes × EngineRun σ :=
  if codec.control body = some "ready" then (encodeFrame codec.engineReady, run)
  else if codec.control body = some "stop" then
    let (response, run) := run.handle handler Request.ownStop
    (encodeFrame (codec.engineStopped (response.ok && response.state == some .stopped)), run)
  else
    match decodeRequest codec frame with
    | .ok request =>
      let (response, run) := run.handle handler request
      (encodeFrame (codec.response response), run)
    | .error e => (encodeFrame (codec.response (.failure e.code)), run)

def EngineRun.write (run : EngineRun σ) (frame : Bytes) :
    EngineRun σ ⊕ (ChannelExit × EngineRun σ) :=
  match run.writes.headD .written with
  | .written => .inl { run with writes := run.writes.tail, output := run.output ++ [frame] }
  | outcome => .inr (.unwritten outcome, { run with writes := run.writes.tail })

def EngineRun.turn (run : EngineRun σ) : EngineRun σ ⊕ (ChannelExit × EngineRun σ) :=
  match readFrame run.stream maxFrameSize with
  | .error e => .inr (.read e, (run.handle handler Request.ownStop).2)
  | .ok (frame, rest) =>
    match frameBody frame maxFrameSize with
    | none => .inr (.malformed, { run with stream := rest })
    | some body =>
      match EngineRun.answer handler codec { run with stream := rest } frame body with
      | (none, run) => .inr (.unencoded, run)
      | (some output, run) => run.write output

def EngineRun.loop : ℕ → EngineRun σ → Option (ChannelExit × EngineRun σ)
  | 0, _ => none
  | fuel + 1, run =>
    match run.turn handler codec with
    | .inl run => EngineRun.loop fuel run
    | .inr stopped => some stopped

/-- Every turn but the last reads a byte, so the loop ends. -/
def runEngineChannel (stream : InputStream) (writes : List WriteOutcome) (backend : σ) :
    Option (ChannelExit × EngineRun σ) :=
  EngineRun.loop handler codec (stream.bytes.length + 1) ⟨stream, writes, backend, [], []⟩

variable {handler codec}

lemma answer_stream (run : EngineRun σ) (frame body : Bytes) :
    (run.answer handler codec frame body).2.stream = run.stream := by
  unfold EngineRun.answer EngineRun.handle
  split
  · rfl
  · split
    · rfl
    · split <;> rfl

lemma turn_shorter {run next : EngineRun σ} (h : run.turn handler codec = .inl next) :
    next.stream.bytes.length < run.stream.bytes.length := by
  unfold EngineRun.turn at h
  split at h
  · simp at h
  · rename_i frame rest hr
    have hre := readFrame_shorter hr
    split at h
    · simp at h
    · rename_i body hb
      have hs : (EngineRun.answer handler codec { run with stream := rest } frame body).2.stream =
          rest := answer_stream _ frame body
      split at h
      · simp at h
      · rename_i output run' ha
        rw [ha] at hs
        have hn : next.stream = run'.stream := by
          unfold EngineRun.write at h
          split at h
          · simp only [Sum.inl.injEq] at h
            rw [← h]
          · simp at h
        rw [hn, hs]
        exact hre

lemma loop_returns (fuel : ℕ) {run : EngineRun σ} (h : run.stream.bytes.length < fuel) :
    ∃ stopped, EngineRun.loop handler codec fuel run = some stopped := by
  induction fuel generalizing run with
  | zero => omega
  | succ fuel ih =>
    unfold EngineRun.loop
    cases ht : run.turn handler codec with
    | inl =>
      have hs := turn_shorter ht
      exact ih (by omega)
    | inr stopped => exact ⟨stopped, rfl⟩

/-- No Start without a later Stop. -/
def StoppedAfterStart (handled : List Request) : Prop :=
  ∀ before request after, handled = before ++ request :: after → request.isStart = true →
    ∃ stop ∈ after, stop.isStop = true

lemma stoppedAfterStart_append (handled : List Request) :
    StoppedAfterStart (handled ++ [Request.ownStop]) := by
  intro before request after h hs
  rcases List.eq_nil_or_concat after with rfl | ⟨init, last, rfl⟩
  · have hl := (List.append_inj' h rfl).2
    simp only [List.cons.injEq, and_true] at hl
    rw [← hl] at hs
    simp [Request.ownStop, Request.isStart] at hs
  · have hsp : handled ++ [Request.ownStop] = (before ++ request :: init) ++ [last] := by
      simpa using h
    have hl := (List.append_inj' hsp rfl).2
    simp only [List.cons.injEq, and_true] at hl
    exact ⟨last, by simp, by rw [← hl]; rfl⟩

section Delivery

variable (handler codec)

/-- The frames that the channel reads from a stream until a read fails. -/
def frames : ℕ → InputStream → List Bytes
  | 0, _ => []
  | fuel + 1, stream =>
    match readFrame stream maxFrameSize with
    | .error _ => []
    | .ok (frame, rest) => frame :: frames fuel rest

/-- What the handler makes of frames: the request that each of them is, if it is one, and the
response, if that can be encoded. -/
def answers : List Bytes → σ → List (List Request × Option Bytes)
  | [], _ => []
  | frame :: rest, backend =>
    let (output, run) :=
      EngineRun.answer handler codec ⟨⟨[], false⟩, [], backend, [], []⟩ frame (frame.drop 4)
    (run.handled, output) :: answers rest run.backend

/-- The requests up to the first response that cannot be encoded or is not written. -/
def untilUndelivered :
    List (List Request × Option Bytes) → List WriteOutcome → Option (List Request)
  | [], _ => none
  | (requests, output) :: rest, writes =>
    if output.isSome && writes.headD .written == .written then
      (untilUndelivered rest writes.tail).map (requests ++ ·)
    else some requests

/-- The requests up to the first undelivered response of a channel that is given these inputs. -/
def undelivered (stream : InputStream) (writes : List WriteOutcome) (backend : σ) :
    Option (List Request) :=
  untilUndelivered (answers handler codec (frames (stream.bytes.length + 1) stream) backend) writes

end Delivery

/-- What a frame is answered depends on the backend alone. -/
lemma answer_eq (run : EngineRun σ) (frame body : Bytes) :
    run.answer handler codec frame body =
      let (output, fresh) :=
        EngineRun.answer handler codec ⟨⟨[], false⟩, [], run.backend, [], []⟩ frame body
      (output, { run with backend := fresh.backend, handled := run.handled ++ fresh.handled }) := by
  unfold EngineRun.answer EngineRun.handle
  split
  · simp
  · split
    · simp
    · split <;> simp

/-- The requests handled when the channel returns: all of them and the channel's own Stop, or
those up to the first undelivered response. -/
lemma loop_handled (fuel : ℕ) {stopped : ChannelExit × EngineRun σ}
    (h : EngineRun.loop handler codec fuel run = some stopped) :
    let answered := answers handler codec (frames fuel run.stream) run.backend
    stopped.2.handled = run.handled ++ (untilUndelivered answered run.writes).getD
      (answered.flatMap Prod.fst ++ [Request.ownStop]) := by
  induction fuel generalizing run with
  | zero => simp [EngineRun.loop] at h
  | succ fuel ih =>
    unfold EngineRun.loop EngineRun.turn at h
    unfold frames
    cases hr : readFrame run.stream maxFrameSize with
    | error e =>
      simp only [hr, Option.some.injEq] at h
      subst h
      rfl
    | ok read =>
      obtain ⟨frame, rest⟩ := read
      simp only [hr, readFrame_body hr] at h
      rw [answer_eq] at h
      simp only [answers] at h ⊢
      generalize EngineRun.answer handler codec ⟨⟨[], false⟩, [], run.backend, [], []⟩ frame
        (frame.drop 4) = answered at h ⊢
      obtain ⟨output, fresh⟩ := answered
      cases output with
      | none =>
        simp only [Option.some.injEq] at h
        subst h
        rfl
      | some output =>
        simp only [EngineRun.write] at h
        unfold untilUndelivered
        cases hw : run.writes.headD .written with
        | written =>
          simp only [hw] at h
          rw [ih h]
          cases untilUndelivered (answers handler codec (frames fuel rest) fresh.backend)
            run.writes.tail <;> simp
        | writeFails | flushFails =>
          simp only [hw, Option.some.injEq] at h
          subst h
          rfl

/-- `run_engine_channel` returns for every stream and every writer, and a Stop was handled after
the last Start exactly when every response could be encoded and written, or the requests up to
the first that could not have a Stop after their last Start. -/
theorem closed_channel_stops (handler : TunnelRequestHandler σ Config Metrics)
    (codec : BodyCodec Metrics) (stream : InputStream) (writes : List WriteOutcome) (backend : σ) :
    ∃ stopped, runEngineChannel handler codec stream writes backend = some stopped ∧
      (StoppedAfterStart stopped.2.handled ↔
        ∀ requests, undelivered handler codec stream writes backend = some requests →
          StoppedAfterStart requests) := by
  obtain ⟨stopped, hs⟩ := @loop_returns σ Config Metrics handler codec
    (stream.bytes.length + 1) ⟨stream, writes, backend, [], []⟩ (Nat.lt_succ_self _)
  have hh := loop_handled _ hs
  refine ⟨stopped, hs, ?_⟩
  rw [hh]
  unfold undelivered
  cases untilUndelivered
    (answers handler codec (frames (stream.bytes.length + 1) stream) backend) writes with
  | none => simpa using stoppedAfterStart_append _
  | some requests => simp

end Channel

def willingBackend : ServiceTunnelBackend Unit Unit Unit where
  start _ _ s := (.ok .running, s)
  stop s := (.ok .stopped, s)
  status s := (.ok .running, s)
  physicalNetworkFingerprint s := (.ok "", s)
  metrics _ s := (.ok (), s)
  diagnostics s := (.ok "", s)
  rebindUdp s := (.ok .running, s)

def willingHandler : TunnelRequestHandler Unit Unit Unit :=
  ⟨willingBackend, ⟨fun _ => true, fun _ => some ()⟩, "1.0.0"⟩

def startCodec : BodyCodec Unit where
  control _ := none
  request body := if body = [1] then some (.start protocolVersion "" {}) else none
  response _ := [2]
  engineReady := [3]
  engineStopped _ := [4]

/-- The response to a Start cannot be written, and the channel returns with the
Start as the last request handled. -/
theorem unwritten_response_skips_stop :
    (runEngineChannel willingHandler startCodec ⟨[1, 0, 0, 0, 1], false⟩ [.writeFails] ()).map
        (fun stopped => (stopped.1, stopped.2.handled)) =
      some (.unwritten .writeFails, [.start protocolVersion "" {}]) ∧
      ¬ StoppedAfterStart [.start protocolVersion "" {}] := by
  refine ⟨by decide +kernel, fun h => ?_⟩
  obtain ⟨_, hs, -⟩ := h [] _ [] rfl rfl
  simp at hs

/-- The same stream with a working writer: nothing is undelivered, and the end of the stream
stops the tunnel. -/
theorem closed_channel_stops_delivered :
    undelivered willingHandler startCodec ⟨[1, 0, 0, 0, 1], false⟩ [] () = none ∧
      ∃ stopped,
        runEngineChannel willingHandler startCodec ⟨[1, 0, 0, 0, 1], false⟩ [] () = some stopped ∧
          StoppedAfterStart stopped.2.handled := by
  have hu : undelivered willingHandler startCodec ⟨[1, 0, 0, 0, 1], false⟩ [] () = none := by
    decide +kernel
  obtain ⟨stopped, hr, hs⟩ :=
    closed_channel_stops willingHandler startCodec ⟨[1, 0, 0, 0, 1], false⟩ [] ()
  refine ⟨hu, stopped, hr, hs.mpr fun requests h => ?_⟩
  rw [hu] at h
  cases h

end NelomaiClient.EngineService
