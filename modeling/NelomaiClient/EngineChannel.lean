import Mathlib.Data.List.Basic

/-!
# The channel between the dispatcher and an engine

An engine reads frames from its input, asks for any number of primitives while
it serves one, and then replies. The two pipes are lists of whole items; a
write or a read that failed part-way leaves a torn or a garbled item. Frames
are numbered as they are written, and a reply knows the number of the frame
that the engine was serving.
-/

namespace NelomaiClient.EngineChannel

abbrev Bytes : Type := List UInt8

def maxEngineFrame : Nat := 1048576

def littleEndian : Bytes → Nat
  | [] => 0
  | byte :: rest => byte.toNat + 256 * littleEndian rest

def frameBody (frame : Bytes) (limit : Nat) : Option Bytes :=
  if frame.length < 4 ∨ frame.length > limit + 4 then none
  else if littleEndian (frame.take 4) + 4 ≠ frame.length then none
  else some (frame.drop 4)

inductive EnginePrimitive where
  | startWireguard
  | startAmneziawg
  | stopServices
  | rebindService
  deriving DecidableEq

structure Codec where
  primitive : Bytes → Option EnginePrimitive
  /-- Whether the body is an object with a true `engine_ready`. -/
  engineReady : Bytes → Bool
  /-- Whether the body is an object with a true `engine_stopped`. -/
  engineStopped : Bytes → Bool
  /-- The frame that asks whether the engine is ready. -/
  readyFrame : Bytes
  stopFrame : Bytes

inductive InItem where
  | frame (tag : ℕ) (frame : Bytes)
  | primitiveOk (ok : Bool)
  | torn

/-- What waits in the engine's output; a reply carries the number of its frame. -/
inductive OutItem where
  | request (body : Bytes)
  | reply (tag : Option ℕ) (body : Bytes)
  | garbled

inductive Work where
  | idle
  | serving (tag : Option ℕ)
  | awaiting (tag : Option ℕ)

structure Channel where
  /-- The dispatcher's end of the input is open. -/
  stdin : Bool
  input : List InItem
  output : List OutItem
  work : Work
  alive : Bool
  failed : Bool

def Channel.fresh : Channel := ⟨true, [], [], .idle, true, false⟩

def Channel.tear (partWay : Bool) (ch : Channel) : Channel :=
  if partWay then { ch with input := ch.input ++ [.torn] } else ch

def Channel.garble (partWay : Bool) (ch : Channel) : Channel :=
  if partWay then { ch with output := .garbled :: ch.output.tail } else ch

inductive EngineAct where
  | take
  | primitive (body : Bytes)
  | reply (body : Bytes)
  | crash

section Acts

variable (codec : Codec)

/-- Take the next item of the input. A waiting engine takes it as the outcome of
its primitive. A torn frame swallows what follows it. -/
def Channel.take (ch : Channel) : Channel :=
  match ch.work, ch.input with
  | .idle, .frame tag _ :: rest => { ch with work := .serving (some tag), input := rest }
  | .idle, .primitiveOk _ :: rest => { ch with work := .serving none, input := rest }
  | .idle, .torn :: _ :: rest => { ch with work := .serving none, input := rest }
  | .awaiting tag, _ :: rest => { ch with work := .serving tag, input := rest }
  | _, _ => ch

/-- One action of a running engine; an action that is not possible changes nothing. -/
def Channel.act (ch : Channel) (a : EngineAct) : Channel :=
  if ch.alive then
    match a with
    | .take => ch.take
    | .primitive body =>
      match ch.work with
      | .serving tag =>
        if (codec.primitive body).isSome then
          { ch with work := .awaiting tag, output := ch.output ++ [.request body] }
        else ch
      | _ => ch
    | .reply body =>
      match ch.work with
      | .serving tag =>
        if (codec.primitive body).isSome then ch
        else { ch with work := .idle, output := ch.output ++ [.reply tag body] }
      | _ => ch
    | .crash => { ch with alive := false }
  else ch

def Channel.acts (ch : Channel) (as : List EngineAct) : Channel := as.foldl (Channel.act codec) ch

end Acts

section Pairing

variable {codec : Codec} {ch : Channel}

def Clean (ch : Channel) : Prop := ch.input = [] ∧ ch.output = [] ∧ ch.work = .idle

inductive Answering (codec : Codec) (tag : ℕ) (ch : Channel) : Prop
  | sent (frame : Bytes) (hinput : ch.input = [.frame tag frame]) (houtput : ch.output = [])
      (hwork : ch.work = .idle)
  | served (hinput : ch.input = []) (houtput : ch.output = [])
      (hwork : ch.work = .serving (some tag))
  | asked (body : Bytes) (hbody : (codec.primitive body).isSome) (hinput : ch.input = [])
      (houtput : ch.output = [.request body]) (hwork : ch.work = .awaiting (some tag))
  | heard (hinput : ch.input = []) (houtput : ch.output = [])
      (hwork : ch.work = .awaiting (some tag))
  | told (ok : Bool) (hinput : ch.input = [.primitiveOk ok]) (houtput : ch.output = [])
      (hwork : ch.work = .awaiting (some tag))
  | replied (body : Bytes) (hbody : codec.primitive body = none) (hinput : ch.input = [])
      (houtput : ch.output = [.reply (some tag) body]) (hwork : ch.work = .idle)

lemma Clean.act (h : Clean ch) (a : EngineAct) : Clean (ch.act codec a) := by
  obtain ⟨hi, ho, hw⟩ := h
  unfold Channel.act
  split
  · cases a with
    | take =>
      unfold Channel.take
      rw [hw, hi]
      exact ⟨hi, ho, hw⟩
    | primitive | reply =>
      rw [hw]
      exact ⟨hi, ho, hw⟩
    | crash => exact ⟨hi, ho, hw⟩
  · exact ⟨hi, ho, hw⟩

lemma Clean.acts (h : Clean ch) (as : List EngineAct) : Clean (ch.acts codec as) := by
  induction as generalizing ch with
  | nil => exact h
  | cons a as ih => exact ih (h.act a)

lemma Answering.act (h : Answering codec tag ch) (a : EngineAct) :
    Answering codec tag (ch.act codec a) := by
  unfold Channel.act
  split
  · cases a with
    | take =>
      unfold Channel.take
      cases h with
      | sent frame hi ho hw | told ok hi ho hw =>
        rw [hw, hi]
        exact .served rfl ho rfl
      | served hi ho hw =>
        rw [hw]
        exact .served hi ho hw
      | asked body hb hi ho hw =>
        rw [hw, hi]
        exact .asked body hb hi ho hw
      | heard hi ho hw =>
        rw [hw, hi]
        exact .heard hi ho hw
      | replied body hb hi ho hw =>
        rw [hw, hi]
        exact .replied body hb hi ho hw
    | primitive body =>
      dsimp only
      split
      · rename_i hs
        split
        · rename_i hb
          cases h with
          | served hi ho hw =>
            rw [hw] at hs
            cases hs
            exact .asked body hb hi (by rw [ho]; rfl) rfl
          | sent _ _ _ hw | asked _ _ _ _ hw | heard _ _ hw | told _ _ _ hw
          | replied _ _ _ _ hw =>
            rw [hw] at hs
            cases hs
        · exact h
      · exact h
    | reply body =>
      dsimp only
      split
      · rename_i hs
        split
        · exact h
        · rename_i hb
          cases h with
          | served hi ho hw =>
            rw [hw] at hs
            cases hs
            have hn : codec.primitive body = none := by
              rwa [Bool.not_eq_true, Option.isSome_eq_false_iff, Option.isNone_iff_eq_none] at hb
            exact .replied body hn hi (by rw [ho]; rfl) rfl
          | sent _ _ _ hw | asked _ _ _ _ hw | heard _ _ hw | told _ _ _ hw
          | replied _ _ _ _ hw =>
            rw [hw] at hs
            cases hs
      · exact h
    | crash =>
      cases h with
      | sent frame hi ho hw => exact .sent frame hi ho hw
      | served hi ho hw => exact .served hi ho hw
      | asked body hb hi ho hw => exact .asked body hb hi ho hw
      | heard hi ho hw => exact .heard hi ho hw
      | told ok hi ho hw => exact .told ok hi ho hw
      | replied body hb hi ho hw => exact .replied body hb hi ho hw
  · exact h

lemma Answering.acts (h : Answering codec tag ch) (as : List EngineAct) :
    Answering codec tag (ch.acts codec as) := by
  induction as generalizing ch with
  | nil => exact h
  | cons a as ih => exact ih (h.act a)

variable (codec) in
lemma Channel.act_known (ch : Channel) (a : EngineAct) :
    (ch.act codec a).stdin = ch.stdin ∧ (ch.act codec a).failed = ch.failed := by
  unfold Channel.act Channel.take
  split
  · cases a with
    | take =>
      dsimp only
      split <;> exact ⟨rfl, rfl⟩
    | primitive | reply =>
      dsimp only
      split
      · split <;> exact ⟨rfl, rfl⟩
      · exact ⟨rfl, rfl⟩
    | crash => exact ⟨rfl, rfl⟩
  · exact ⟨rfl, rfl⟩

variable (codec) in
lemma Channel.acts_failed (ch : Channel) (as : List EngineAct) :
    (ch.acts codec as).failed = ch.failed := by
  induction as generalizing ch with
  | nil => rfl
  | cons a as ih => exact (ih (ch.act codec a)).trans (ch.act_known codec a).2

end Pairing

end NelomaiClient.EngineChannel
