import Mathlib.Order.Lattice
import Mathlib.Data.List.Basic

/-!
# Cancelled policy requests

`OwnedPolicyCancellationGate` admits one policy request at a time. It remembers the ids of
cancelled and finished requests for as long as a delayed one may still arrive, and refuses every
request where a full table would have to forget an id. Elapsed time is a natural number.
-/

namespace NelomaiClient.OwnedPolicyCancellationGate

def ownedPolicyRequestTimeoutMillis : ℕ := 30000

/-- A ticket is compared as an object, which is what its serial stands for. -/
structure Ticket where
  serial : ℕ
  operationId : String
  deriving DecidableEq

/-- The table of remembered ids with the ends of their windows, and the ticket in progress. -/
structure Gate where
  recent : List (String × ℕ) := []
  /-- The request in progress. -/
  active : Option Ticket := none
  /-- Nothing is admitted before. -/
  refuseUntilElapsedMs : ℕ := 0
  /-- The number of tickets made. -/
  issued : ℕ := 0
  /-- The serials of cancelled tickets. -/
  cancelled : List ℕ := []

/-- The calls of the gate. -/
inductive Call where
  | begin (operationId : String)
  | cancel (operationId : String)
  | reject (operationId : String)
  | complete (ticket : Ticket)

section Calls

variable (gate : Gate) (operationId : String) (now : ℕ)

/-- Forgets the ids whose windows are over. -/
def prune : Gate := { gate with recent := gate.recent.filter fun entry => !(entry.2 ≤ now) }

def isRecent : Bool := gate.recent.any fun entry => entry.1 == operationId

def isActive : Bool := gate.active.any fun ticket => ticket.operationId == operationId

/-- Remembers an id for the time in which a delayed request of it may arrive; a full table refuses
every request for that time instead. -/
def remember : Gate :=
  if isRecent gate operationId then gate
  else
    let expires := now + ownedPolicyRequestTimeoutMillis
    if gate.recent.length < 128 then { gate with recent := gate.recent ++ [(operationId, expires)] }
    else { gate with refuseUntilElapsedMs := max gate.refuseUntilElapsedMs expires }

/-- Admits a request, unless one is in progress, its id is remembered or nothing is admitted. -/
def begin : Option Ticket × Gate :=
  let gate := prune gate now
  if gate.active.isSome || isRecent gate operationId || now < gate.refuseUntilElapsedMs then
    (none, gate)
  else
    let ticket := ⟨gate.issued, operationId⟩
    (some ticket, { gate with active := some ticket, issued := gate.issued + 1 })

/-- Marks the request in progress, or remembers the id of one that may still arrive. -/
def cancel : Gate :=
  let gate := prune gate now
  if isActive gate operationId then
    { gate with cancelled := gate.active.toList.map Ticket.serial ++ gate.cancelled }
  else remember gate operationId now

/-- Remembers the id of a request that was refused elsewhere. -/
def reject : Gate :=
  if isActive gate operationId then gate else remember (prune gate now) operationId now

/-- Ends the request in progress and remembers its id. -/
def complete (ticket : Ticket) : Gate :=
  if gate.active ≠ some ticket then gate
  else remember (prune { gate with active := none } now) ticket.operationId now

def apply : Call → Gate
  | .begin operationId => (begin gate operationId now).2
  | .cancel operationId => cancel gate operationId now
  | .reject operationId => reject gate operationId now
  | .complete ticket => complete gate now ticket

/-- The id a call hands to `remember`. -/
def remembers : Call → Option String
  | .begin _ => none
  | .cancel id | .reject id => if isActive gate id then none else some id
  | .complete ticket => if gate.active = some ticket then some ticket.operationId else none

def run (calls : List (ℕ × Call)) : Gate :=
  calls.foldl (fun gate entry => apply gate entry.1 entry.2) gate

end Calls

variable {gate : Gate} {id : String} {call : Call}

/-- Until the deadline nothing is admitted, or nothing of the id. -/
def Refuses (id : String) (deadline : ℕ) (gate : Gate) : Prop :=
  deadline ≤ gate.refuseUntilElapsedMs ∨ ∃ expires, deadline ≤ expires ∧ (id, expires) ∈ gate.recent

lemma Refuses.prune (h : Refuses id deadline gate) (hn : now < deadline) :
    Refuses id deadline (prune gate now) := by
  refine h.imp_right ?_
  rintro ⟨expires, hd, he⟩
  have hl : now < expires := hn.trans_le hd
  exact ⟨expires, hd, List.mem_filter.mpr ⟨he, by simpa using hl⟩⟩

lemma Refuses.remember (h : Refuses id deadline gate) :
    Refuses id deadline (remember gate other now) := by
  unfold OwnedPolicyCancellationGate.remember
  split
  · exact h
  · split
    · exact h.imp_right fun ⟨expires, hd, he⟩ => ⟨expires, hd, List.mem_append_left _ he⟩
    · exact h.imp_left fun hd => hd.trans (le_max_left ..)

lemma Refuses.apply (h : Refuses id deadline gate) (hn : now < deadline) (call : Call) :
    Refuses id deadline (apply gate now call) := by
  have hp := h.prune hn
  -- Only `complete` prunes after it has given up the ticket.
  have hf : Refuses id deadline { gate with active := none } := h
  cases call <;> dsimp only [OwnedPolicyCancellationGate.apply, begin, cancel, reject, complete] <;>
    split
  all_goals first | exact h | exact hp | exact hp.remember | exact (hf.prune hn).remember

lemma Refuses.run (h : Refuses id deadline gate) (hc : ∀ entry ∈ calls, entry.1 < deadline) :
    Refuses id deadline (run gate calls) := by
  induction calls generalizing gate with
  | nil => exact h
  | cons entry rest ih =>
    exact ih (h.apply (hc entry List.mem_cons_self) entry.2) fun other ho =>
      hc other (List.mem_cons_of_mem _ ho)

lemma Refuses.begin (h : Refuses id deadline gate) (hn : now < deadline) :
    (begin gate id now).1 = none := by
  unfold OwnedPolicyCancellationGate.begin
  rw [if_pos]
  rcases h.prune hn with hd | ⟨expires, -, he⟩
  · simp [hn.trans_le hd]
  · have hr : isRecent (OwnedPolicyCancellationGate.prune gate now) id = true :=
      List.any_eq_true.mpr ⟨_, he, by simp⟩
    simp [hr]

lemma remember_refuses (h : isRecent gate id = false) :
    Refuses id (now + ownedPolicyRequestTimeoutMillis) (remember gate id now) := by
  unfold remember
  rw [if_neg (by simp [h])]
  -- A full table has no entry for the id, but refuses every id for as long.
  split
  · exact .inr ⟨_, le_rfl, by simp⟩
  · exact .inl (le_max_right ..)

lemma apply_refuses (hr : remembers gate call = some id) (h : isRecent (prune gate now) id = false) :
    Refuses id (now + ownedPolicyRequestTimeoutMillis) (apply gate now call) := by
  cases call with
  | begin other => cases hr
  | cancel other | reject other =>
    simp only [remembers, Option.ite_none_left_eq_some, Option.some.injEq] at hr
    obtain ⟨ha, rfl⟩ := hr
    have hp : isActive (prune gate now) other ≠ true := ha
    simpa only [apply, cancel, reject, if_neg ha, if_neg hp] using remember_refuses h
  | complete ticket =>
    simp only [remembers, Option.ite_none_right_eq_some, Option.some.injEq] at hr
    obtain ⟨ha, rfl⟩ := hr
    simp only [apply, complete, ha, ne_eq, not_true, if_false]
    have hf : isRecent (prune { gate with active := none } now) ticket.operationId = false := h
    exact remember_refuses hf

lemma active_remember : (remember gate id now).active = gate.active := by
  unfold remember
  split
  · rfl
  · split <;> rfl

lemma begin_active (h : gate.active = some ticket) : (begin gate id now).1 = none := by
  simp [begin, prune, h]

lemma active_apply (h : gate.active = some ticket) (hc : call ≠ .complete ticket) :
    (apply gate now call).active = some ticket := by
  cases call with
  | begin other => simp [apply, begin, prune, h]
  | cancel other | reject other =>
    dsimp only [apply, cancel, reject]
    split
    · exact h
    · exact active_remember.trans h
  | complete other =>
    have ho : ticket ≠ other := fun he => hc (by rw [he])
    simp [apply, complete, h, ho]

lemma active_run (h : gate.active = some ticket) (hc : ∀ t, (t, .complete ticket) ∉ calls) :
    (run gate calls).active = some ticket := by
  induction calls generalizing gate with
  | nil => exact h
  | cons entry rest ih =>
    refine ih (active_apply h ?_) fun t ht => hc t (List.mem_cons_of_mem _ ht)
    intro he
    exact hc entry.1 (by rw [← he]; exact List.mem_cons_self)

/-- An id that a call remembers anew is refused until its window ends, whatever calls come in
between, and a ticket stays the only active one until it is completed. -/
theorem remembered_refused (gate : Gate) (between : List (ℕ × Call)) (now : ℕ) :
    (∀ t call id, remembers gate call = some id → isRecent (prune gate t) id = false →
      (t :: between.map Prod.fst ++ [now]).Pairwise (· ≤ ·) →
      now < t + ownedPolicyRequestTimeoutMillis →
      (begin (run (apply gate t call) between) id now).1 = none) ∧
    ∀ t id ticket, (begin gate id t).1 = some ticket → (∀ u, (u, .complete ticket) ∉ between) →
      (run (begin gate id t).2 between).active = some ticket ∧
        ∀ other, (begin (run (begin gate id t).2 between) other now).1 = none := by
  refine ⟨fun t call id hr hn hs hl => ?_, fun t id ticket hb hc => ?_⟩
  · refine ((apply_refuses hr hn).run fun entry he => ?_).begin hl
    have hle : entry.1 ≤ now :=
      (List.pairwise_append.mp hs).2.2 _ (by simp [List.mem_map_of_mem he]) now (by simp)
    exact hle.trans_lt hl
  · have ha : (begin gate id t).2.active = some ticket := by
      unfold begin at hb ⊢
      dsimp only at hb ⊢
      split at hb
      · cases hb
      · rename_i hf
        rw [if_neg hf]
        exact hb
    have hr := active_run ha hc
    exact ⟨hr, fun _ => begin_active hr⟩

/-- A table with an entry in each of its places. -/
def full : Gate := { recent := List.replicate 128 ("c", 30000) }

/-- A cancelled id is refused up to the last millisecond of its window, also where the table has no
place for it, and an admitted ticket lets in no other. -/
theorem cancelled_refused :
    full.recent.length = 128 ∧
    (begin (run (apply full 0 (.cancel "a")) [(5, .cancel "b")]) "a" 29999).1 = none ∧
    (run (begin {} "a" 0).2 [(5, .cancel "a")]).active = some ⟨0, "a"⟩ ∧
    (begin (run (begin {} "a" 0).2 [(5, .cancel "a")]) "b" 29999).1 = none := by
  have ht := (remembered_refused {} [(5, .cancel "a")] 29999).2 0 "a" ⟨0, "a"⟩ rfl (by simp)
  refine ⟨List.length_replicate, ?_, ht.1, ht.2 "b"⟩
  exact (remembered_refused full [(5, .cancel "b")] 29999).1 0 (.cancel "a") "a" rfl
    (by simp [isRecent, prune, full]) (by decide) (by decide)

end NelomaiClient.OwnedPolicyCancellationGate
