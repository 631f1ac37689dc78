import NelomaiClient.AwaitRely
import NelomaiClient.NetworkText

/-!
# Tombstones of cancelled redundant starts

`RedundantCancelTombstoneStore` keeps one record. A call reads it and writes or removes what it
read with a compare-and-set of the backend, so that other calls can come in between. A
compare-and-set may fail, may throw, and may do either after it was applied.
-/

namespace NelomaiClient.CancelTombstones

open AwaitProgram AwaitPool AwaitRely
open NetworkText (Text)

def redundantCancelLegacyFormat : Text := ['1']

def redundantCancelFormat : Text := ['2']

structure RedundantCancelTombstone where
  startOperationId : Text
  stopOperationId : Text
  allowRestart : Bool
  deriving DecidableEq

/-- Whitespace of Kotlin. -/
def isWhitespace (c : Char) : Bool :=
  let n := c.toNat
  (9 ≤ n && n ≤ 13) || (28 ≤ n && n ≤ 32) || (8192 ≤ n && n ≤ 8202) ||
    [160, 5760, 8232, 8233, 8239, 8287, 12288].contains n

def requireValidId (value : Text) : Bool :=
  value.any (!isWhitespace ·) && (value.map fun c => if c.val > 65535 then 2 else 1).sum ≤ 128 &&
    !value.contains '\n' && !value.contains '\r'

def boolText (value : Bool) : Text := (toString value).toList

section Records

variable (tombstone : RedundantCancelTombstone)

def requireValid : Bool :=
  requireValidId tombstone.startOperationId && requireValidId tombstone.stopOperationId

def encode : Option Text :=
  if requireValid tombstone then
    some (['\n'].intercalate [redundantCancelFormat, tombstone.startOperationId,
      tombstone.stopOperationId, boolText tombstone.allowRestart])
  else none

def encodeLegacy : Option Text :=
  if !tombstone.allowRestart && requireValid tombstone then
    some (['\n'].intercalate [redundantCancelLegacyFormat, tombstone.startOperationId,
      tombstone.stopOperationId])
  else none

end Records

def decode (value : Text) : Option RedundantCancelTombstone :=
  match value.splitOn '\n' with
  | [format, start, stop] =>
    if format = redundantCancelLegacyFormat && requireValid ⟨start, stop, false⟩ then
      some ⟨start, stop, false⟩
    else none
  | [format, start, stop, allow] =>
    if format = redundantCancelFormat && requireValid ⟨start, stop, false⟩ then
      if allow = boolText true then some ⟨start, stop, true⟩
      else if allow = boolText false then some ⟨start, stop, false⟩
      else none
    else none
  | _ => none

inductive Cmd where
  | read
  | operationId
  | compareAndWrite (expected : Option Text) (value : Text)
  | compareAndClear (expected : Text)

/-- What a command answers; `none` for an exception. -/
@[reducible]
def Cmd.Resp : Cmd → Type
  | read => Option (Option Text)
  | operationId => Text
  | compareAndWrite _ _ | compareAndClear _ => Option Bool

inductive Input where
  | done
  | failed (applied thrown : Bool)
  | id (value : Text)

/-- A compare-and-set of the record. -/
def compareAndSet (record expected value : Option Text) : Input → Option (Option Bool × Option Text)
  | .done => some (some (record = expected), if record = expected then value else record)
  | .failed applied thrown => some (if thrown then none else some false,
      if applied && record = expected then value else record)
  | .id _ => none

def sem : (c : Cmd) → ℕ → Input → Option Text → Option (c.Resp × Option Text)
  | .read, _, .done, record => some (some record, record)
  | .read, _, .failed _ _, record => some (none, record)
  | .operationId, _, .id value, record => some (value, record)
  | .compareAndWrite expected value, _, i, record => compareAndSet record expected (some value) i
  | .compareAndClear expected, _, i, record => compareAndSet record (some expected) none i
  | _, _, _, _ => none

abbrev backend : Machine := ⟨Option Text, Cmd, Cmd.Resp, Input, sem⟩

abbrev ask (c : Cmd) : Prog backend c.Resp := Prog.ask (M := backend) c

def persistRounds (startOperationId : Text) (allowRestart : Bool) :
    ℕ → Prog backend (Except String RedundantCancelTombstone)
  | 0 => return .error "redundant_cancel_tombstone_conflict"
  | rounds + 1 => do
    let read : Option (Option Text) ← ask .read
    match read with
    | none => return .error "redundant_cancel_tombstone_read_failed"
    | some none =>
      let operationId : Text ← ask .operationId
      let tombstone := ⟨startOperationId, operationId, allowRestart⟩
      match encode tombstone with
      | none => return .error "invalid_redundant_cancel_tombstone"
      | some replacement =>
        let saved : Option Bool ← ask (.compareAndWrite none replacement)
        if saved = some true then return .ok tombstone
        else persistRounds startOperationId allowRestart rounds
    | some (some encoded) =>
      match decode encoded with
      | none => return .error "redundant_cancel_tombstone_corrupt"
      | some current =>
        if current.startOperationId ≠ startOperationId then
          return .error "redundant_cancel_tombstone_busy"
        else
          let stopWins := { current with allowRestart := current.allowRestart && allowRestart }
          if stopWins = current then return .ok current
          else
            match encode stopWins with
            | none => persistRounds startOperationId allowRestart rounds
            | some value =>
              let replaced : Option Bool ← ask (.compareAndWrite (some encoded) value)
              if replaced = some true then return .ok stopWins
              else persistRounds startOperationId allowRestart rounds

def persist (startOperationId : Text) (allowRestart : Bool) :
    Prog backend (Except String RedundantCancelTombstone) :=
  persistRounds startOperationId allowRestart 2

def clear (expected : RedundantCancelTombstone) : Prog backend Bool :=
  match encode expected with
  | none => return false
  | some value => do
    let cleared : Option Bool ← ask (.compareAndClear value)
    match cleared, encodeLegacy expected with
    | some false, some legacy => do
      let cleared : Option Bool ← ask (.compareAndClear legacy)
      return cleared = some true
    | cleared, _ => return cleared = some true

inductive Op where
  | persist (startOperationId : Text) (allowRestart : Bool)
  | clear (expected : RedundantCancelTombstone)

/-- The store outlives the process. -/
abbrev store : System where
  machine := backend
  Op := Op
  program
    | .persist startOperationId allowRestart => do
      let _ ← persist startOperationId allowRestart
    | .clear expected => do
      let _ ← clear expected
  restart := id

lemma not_mem_id (h : requireValidId value = true) : '\n' ∉ value := by
  simp only [requireValidId, Bool.and_eq_true, Bool.not_eq_true', List.contains_eq_mem,
    decide_eq_false_iff_not] at h
  exact h.1.2

lemma splitOn_fields (hf : '\n' ∉ format) (h : requireValid ⟨start, stop, allowRestart⟩ = true)
    (hr : ∀ field ∈ rest, '\n' ∉ field) :
    List.splitOn '\n' (['\n'].intercalate (format :: start :: stop :: rest)) =
      format :: start :: stop :: rest := by
  simp only [requireValid, Bool.and_eq_true] at h
  refine List.splitOn_intercalate _ ?_ (by simp)
  simp only [List.forall_mem_cons]
  exact ⟨hf, not_mem_id h.1, not_mem_id h.2, hr⟩

lemma decode_encode (h : encode tombstone = some value) : decode value = some tombstone := by
  obtain ⟨start, stop, allowRestart⟩ := tombstone
  obtain ⟨hv, h⟩ := Option.ite_none_right_eq_some.mp h
  cases h
  have hb : '\n' ∉ boolText allowRestart := by cases allowRestart <;> decide
  rw [decode, splitOn_fields (by decide) hv (by simpa using hb)]
  have hf : requireValid ⟨start, stop, false⟩ = true := hv
  cases allowRestart <;> simp [hf, show boolText false ≠ boolText true from by decide]

lemma decode_encodeLegacy (h : encodeLegacy tombstone = some value) :
    decode value = some tombstone := by
  obtain ⟨start, stop, allowRestart⟩ := tombstone
  obtain ⟨hv, h⟩ := Option.ite_none_right_eq_some.mp h
  cases h
  simp only [Bool.and_eq_true, Bool.not_eq_true'] at hv
  obtain ⟨rfl, hv⟩ := hv
  rw [decode, splitOn_fields (by decide) hv (by simp)]
  simp [hv]

/-- The record stays that of the same start and the same stop, and a restart is not allowed anew. -/
def Follows (current next : RedundantCancelTombstone) : Prop :=
  next.startOperationId = current.startOperationId ∧
    next.stopOperationId = current.stopOperationId ∧
    (next.allowRestart = true → current.allowRestart = true)

/-- What is written is a tombstone, and one that follows what it replaces. -/
def Proper : Cmd → Prop
  | .compareAndWrite expected value => ∃ next, encode next = some value ∧
      ∀ encoded, expected = some encoded → ∃ current, decode encoded = some current ∧
        Follows current next
  | _ => True

/-- What is removed decodes to the tombstone. -/
def Removes (expected : RedundantCancelTombstone) : Cmd → Prop
  | .compareAndClear encoded => decode encoded = some expected
  | _ => False

lemma uses_asked {φ : Cmd → Prop} {f : c.Resp → Prog backend α} (h : φ c)
    (hf : ∀ r, (f r).Uses φ) : (ask c >>= f).Uses φ :=
  Prog.uses_bind ((Prog.uses_ask (M := backend) c).mpr h) hf

lemma persistRounds_proper (rounds : ℕ) :
    (persistRounds startOperationId allowRestart rounds).Uses Proper := by
  -- On the rounds that are left. A round has two writes, each of a text that was just encoded.
  induction rounds with
  | zero => trivial
  | succ rounds ih =>
    refine uses_asked trivial fun read => ?_
    rcases read with _ | _ | encoded
    · trivial
    · refine uses_asked trivial fun operationId => ?_
      dsimp only
      split
      · trivial
      · rename_i replacement he
        have hw : Proper (.compareAndWrite none replacement) := ⟨_, he, by simp⟩
        refine uses_asked hw fun saved => ?_
        split
        · trivial
        · exact ih
    · dsimp only
      split
      · trivial
      · rename_i current hd
        split
        · trivial
        · split
          · trivial
          · split
            · exact ih
            · rename_i value he
              have hw : Proper (.compareAndWrite (some encoded) value) := by
                refine ⟨_, he, fun other ho => ?_⟩
                cases ho
                exact ⟨current, hd, rfl, rfl, fun h => (Bool.and_eq_true_iff.mp h).1⟩
              refine uses_asked hw fun replaced => ?_
              split
              · trivial
              · exact ih

/-- Both formats `clear` tries decode to what it expects. -/
lemma clear_uses (h : ∀ encoded, decode encoded = some expected → φ (.compareAndClear encoded)) :
    (clear expected).Uses φ := by
  unfold clear
  split
  · trivial
  · rename_i value he
    refine uses_asked (h _ (decode_encode he)) fun cleared => ?_
    split
    · rename_i legacy hl
      exact uses_asked (h _ (decode_encodeLegacy hl)) fun _ => trivial
    · trivial

/-- A call writes only what is proper, whatever the others do to the record. -/
def contract : Contract backend where
  inv _ := True
  cond _ _ _ _ := True
  guar _ c _ _ _ := Proper c
  rely _ _ _ := True
  rely_refl := by simp
  rely_trans := by simp
  guar_rely := by simp

lemma contract_covers : Covers (S := store) contract := by
  intro op t record _
  refine wp_of_uses (φ := Proper) (J := fun _ => True) (by simp) ?_ ?_ trivial
  · exact fun c i r s s' hc _ _ _ _ => ⟨trivial, hc, trivial⟩
  · cases op with
    | persist => exact Prog.uses_bind (persistRounds_proper 2) fun _ => trivial
    | clear => exact Prog.uses_bind (clear_uses fun _ _ => trivial) fun _ => trivial

/-- The stored record is not removed. -/
abbrev kept (t : ℕ) (c : Cmd) (i : Input) (record : Option Text) : Prop :=
  ∀ answer ∈ sem c t i record, answer.2 ≠ none

def Holds (current : RedundantCancelTombstone) (record : Option Text) : Prop :=
  ∃ encoded next, record = some encoded ∧ decode encoded = some next ∧ Follows current next

lemma compareAndSet_cases (h : compareAndSet record expected value i = some (r, record')) :
    record' = record ∨ record = expected ∧ record' = value := by
  unfold compareAndSet at h
  split at h
  · cases h
    split <;> simp_all
  · cases h
    split <;> simp_all
  · cases h

lemma Holds.step (h : Holds current record) (hk : kept t c i record) (hp : Proper c)
    (hs : sem c t i record = some (r, record')) : Holds current record' := by
  cases c with
  | read | operationId =>
    cases i <;> cases hs <;> exact h
  | compareAndClear expected =>
    rcases compareAndSet_cases hs with rfl | ⟨-, rfl⟩
    · exact h
    · exact absurd rfl (hk _ hs)
  | compareAndWrite expected value =>
    obtain ⟨next', he, hf⟩ := hp
    rcases compareAndSet_cases hs with rfl | ⟨rfl, rfl⟩
    · exact h
    · -- The write found the text that its call had read, so it follows what that text says.
      obtain ⟨encoded, next, rfl, hd, hn⟩ := h
      obtain ⟨next, hd', hf⟩ := hf encoded rfl
      cases hd.symm.trans hd'
      exact ⟨value, next', rfl, decode_encode he, hf.1.trans hn.1, hf.2.1.trans hn.2.1,
        fun ha => hn.2.2 (hf.2.2 ha)⟩

lemma Holds.run (hP : Sound contract P) (hQ : Reach (S := store) kept P Q)
    (h : Holds current P.state) : Sound contract Q ∧ Holds current Q.state := by
  induction hQ with
  | refl => exact ⟨hP, h⟩
  | tail _ hm hs ih =>
    have hi := ih.1.move contract_covers (fun _ _ => trivial) (fun _ _ _ _ => trivial) hs
    refine ⟨hi, ?_⟩
    rcases Pool.move_cases hs with ⟨t, c, i, hc⟩ | he | he
    · obtain ⟨r, hse⟩ := Pool.move_issued hs hc
      exact ih.2.step (hm t c i hc) (ih.1.issued (fun _ _ _ _ => trivial) hs hc) hse
    · exact he ▸ ih.2
    · exact he ▸ ih.2

/-- Until it is removed, a stored tombstone keeps its start and its stop and never allows a restart
anew. Every write stores the encoding of a tombstone, which decodes to it, and a `clear` removes
only records that decode to what it expects. -/
theorem tombstone_stable {record : Option Text} {P Q : Pool store}
    (hP : Reach (unconditioned store) (Pool.idle record) P)
    (hQ : Reach (S := store) kept P Q) {encoded : Text} {current : RedundantCancelTombstone}
    (he : P.state = some encoded) (hd : decode encoded = some current) :
    Holds current Q.state ∧
      (∀ startOperationId allowRestart, (persist startOperationId allowRestart).Uses Proper) ∧
      (∀ tombstone value, encode tombstone = some value → decode value = some tombstone) ∧
      ∀ expected, (clear expected).Uses (Removes expected) := by
  refine ⟨?_, fun _ _ => persistRounds_proper 2, fun _ _ => decode_encode, fun _ =>
    clear_uses fun _ h => h⟩
  have hS : Sound contract P := Reach.sound hP contract_covers (fun _ _ => trivial) trivial
  exact (Holds.run hS hQ ⟨encoded, current, he, hd, rfl, rfl, id⟩).2

/-- A second cancellation of a start, which does not allow a restart. -/
theorem second_cancel_stable :
    ∃ Q : Pool store, Q.state = encode ⟨['s'], ['t'], false⟩ ∧
      Holds ⟨['s'], ['t'], true⟩ Q.state := by
  have hr : (moves (S := store) kept (Pool.idle (encode ⟨['s'], ['t'], true⟩))
      (.start (Op.persist ['s'] false) :: [[], [Input.done], [Input.done]].flatMap (segment 0))).map
        (·.state) = some (encode ⟨['s'], ['t'], false⟩) := by
    decide +kernel
  obtain ⟨Q, hQ, hs⟩ := Option.map_eq_some_iff.mp hr
  exact ⟨Q, hs, (tombstone_stable .refl (Reach.moves _ .refl _ hQ) rfl (by decide +kernel)).1⟩

/-- A text is accepted only if one of the two formats writes it for the tombstone. -/
theorem decode_eq_some_iff (value : Text) (tombstone : RedundantCancelTombstone) :
    decode value = some tombstone ↔
      encode tombstone = some value ∨ encodeLegacy tombstone = some value := by
  refine ⟨fun h => ?_, fun h => h.elim decode_encode decode_encodeLegacy⟩
  have hv : ['\n'].intercalate (value.splitOn '\n') = value := List.intercalate_splitOn _
  unfold decode at h
  split at h
  · obtain ⟨hc, h⟩ := Option.ite_none_right_eq_some.mp h
    cases h
    simp_all [encodeLegacy]
  · rename_i start stop _ hs
    rw [hs] at hv
    obtain ⟨hc, h⟩ := Option.ite_none_right_eq_some.mp h
    simp only [Bool.and_eq_true, decide_eq_true_eq] at hc
    have hr : ∀ restart, requireValid ⟨start, stop, restart⟩ = true := fun _ => hc.2
    split at h
    · cases h
      simp_all [encode]
    · obtain ⟨ha, h⟩ := Option.ite_none_right_eq_some.mp h
      cases h
      simp_all [encode]
  · cases h

end NelomaiClient.CancelTombstones
