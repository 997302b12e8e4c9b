/-
The transmit queue of the setup session: a buffer of 4096 bytes with the cursor of what USB has
taken. A line is queued whole, with its line feed, or refused; what USB takes is a prefix of what
is pending, and a write that claims to have taken more than it was offered is ignored. Over any
calls, what USB took and what is pending are the accepted lines in their order.
-/
import RedMonkeyMpg.Core.Types
import RedMonkeyMpg.Lib.Run
import Mathlib.Tactic

namespace RedMonkeyMpg.Setup

def kTxSize : ℕ := 4096

def lineFeed : UInt8 := 10

/-- What `red_monkey_mpg_usb_config_write` answers: it takes at most `n` of the bytes it is offered,
or it returns more than it was offered. -/
inductive UsbWrite where
  | takes (n : ℕ)
  | broken
  deriving DecidableEq

/-- The bytes of `tx_` up to `tx_size_`, and `tx_offset_`. -/
structure TxQueue where
  bytes : CStr := []
  offset : ℕ := 0
  offset_le : offset ≤ bytes.length := by simp
  length_le : bytes.length ≤ kTxSize := by simp

/-- A queue after calls of `service_tx`, the bytes USB took in them, and the answers that are left.
An answer that is missing takes nothing. -/
structure Drained where
  queue : TxQueue
  taken : CStr
  writes : List UsbWrite

namespace TxQueue

def empty : TxQueue := {}

/-- The bytes that USB has not taken. -/
def pending (q : TxQueue) : CStr := q.bytes.drop q.offset

/-- The queue after USB took `n` bytes: a drained one starts at the beginning of `tx_`. -/
def take (q : TxQueue) (n : ℕ) (h : n ≤ q.pending.length) : TxQueue :=
  if q.offset + n = q.bytes.length then {}
  else
    { q with
      offset := q.offset + n
      offset_le := by
        have := q.offset_le
        simp only [pending, List.length_drop] at h
        omega }

/-- `service_tx`. -/
def service (q : TxQueue) (writes : List UsbWrite) : Drained :=
  if q.offset = q.bytes.length then { queue := {}, taken := [], writes := writes }
  else
    match writes.headD (.takes 0) with
    | .broken => { queue := q, taken := [], writes := writes.tail }
    | .takes n =>
      { queue := q.take (min n q.pending.length) (Nat.min_le_right ..)
        taken := q.pending.take n
        writes := writes.tail }

/-- The `memmove` of `write_line`: the pending bytes at the beginning of `tx_`. -/
def compact (q : TxQueue) : TxQueue where
  bytes := q.pending
  offset_le := Nat.zero_le _
  length_le := by
    have := q.length_le
    rw [pending, List.length_drop]
    omega

/-- The queue that `write_line` looks for room in. -/
def makeRoom (q : TxQueue) (size : ℕ) : TxQueue :=
  if q.offset ≠ 0 ∧ kTxSize - q.bytes.length < size + 1 then q.compact else q

/-- The queue with a line and its line feed behind it. -/
def append (q : TxQueue) (line : CStr) (h : ¬ kTxSize - q.bytes.length < line.length + 1) : TxQueue where
  bytes := q.bytes ++ line ++ [lineFeed]
  offset := q.offset
  offset_le := by
    have := q.offset_le
    simp only [List.length_append]
    omega
  length_le := by
    have := q.length_le
    simp only [List.length_append, List.length_singleton]
    omega

/-- `write_line`: whether the line was queued, and what the `service_tx` behind it did. -/
def writeLine (q : TxQueue) (line : CStr) (writes : List UsbWrite) : Bool × Drained :=
  if line.length > kTxSize - 1 then (false, { queue := q, taken := [], writes := writes })
  else if h : kTxSize - (q.makeRoom line.length).bytes.length < line.length + 1 then
    (false, { queue := q.makeRoom line.length, taken := [], writes := writes })
  else (true, ((q.makeRoom line.length).append line h).service writes)

/-! ## Pending bytes -/

variable {q : TxQueue}

theorem length_pending : q.pending.length = q.bytes.length - q.offset := List.length_drop

@[simp] theorem pending_compact : q.compact.pending = q.pending := rfl

theorem pending_makeRoom (size : ℕ) : (q.makeRoom size).pending = q.pending := by
  unfold makeRoom
  split
  · exact pending_compact
  · rfl

theorem pending_append (line : CStr) (h : ¬ kTxSize - q.bytes.length < line.length + 1) :
    (q.append line h).pending = q.pending ++ line ++ [lineFeed] := by
  have hle := q.offset_le
  show (q.bytes ++ line ++ [lineFeed]).drop q.offset = _
  rw [List.append_assoc, List.drop_append_of_le_length hle, ← List.append_assoc]
  rfl

theorem pending_take {n : ℕ} (h : n ≤ q.pending.length) : (q.take n h).pending = q.pending.drop n := by
  unfold take
  split
  · rename_i hall
    have hlen : q.pending.length ≤ n := by
      rw [length_pending]
      omega
    rw [List.drop_eq_nil_of_le hlen]
    rfl
  · show q.bytes.drop (q.offset + n) = (q.bytes.drop q.offset).drop n
    rw [List.drop_drop]

/-- Room for a line is room beside the pending bytes. -/
theorem makeRoom_room (line : CStr) :
    kTxSize - (q.makeRoom line.length).bytes.length < line.length + 1 ↔
      kTxSize < q.pending.length + line.length + 1 := by
  have hlen := length_pending (q := q)
  have hsize := q.length_le
  have hoffset := q.offset_le
  unfold makeRoom
  split
  · show kTxSize - q.pending.length < line.length + 1 ↔ _
    omega
  · rename_i hno
    rw [not_and_or, not_not] at hno
    omega

/-! ## What the operations do -/

/-- What USB takes and what then is pending is what was pending. -/
theorem service_spec (writes : List UsbWrite) :
    (q.service writes).taken ++ (q.service writes).queue.pending = q.pending := by
  unfold service
  split
  · rename_i hall
    have hnone : q.pending = [] := List.drop_eq_nil_of_le (Nat.le_of_eq hall.symm)
    rw [hnone]
    rfl
  · split
    · rfl
    · rename_i n _
      show q.pending.take n ++ (q.take (min n q.pending.length) (Nat.min_le_right ..)).pending = _
      rw [pending_take]
      rcases Nat.le_total n q.pending.length with hle | hle
      · rw [Nat.min_eq_left hle, List.take_append_drop]
      · rw [Nat.min_eq_right hle, List.take_of_length_le hle, List.drop_length, List.append_nil]

/-- A line is queued exactly when it fits beside the pending bytes; a refused one changes nothing
that is pending. -/
theorem writeLine_spec (line : CStr) (writes : List UsbWrite) :
    ((q.writeLine line writes).1 = true ∧ q.pending.length + line.length + 1 ≤ kTxSize ∧
      (q.writeLine line writes).2.taken ++ (q.writeLine line writes).2.queue.pending =
        q.pending ++ line ++ [lineFeed]) ∨
    ((q.writeLine line writes).1 = false ∧ kTxSize < q.pending.length + line.length + 1 ∧
      (q.writeLine line writes).2.taken = [] ∧ (q.writeLine line writes).2.queue.pending = q.pending) := by
  unfold writeLine
  split
  · rename_i hlong
    have hk : 0 < kTxSize := by decide
    exact .inr ⟨rfl, by omega, rfl, rfl⟩
  · split
    · rename_i hfull
      exact .inr ⟨rfl, (makeRoom_room line).1 hfull, rfl, pending_makeRoom _⟩
    · rename_i hroom
      refine .inl ⟨rfl, Nat.le_of_not_lt fun h => hroom ((makeRoom_room line).2 h), ?_⟩
      rw [service_spec, pending_append, pending_makeRoom]

/-- A USB that takes nothing. -/
theorem service_idle : (q.service []).taken = [] ∧ (q.service []).writes = [] := by
  unfold service
  split
  · exact ⟨rfl, rfl⟩
  · exact ⟨List.take_zero (l := q.pending), rfl⟩

theorem writeLine_idle (line : CStr) : (q.writeLine line []).2.taken = [] ∧ (q.writeLine line []).2.writes = [] := by
  unfold writeLine
  split
  · exact ⟨rfl, rfl⟩
  · split
    · exact ⟨rfl, rfl⟩
    · exact service_idle

/-- A USB that takes everything drains the queue. -/
theorem service_drains (n : ℕ) (writes : List UsbWrite) (h : kTxSize ≤ n) :
    (q.service (.takes n :: writes)).queue = {} := by
  unfold service
  split
  · rfl
  · have hlen : q.pending.length ≤ n := by
      have := q.length_le
      have := length_pending (q := q)
      omega
    have hoffset := q.offset_le
    show q.take (min n q.pending.length) (Nat.min_le_right ..) = {}
    unfold take
    rw [if_pos]
    rw [Nat.min_eq_right hlen, length_pending]
    omega

end TxQueue

/-! ## Any calls, with any value returned by USB -/

/-- A call with the value that its USB write returns, if it comes to one. -/
inductive Call where
  | writeLine (line : CStr) (written : UInt32)
  | serviceTx (written : UInt32)

def Call.written : Call → UInt32
  | .writeLine _ written | .serviceTx written => written

/-- The answer that a returned value is to an offer of `offered` bytes. -/
def UsbWrite.ofReturned (offered : ℕ) (written : UInt32) : UsbWrite :=
  if offered < written.toNat then .broken else .takes written.toNat

/-- The bytes that reach USB when a write of the bytes offered returns `written`. -/
def delivers (offered : CStr) (written : UInt32) : CStr :=
  if written.toNat ≤ offered.length then offered.take written.toNat else []

/-- The queue, the bytes delivered so far, and the lines accepted so far. -/
structure Traffic where
  queue : TxQueue := {}
  delivered : CStr := []
  accepted : List CStr := []

namespace Traffic

/-- What a `write_line` does to the queue, and whether it accepts the line. -/
def writeLine (t : Traffic) (line : CStr) (written : UInt32) : Bool × Drained :=
  t.queue.writeLine line [.ofReturned (t.queue.pending.length + line.length + 1) written]

/-- The bytes that a call offers to USB. -/
def offered (t : Traffic) : Call → CStr
  | .writeLine line written =>
    if (t.writeLine line written).1 then t.queue.pending ++ line ++ [lineFeed] else []
  | .serviceTx _ => t.queue.pending

def call (t : Traffic) (c : Call) : Traffic where
  queue :=
    match c with
    | .writeLine line written => (t.writeLine line written).2.queue
    | .serviceTx written => (t.queue.service [.ofReturned t.queue.pending.length written]).queue
  delivered := t.delivered ++ delivers (t.offered c) c.written
  accepted :=
    match c with
    | .writeLine line written => if (t.writeLine line written).1 then t.accepted ++ [line] else t.accepted
    | .serviceTx _ => t.accepted

/-- The bytes of the accepted lines, each with its line feed. -/
def acceptedBytes (t : Traffic) : CStr := t.accepted.flatMap (· ++ [lineFeed])

end Traffic

@[simp] theorem delivers_nil (written : UInt32) : delivers [] written = [] := by
  unfold delivers
  split_ifs <;> simp

/-- `service_tx` delivers what USB says it took of the pending bytes, or nothing. -/
theorem TxQueue.service_taken (q : TxQueue) (written : UInt32) :
    (q.service [.ofReturned q.pending.length written]).taken = delivers q.pending written := by
  unfold service
  split_ifs with hall
  · have hnone : q.pending = [] := List.drop_eq_nil_of_le (Nat.le_of_eq hall.symm)
    rw [hnone, delivers_nil]
  · unfold delivers UsbWrite.ofReturned
    rw [List.headD_cons]
    split_ifs with hmore hle
    · omega
    · rfl
    · rfl
    · omega

theorem TxQueue.writeLine_taken {q : TxQueue} {line : CStr} {writes : List UsbWrite} (written : UInt32)
    (hw : writes = [.ofReturned (q.pending.length + line.length + 1) written])
    (h : (q.writeLine line writes).1 = true) :
    (q.writeLine line writes).2.taken = delivers (q.pending ++ line ++ [lineFeed]) written := by
  unfold writeLine at h ⊢
  split_ifs at h ⊢ with hlong hfull
  have hpending := pending_append (q := q.makeRoom line.length) line hfull
  rw [pending_makeRoom] at hpending
  have hlen : q.pending.length + line.length + 1 = ((q.makeRoom line.length).append line hfull).pending.length := by
    simp only [hpending, List.length_append, List.length_singleton]
  rw [hw, hlen]
  exact (service_taken _ _).trans (by rw [hpending])

namespace Traffic

/-- One call keeps the bytes in order: a line that is accepted goes behind what is pending. -/
theorem call_bytes (t : Traffic) (c : Call) (h : t.delivered ++ t.queue.pending = t.acceptedBytes) :
    (t.call c).delivered ++ (t.call c).queue.pending = (t.call c).acceptedBytes := by
  cases c with
  | serviceTx written =>
    show (t.delivered ++ delivers t.queue.pending written) ++ _ = t.acceptedBytes
    rw [← TxQueue.service_taken, List.append_assoc, ← h]
    exact congrArg _ (TxQueue.service_spec _)
  | writeLine line written =>
    rcases TxQueue.writeLine_spec (q := t.queue) line
        [.ofReturned (t.queue.pending.length + line.length + 1) written] with
      ⟨hacc, -, hbytes⟩ | ⟨href, -, -, hkept⟩
    · have hacc' : (t.writeLine line written).1 = true := hacc
      have htaken := TxQueue.writeLine_taken written rfl hacc
      simp only [call, offered, hacc', if_true, Call.written, acceptedBytes, List.flatMap_append,
        List.flatMap_singleton]
      rw [← htaken, List.append_assoc]
      calc t.delivered ++ _ = t.delivered ++ (t.queue.pending ++ line ++ [lineFeed]) := congrArg _ hbytes
        _ = t.acceptedBytes ++ (line ++ [lineFeed]) := by rw [← h]; simp only [List.append_assoc]
    · have href' : (t.writeLine line written).1 = false := href
      simp only [call, offered, href', Bool.false_eq_true, if_false, delivers_nil, List.append_nil, acceptedBytes]
      exact (congrArg _ hkept).trans h

/-- After any calls, whatever USB returned in them: the cursors are in bounds, the bytes delivered and
then the pending ones are those of the accepted lines, and the next line is refused exactly when it
does not fit beside the pending bytes, which a refusal leaves alone. -/
theorem transmit_fifo (calls : List Call) :
    let t := Run.exec call {} calls
    (t.queue.offset ≤ t.queue.bytes.length ∧ t.queue.bytes.length ≤ kTxSize) ∧
      t.delivered ++ t.queue.pending = t.acceptedBytes ∧
      ∀ line written,
        ((t.writeLine line written).1 = false ↔ kTxSize < t.queue.pending.length + line.length + 1) ∧
        ((t.writeLine line written).1 = false →
          (t.call (.writeLine line written)).queue.pending = t.queue.pending) := by
  intro t
  refine ⟨⟨t.queue.offset_le, t.queue.length_le⟩, ?_, fun line written => ?_⟩
  · exact Run.invariant_all (I := fun t : Traffic => t.delivered ++ t.queue.pending = t.acceptedBytes) call_bytes calls rfl
  · rcases TxQueue.writeLine_spec (q := t.queue) line
        [.ofReturned (t.queue.pending.length + line.length + 1) written] with
      ⟨hacc, hfit, -⟩ | ⟨href, hfull, -, hkept⟩
    · have hacc' : (t.writeLine line written).1 = true := hacc
      rw [hacc']
      exact ⟨iff_of_false Bool.noConfusion (by omega), Bool.noConfusion⟩
    · exact ⟨iff_of_true href hfull, fun _ => hkept⟩

end Traffic

end RedMonkeyMpg.Setup
