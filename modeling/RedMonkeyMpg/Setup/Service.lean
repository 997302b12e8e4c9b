/-
The setup service between its owner and USB: the bytes that were received and not read, one pass of
`service`, notices and the owner's own steps between passes, and a record of what was read, of the
lines that were offered to the transmit queue and of what USB took. Over every run the lines answered
are the frames of what was read, and what USB took in a session, followed by what is pending, is the
queued lines of the session.
-/
import RedMonkeyMpg.Lib.Framing
import RedMonkeyMpg.Lib.Run
import RedMonkeyMpg.Setup.Line
import RedMonkeyMpg.Setup.Queue

namespace RedMonkeyMpg.Setup

open Framing (Frame)

def kInputSize : ℕ := 1025
def kMaxBytesPerService : ℕ := 256

def carriageReturn : UInt8 := 13

/-- The framing of request lines: a control byte invalidates its whole frame. -/
def framing : Framing UInt8 where
  ends b := b == lineFeed
  skipped b := b == carriageReturn
  bad b := b < 0x20
  limit := kInputSize - 1

/-! ## The record -/

/-- A line offered to the transmit queue, with the number of bytes that were pending in it and
whether it was queued; or a pass that saw the port disconnected. -/
inductive Entry where
  | response (frame : Frame UInt8) (reply : Reply) (pending : ℕ) (queued : Bool)
  | notice (notice : Notice) (pending : ℕ) (queued : Bool)
  | closed
  deriving DecidableEq

namespace Entry

/-- The frame an entry answers. -/
def frame : Entry → Option (Frame UInt8)
  | .response frame _ _ _ => some frame
  | _ => none

/-- The line is queued exactly when it fits beside what is pending. -/
def Honest : Entry → Prop
  | .response _ reply pending queued => queued = true ↔ pending + reply.line.length + 1 ≤ kTxSize
  | .notice n pending queued => queued = true ↔ pending + n.line.length + 1 ≤ kTxSize
  | .closed => True

/-- The bytes queued in the session after one more entry. -/
def queueUp (bytes : CStr) : Entry → CStr
  | .response _ reply _ queued => if queued then bytes ++ reply.line ++ [lineFeed] else bytes
  | .notice n _ queued => if queued then bytes ++ n.line ++ [lineFeed] else bytes
  | .closed => []

end Entry

/-- The bytes of the lines queued since the last pass that saw the port disconnected. -/
def queuedBytes (log : List Entry) : CStr := log.foldl Entry.queueUp []

/-! ## The service -/

structure World (σ : Type) where
  host : σ
  -- `ConfigService`
  input : Framing.State UInt8 := {}
  tx : TxQueue := {}
  active : Bool := false
  -- USB: what was received and not read, and its answers to the writes of the pass
  fifo : List UInt8 := []
  writes : List UsbWrite := []
  -- the record; in `read`, `none` is a pass that saw the port disconnected
  received : List UInt8 := []
  read : List (Option UInt8) := []
  log : List Entry := []
  sent : CStr := []

variable {σ : Type}

namespace World

def serviceTx (w : World σ) : World σ :=
  let drained := w.tx.service w.writes
  { w with tx := drained.queue, writes := drained.writes, sent := w.sent ++ drained.taken }

def writeLine (w : World σ) (line : CStr) (entry : ℕ → Bool → Entry) : World σ :=
  let written := w.tx.writeLine line w.writes
  { w with
    tx := written.2.queue
    writes := written.2.writes
    sent := w.sent ++ written.2.taken
    log := w.log ++ [entry w.tx.pending.length written.1] }

/-- `respond`. -/
def respond (w : World σ) (frame : Frame UInt8) (reply : Reply) : World σ :=
  w.writeLine reply.line (.response frame reply)

/-- `emit_scan_result` and `emit_pairing_state`. -/
def emit (w : World σ) (notice : Notice) : World σ :=
  if !w.active then w else w.writeLine notice.line (.notice notice)

variable (host : Host σ)

/-- `handle_line`, with its notices and its response. -/
def handle (w : World σ) (line : CStr) : World σ :=
  let handled := handleLine host w.host line
  (handled.notices.foldl emit { w with host := handled.host }).respond (.line line) handled.reply

/-- One byte of the loop of `service`. -/
def readByte (w : World σ) (byte : UInt8) : World σ :=
  let pushed := framing.push w.input byte
  let w := { w with input := pushed.1, read := w.read ++ [some byte] }
  match pushed.2 with
  | none => w
  | some (.line line) => w.handle host line
  | some .rejected => w.respond .rejected (.error .frameTooLarge)

/-- The loop of `service`; `reads` is how many reads succeed before one returns nothing. -/
def readBytes (w : World σ) (reads : ℕ) : World σ :=
  (w.fifo.take (min kMaxBytesPerService reads)).foldl (readByte host)
    { w with fifo := w.fifo.drop (min kMaxBytesPerService reads) }

/-- `ConfigService::service`. -/
def service (w : World σ) (connected : Bool) (reads : ℕ) (writes : List UsbWrite) : World σ :=
  if !connected then
    -- the receive FIFO keeps its bytes
    { w with
      active := false
      input := {}
      tx := .empty
      writes := []
      read := w.read ++ [none]
      log := w.log ++ [.closed]
      sent := [] }
  else
    let w := { w with active := true, writes := writes }.serviceTx
    if w.tx.bytes.length ≠ 0 then w else (w.readBytes host reads).serviceTx

/-- What happens to the service: bytes received over USB, a pass, a notice between passes, a step of
the owner between passes. -/
inductive Event (σ : Type) where
  | receive (bytes : List UInt8)
  | service (connected : Bool) (reads : ℕ) (writes : List UsbWrite)
  | emit (notice : Notice) (writes : List UsbWrite)
  | owner (host : σ)

def step (w : World σ) : Event σ → World σ
  | .receive bytes => { w with fifo := w.fifo ++ bytes, received := w.received ++ bytes }
  | .service connected reads writes => w.service host connected reads writes
  | .emit notice writes => { w with writes := writes }.emit notice
  | .owner s => { w with host := s }

/-! ## What writing leaves alone -/

/-- The receiving side of the service. -/
structure Inbound where
  input : Framing.State UInt8
  fifo : List UInt8
  received : List UInt8
  read : List (Option UInt8)

def inbound (w : World σ) : Inbound where
  input := w.input
  fifo := w.fifo
  received := w.received
  read := w.read

/-- The sending side of the service. -/
structure Outbound where
  tx : TxQueue
  writes : List UsbWrite
  sent : CStr
  log : List Entry
  active : Bool

def outbound (w : World σ) : Outbound where
  tx := w.tx
  writes := w.writes
  sent := w.sent
  log := w.log
  active := w.active

variable {host} {w : World σ}

@[simp] theorem respond_inbound (frame : Frame UInt8) (reply : Reply) : (w.respond frame reply).inbound = w.inbound := rfl

@[simp] theorem emit_inbound (notice : Notice) : (w.emit notice).inbound = w.inbound := by
  unfold emit
  split <;> rfl

theorem emits_inbound (notices : List Notice) (w : World σ) : (notices.foldl emit w).inbound = w.inbound := by
  induction notices generalizing w with
  | nil => rfl
  | cons notice notices ih => rw [List.foldl_cons, ih, emit_inbound]

theorem emits_host (notices : List Notice) (w : World σ) : (notices.foldl emit w).host = w.host := by
  induction notices generalizing w with
  | nil => rfl
  | cons notice notices ih =>
    rw [List.foldl_cons, ih]
    unfold emit
    split <;> rfl

theorem emits_active (notices : List Notice) (w : World σ) : (notices.foldl emit w).active = w.active := by
  induction notices generalizing w with
  | nil => rfl
  | cons notice notices ih =>
    rw [List.foldl_cons, ih]
    unfold emit
    split <;> rfl

theorem handle_inbound (line : CStr) : (w.handle host line).inbound = w.inbound := by
  unfold handle
  rw [respond_inbound, emits_inbound]
  rfl

/-! ## The frames that are answered -/

/-- The frames answered so far. -/
def answered (w : World σ) : List (Frame UInt8) := w.log.filterMap Entry.frame

@[simp] theorem respond_answered (frame : Frame UInt8) (reply : Reply) :
    (w.respond frame reply).answered = w.answered ++ [frame] := by
  simp [answered, respond, writeLine, Entry.frame]

@[simp] theorem emit_answered (notice : Notice) : (w.emit notice).answered = w.answered := by
  unfold emit
  split
  · rfl
  · simp [answered, writeLine, Entry.frame]

theorem emits_answered (notices : List Notice) (w : World σ) : (notices.foldl emit w).answered = w.answered := by
  induction notices generalizing w with
  | nil => rfl
  | cons notice notices ih => rw [List.foldl_cons, ih, emit_answered]

theorem handle_answered (line : CStr) : (w.handle host line).answered = w.answered ++ [.line line] := by
  unfold handle
  rw [respond_answered, emits_answered]
  rfl

/-- What reading one byte does: it is read, the framing moves, and a frame that it completes is
answered. -/
theorem readByte_spec (host : Host σ) (w : World σ) (byte : UInt8) :
    (w.readByte host byte).inbound =
        { w.inbound with input := (framing.push w.input byte).1, read := w.read ++ [some byte] } ∧
      (w.readByte host byte).answered = w.answered ++ (framing.push w.input byte).2.toList := by
  unfold readByte
  dsimp only
  cases (framing.push w.input byte).2 with
  | none => exact ⟨rfl, (List.append_nil _).symm⟩
  | some frame =>
    cases frame with
    | line line =>
      refine ⟨?_, ?_⟩
      · rw [handle_inbound]
        rfl
      · rw [handle_answered]
        rfl
    | rejected =>
      refine ⟨rfl, ?_⟩
      rw [respond_answered]
      rfl

/-- The framing state is that of the bytes since the last cut, and the frames answered are those of
what was read. -/
structure Framed (w : World σ) : Prop where
  input : w.input = framing.stateOf (framing.current w.read)
  answered : w.answered = framing.frames w.read

theorem Framed.of_eq {v : World σ} (h : Framed w) (hinput : v.input = w.input) (hread : v.read = w.read)
    (ha : v.answered = w.answered) : Framed v :=
  ⟨by rw [hinput, hread, h.input], by rw [ha, hread, h.answered]⟩

theorem readByte_framed (h : Framed w) (byte : UInt8) : Framed (w.readByte host byte) := by
  obtain ⟨hi, ha⟩ := readByte_spec host w byte
  obtain ⟨hpush, hframes⟩ := framing.push_stream w.read byte
  have hinput : (w.readByte host byte).input = (framing.push w.input byte).1 := congrArg Inbound.input hi
  have hread : (w.readByte host byte).read = w.read ++ [some byte] := congrArg Inbound.read hi
  rw [h.input, hpush] at hinput ha
  exact ⟨by rw [hinput, hread], by rw [ha, hread, hframes, h.answered]⟩

/-- What reading some bytes does to the receiving side. -/
theorem readByte_fold_spec (host : Host σ) (bytes : List UInt8) (w : World σ) :
    ((bytes.foldl (readByte host) w).read = w.read ++ bytes.map some ∧
      (bytes.foldl (readByte host) w).fifo = w.fifo ∧ (bytes.foldl (readByte host) w).received = w.received) ∧
      (Framed w → Framed (bytes.foldl (readByte host) w)) := by
  induction bytes generalizing w with
  | nil => exact ⟨⟨(List.append_nil _).symm, rfl, rfl⟩, id⟩
  | cons byte bytes ih =>
    obtain ⟨⟨hread, hfifo, hreceived⟩, hframed⟩ := ih (w.readByte host byte)
    have hi := (readByte_spec host w byte).1
    rw [List.foldl_cons, hread, hfifo, hreceived]
    refine ⟨⟨?_, congrArg Inbound.fifo hi, congrArg Inbound.received hi⟩, fun h => hframed (readByte_framed h byte)⟩
    rw [show (w.readByte host byte).read = w.read ++ [some byte] from congrArg Inbound.read hi]
    simp

/-- What a pass reads. -/
theorem readBytes_spec (host : Host σ) (w : World σ) (reads : ℕ) :
    ((w.readBytes host reads).read = w.read ++ (w.fifo.take (min kMaxBytesPerService reads)).map some ∧
      (w.readBytes host reads).fifo = w.fifo.drop (min kMaxBytesPerService reads) ∧
      (w.readBytes host reads).received = w.received) ∧
      (Framed w → Framed (w.readBytes host reads)) := by
  obtain ⟨hspec, hframed⟩ := readByte_fold_spec host (w.fifo.take (min kMaxBytesPerService reads))
    { w with fifo := w.fifo.drop (min kMaxBytesPerService reads) }
  exact ⟨hspec, fun h => hframed (h.of_eq rfl rfl rfl)⟩

theorem step_framed (w : World σ) (e : Event σ) (h : Framed w) : Framed (w.step host e) := by
  cases e with
  | receive bytes => exact h.of_eq rfl rfl rfl
  | owner s => exact h.of_eq rfl rfl rfl
  | emit notice writes =>
    have hi := emit_inbound (w := { w with writes := writes }) notice
    exact h.of_eq (congrArg Inbound.input hi) (congrArg Inbound.read hi) (emit_answered (w := { w with writes := writes }) notice)
  | service connected reads writes =>
    unfold step service
    cases connected with
    | false =>
      refine ⟨?_, ?_⟩
      · show ({} : Framing.State UInt8) = framing.stateOf (framing.current (w.read ++ [none]))
        rw [framing.current_abandoned, framing.stateOf_nil]
      · show (w.log ++ [Entry.closed]).filterMap Entry.frame = framing.frames (w.read ++ [none])
        rw [framing.frames_abandoned, ← h.answered]
        simp [answered, Entry.frame]
    | true =>
      have hopen : Framed ({ w with active := true, writes := writes } : World σ).serviceTx := h.of_eq rfl rfl rfl
      simp only [Bool.not_true, Bool.false_eq_true, if_false]
      split
      · exact hopen
      · exact ((readBytes_spec host _ reads).2 hopen).of_eq rfl rfl rfl

/-! ## What reading does to the sending side -/

/-- What the service may answer: a line's reply, or that a frame was rejected. -/
def Answer (host : Host σ) (reply : Reply) : Prop :=
  reply = .error .frameTooLarge ∨ ∃ s line, reply = (handleLine host s line).reply

/-- The rule for the loop of a pass: what is said of the sending side only, and kept by every response
and every notice, is kept by the loop. -/
theorem readBytes_keeps {I : World σ → Prop} (hcongr : ∀ {v u : World σ}, I u → v.outbound = u.outbound → I v)
    (hrespond : ∀ {v : World σ} (frame : Frame UInt8) {reply : Reply}, Answer host reply → I v → I (v.respond frame reply))
    (hemit : ∀ {v : World σ} (notice : Notice), I v → I (v.emit notice)) (reads : ℕ) (h : I w) :
    I (w.readBytes host reads) := by
  have hemits : ∀ (notices : List Notice) (v : World σ), I v → I (notices.foldl emit v) := by
    intro notices
    induction notices with
    | nil => exact fun _ hv => hv
    | cons notice notices ih => exact fun v hv => ih _ (hemit notice hv)
  have hread : ∀ (v : World σ) (byte : UInt8), I v → I (v.readByte host byte) := by
    intro v byte hv
    have hpushed : I { v with input := (framing.push v.input byte).1, read := v.read ++ [some byte] } := hcongr hv rfl
    unfold readByte
    dsimp only
    split
    · exact hpushed
    · rename_i line _
      apply hrespond _ (.inr ⟨_, line, rfl⟩)
      exact hemits _ _ (hcongr hpushed rfl)
    · exact hrespond _ (.inl rfl) hpushed
  have hfold : ∀ (bytes : List UInt8) (v : World σ), I v → I (bytes.foldl (readByte host) v) := by
    intro bytes
    induction bytes with
    | nil => exact fun _ hv => hv
    | cons byte bytes ih => exact fun v hv => ih _ (hread v byte hv)
  exact hfold _ _ (hcongr h rfl)

/-- The same rule for a step: the property says nothing of the answers of the pass either, and it is kept
by `service_tx` and by a pass that sees the port disconnected. -/
theorem step_keeps {I : World σ → Prop}
    (hcongr : ∀ {v u : World σ}, I u → v.tx = u.tx → v.sent = u.sent → v.log = u.log → I v)
    (hserviceTx : ∀ {v : World σ}, I v → I v.serviceTx)
    (hrespond : ∀ {v : World σ} (frame : Frame UInt8) {reply : Reply}, Answer host reply → I v → I (v.respond frame reply))
    (hemit : ∀ {v : World σ} (notice : Notice), I v → I (v.emit notice))
    (hclosed : ∀ {v : World σ} (reads : ℕ) (writes : List UsbWrite), I v → I (v.service host false reads writes))
    (w : World σ) (e : Event σ) (h : I w) : I (w.step host e) := by
  cases e with
  | receive bytes => exact hcongr h rfl rfl rfl
  | owner s => exact hcongr h rfl rfl rfl
  | emit notice writes => exact hemit notice (hcongr h rfl rfl rfl)
  | service connected reads writes =>
    cases connected with
    | false => exact hclosed reads writes h
    | true =>
      have hopen : I ({ w with active := true, writes := writes } : World σ).serviceTx :=
        hserviceTx (hcongr h rfl rfl rfl)
      unfold step service
      simp only [Bool.not_true, Bool.false_eq_true, if_false]
      split
      · exact hopen
      · apply hserviceTx
        refine readBytes_keeps ?_ hrespond hemit reads hopen
        intro v u hu heq
        exact hcongr hu (congrArg Outbound.tx heq) (congrArg Outbound.sent heq) (congrArg Outbound.log heq)

/-! ## The lines that are queued -/

/-- What USB took in the session and what is pending are the session's queued lines, and a line was
queued exactly when it fit. -/
structure Streamed (w : World σ) : Prop where
  stream : w.sent ++ w.tx.pending = queuedBytes w.log
  honest : ∀ e ∈ w.log, e.Honest

theorem Streamed.of_eq {v : World σ} (h : Streamed w) (htx : v.tx = w.tx) (hsent : v.sent = w.sent)
    (hlog : v.log = w.log) : Streamed v :=
  ⟨by rw [htx, hsent, hlog, h.stream], by rw [hlog]; exact h.honest⟩

theorem queuedBytes_concat (log : List Entry) (e : Entry) : queuedBytes (log ++ [e]) = e.queueUp (queuedBytes log) := by
  rw [queuedBytes, List.foldl_append]
  rfl

theorem serviceTx_streamed (h : Streamed w) : Streamed w.serviceTx := by
  refine ⟨?_, h.honest⟩
  show w.sent ++ (w.tx.service w.writes).taken ++ (w.tx.service w.writes).queue.pending = _
  rw [List.append_assoc, w.tx.service_spec]
  exact h.stream

theorem writeLine_streamed (h : Streamed w) {line : CStr} {entry : ℕ → Bool → Entry}
    (hqueue : ∀ n queued bytes, (entry n queued).queueUp bytes = if queued then bytes ++ line ++ [lineFeed] else bytes)
    (hhonest : ∀ n queued, (queued = true ↔ n + line.length + 1 ≤ kTxSize) → (entry n queued).Honest) :
    Streamed (w.writeLine line entry) := by
  have hspec := w.tx.writeLine_spec line w.writes
  unfold writeLine
  dsimp only
  generalize w.tx.writeLine line w.writes = written at hspec ⊢
  refine ⟨?_, ?_⟩
  · rw [queuedBytes_concat, hqueue, ← h.stream]
    rcases hspec with ⟨hq, -, hbytes⟩ | ⟨hq, -, htaken, hpending⟩
    · rw [hq, if_pos rfl, List.append_assoc, hbytes]
      simp only [List.append_assoc]
    · rw [hq, if_neg Bool.false_ne_true, htaken, hpending, List.append_nil]
  · intro e he
    rcases List.mem_append.1 he with he | he
    · exact h.honest e he
    · rw [List.mem_singleton.1 he]
      apply hhonest
      rcases hspec with ⟨hq, hfits, -⟩ | ⟨hq, hfull, -⟩
      · exact iff_of_true hq hfits
      · exact iff_of_false (by simp [hq]) (Nat.not_le.2 hfull)

theorem respond_streamed (h : Streamed w) (frame : Frame UInt8) (reply : Reply) : Streamed (w.respond frame reply) :=
  writeLine_streamed h (fun _ _ _ => rfl) fun _ _ hq => hq

theorem emit_streamed (h : Streamed w) (notice : Notice) : Streamed (w.emit notice) := by
  unfold emit
  split
  · exact h
  · exact writeLine_streamed h (fun _ _ _ => rfl) fun _ _ hq => hq

theorem step_streamed (w : World σ) (e : Event σ) (h : Streamed w) : Streamed (w.step host e) := by
  refine step_keeps ?_ ?_ ?_ ?_ ?_ w e h
  · intro v u hu htx hsent hlog
    exact hu.of_eq htx hsent hlog
  · intro v hv
    exact serviceTx_streamed hv
  · intro v frame reply _ hv
    exact respond_streamed hv frame reply
  · intro v notice hv
    exact emit_streamed hv notice
  · intro v reads writes hv
    refine ⟨?_, ?_⟩
    · show [] = queuedBytes (v.log ++ [.closed])
      rw [queuedBytes_concat]
      rfl
    · intro e he
      rcases List.mem_append.1 he with he | he
      · exact hv.honest e he
      · rw [List.mem_singleton.1 he]
        trivial

/-! ## Runs -/

theorem exec_framed (host : Host σ) (es : List (Event σ)) (h : Framed w) : Framed (Run.exec (step host) w es) :=
  Run.invariant_all step_framed es h

theorem exec_streamed (host : Host σ) (es : List (Event σ)) (h : Streamed w) : Streamed (Run.exec (step host) w es) :=
  Run.invariant_all step_streamed es h

theorem start_framed (s : σ) : Framed ({ host := s } : World σ) := ⟨framing.stateOf_nil.symm, rfl⟩

theorem start_streamed (s : σ) : Streamed ({ host := s } : World σ) :=
  ⟨rfl, fun _ h => absurd h List.not_mem_nil⟩

end World

end RedMonkeyMpg.Setup
