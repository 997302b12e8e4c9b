/-
Sessions behind a pass that saw the port disconnected. The pass forgets the unfinished request and the
transmit queue, but what USB received and the service did not read stays in the receive FIFO and is
read in the next session. The requests of later sessions are the frames of the bytes received after
the pass exactly when every byte that stayed is a line feed or a carriage return.
-/
import RedMonkeyMpg.Setup.Answers

namespace RedMonkeyMpg.Setup

namespace World

variable {σ : Type} {host : Host σ} {w : World σ}

/-! ## What a run reads -/

/-- The bytes that an event receives. -/
def Event.bytes : Event σ → List UInt8
  | .receive bytes => bytes
  | _ => []

/-- The event is not a pass that sees the port disconnected. -/
def Event.Connected : Event σ → Prop
  | .service connected _ _ => connected = true
  | _ => True

/-- What is read is what was unread before and what is received, in order, less what is unread then;
without a pass that sees the port disconnected there is no cut in it. -/
def Reads (w v : World σ) (received : List UInt8) (connected : Prop) : Prop :=
  ∃ items, v.read = w.read ++ items ∧ items.reduceOption ++ v.fifo = w.fifo ++ received ∧
    (connected → ∃ bytes : List UInt8, items = bytes.map some)

theorem reduceOption_map_some {α : Type*} (l : List α) : (l.map some).reduceOption = l := by
  simp [List.reduceOption]

theorem Reads.of_inbound {v : World σ} (h : v.inbound = w.inbound) (connected : Prop) : Reads w v [] connected := by
  refine ⟨[], ?_, ?_, fun _ => ⟨[], rfl⟩⟩
  · rw [List.append_nil]
    exact congrArg Inbound.read h
  · rw [List.append_nil]
    exact congrArg Inbound.fifo h

theorem step_reads (host : Host σ) (w : World σ) (e : Event σ) : Reads w (w.step host e) e.bytes e.Connected := by
  cases e with
  | receive bytes => exact ⟨[], (List.append_nil _).symm, rfl, fun _ => ⟨[], rfl⟩⟩
  | owner s => exact .of_inbound rfl _
  | emit notice writes => exact .of_inbound (emit_inbound (w := { w with writes := writes }) notice) _
  | service connected reads writes =>
    unfold step service
    cases connected with
    | false =>
      refine ⟨[none], rfl, ?_, fun h => absurd h Bool.false_ne_true⟩
      show w.fifo = w.fifo ++ []
      rw [List.append_nil]
    | true =>
      simp only [Bool.not_true, Bool.false_eq_true, if_false]
      split
      · exact .of_inbound rfl _
      · obtain ⟨⟨hread, hfifo, -⟩, -⟩ := readBytes_spec host ({ w with active := true, writes := writes } : World σ).serviceTx reads
        refine ⟨_, hread, ?_, fun _ => ⟨_, rfl⟩⟩
        show _ ++ (readBytes host _ reads).fifo = w.fifo ++ []
        rw [hfifo, reduceOption_map_some, List.append_nil]
        exact List.take_append_drop ..

theorem exec_reads (host : Host σ) (w : World σ) (es : List (Event σ)) :
    Reads w (Run.exec (step host) w es) (es.flatMap Event.bytes) (∀ e ∈ es, e.Connected) := by
  induction es generalizing w with
  | nil => exact .of_inbound rfl _
  | cons e es ih =>
    obtain ⟨items, hread, hbytes, hconn⟩ := step_reads host w e
    obtain ⟨more, hread', hbytes', hconn'⟩ := ih (w.step host e)
    refine ⟨items ++ more, ?_, ?_, fun hall => ?_⟩
    · rw [Run.exec_cons, hread', hread, List.append_assoc]
    · rw [Run.exec_cons, List.reduceOption_append, List.append_assoc, hbytes', ← List.append_assoc, hbytes,
        List.append_assoc, List.flatMap_cons]
    · rw [List.forall_mem_cons] at hall
      obtain ⟨bytes, rfl⟩ := hconn hall.1
      obtain ⟨bytes', rfl⟩ := hconn' hall.2
      exact ⟨bytes ++ bytes', List.map_append.symm⟩

/-! ## What later sessions see -/

/-- The same service with a record that starts anew. -/
def renewed (w : World σ) : World σ := { w with received := [], read := [], log := [], sent := [] }

/-- A run of the service from a renewed record. -/
def later (host : Host σ) (w : World σ) (es : List (Event σ)) : World σ := Run.exec (step host) w.renewed es

/-- Nothing from before is seen in the run behind it. -/
structure IsolatedIn (host : Host σ) (w : World σ) (es : List (Event σ)) : Prop where
  -- the unread bytes of before are part of no request
  requests : (later host w es).answered = framing.frames (Framing.dropItems w.fifo.length (later host w es).read)
  -- in the first session the requests are those of the bytes received in it
  session : (∀ e ∈ es, e.Connected) →
    (later host w es).answered <+: framing.frames ((es.flatMap Event.bytes).map some) ∧
      ((later host w es).fifo = [] →
        (later host w es).answered = framing.frames ((es.flatMap Event.bytes).map some))
  -- what USB takes are lines queued in the session
  written : (later host w es).sent ++ (later host w es).tx.pending = queuedBytes (later host w es).log

def Isolated (host : Host σ) (w : World σ) : Prop := ∀ es, IsolatedIn host w es

/-- Two services that are isolated and have read the same bytes have handled the same requests. -/
theorem Isolated.same_requests {u : World σ} (hw : Isolated host w) (hu : Isolated host u) {es : List (Event σ)}
    (hc : ∀ e ∈ es, e.Connected) (hwread : (later host w es).fifo = []) (huread : (later host u es).fifo = []) :
    (later host w es).answered = (later host u es).answered := by
  rw [((hw es).session hc).2 hwread, ((hu es).session hc).2 huread]

theorem idle_iff {b : UInt8} : framing.idle b = true ↔ b = lineFeed ∨ b = carriageReturn := by
  simp [Framing.idle, framing]

/-- A service without an unfinished request and with an empty queue. -/
structure Closed (w : World σ) : Prop where
  input : w.input = {}
  tx : w.tx = {}

theorem Closed.framed (h : Closed w) : Framed w.renewed := ⟨h.input.trans framing.stateOf_nil.symm, rfl⟩

theorem Closed.streamed (h : Closed w) : Streamed w.renewed := by
  refine ⟨?_, fun e he => absurd he List.not_mem_nil⟩
  show [] ++ w.tx.pending = []
  rw [h.tx]
  rfl

theorem isolated_of_idle (hclosed : Closed w) (h : ∀ b ∈ w.fifo, framing.idle b = true) : Isolated host w := by
  intro es
  have hframed : Framed (later host w es) := exec_framed host es hclosed.framed
  have hstreamed : Streamed (later host w es) := exec_streamed host es hclosed.streamed
  obtain ⟨items, hread, hbytes, hconn⟩ := exec_reads host w.renewed es
  replace hread : (later host w es).read = items := hread
  replace hbytes : items.reduceOption ++ (later host w es).fifo = w.fifo ++ es.flatMap Event.bytes := hbytes
  have hrequests : (later host w es).answered = framing.frames (Framing.dropItems w.fifo.length (later host w es).read) := by
    rw [hframed.answered, hread]
    apply framing.frames_dropItems
    intro b hb
    apply h b
    have htake : items.reduceOption.take w.fifo.length <+: w.fifo := by
      have hprefix : items.reduceOption <+: w.fifo ++ es.flatMap Event.bytes := ⟨_, hbytes⟩
      have := hprefix.take w.fifo.length
      rwa [List.take_left] at this
    exact htake.subset hb
  refine ⟨hrequests, fun hc => ?_, hstreamed.stream⟩
  obtain ⟨bytes, rfl⟩ := hconn hc
  rw [reduceOption_map_some] at hbytes
  rw [hrequests, hread, Framing.dropItems_map]
  have hdrop := congrArg (List.drop w.fifo.length) hbytes
  rw [List.drop_left, List.drop_append] at hdrop
  refine ⟨framing.frames_prefix (List.IsPrefix.map some ⟨_, hdrop⟩), fun hnone => ?_⟩
  rw [hnone, List.drop_nil, List.append_nil] at hdrop
  rw [hdrop]

/-! ## Reading what stayed -/

/-- A pass that reads all it may, with a USB that takes everything. -/
def fullPass : Event σ := .service true kMaxBytesPerService [.takes kTxSize]

theorem fullPass_fifo (w : World σ) : (w.step host fullPass).fifo = w.fifo.drop kMaxBytesPerService := by
  have htx : (({ w with active := true, writes := [.takes kTxSize] } : World σ).serviceTx).tx = {} :=
    w.tx.service_drains kTxSize [] (Nat.le_refl _)
  show (w.service host true kMaxBytesPerService [.takes kTxSize]).fifo = _
  unfold service
  simp only [Bool.not_true, Bool.false_eq_true, if_false]
  rw [if_neg (by rw [htx]; exact not_not_intro rfl)]
  obtain ⟨⟨-, hfifo, -⟩, -⟩ :=
    readBytes_spec host ({ w with active := true, writes := [.takes kTxSize] } : World σ).serviceTx kMaxBytesPerService
  show (readBytes host _ kMaxBytesPerService).fifo = _
  rw [hfifo, Nat.min_self]
  rfl

theorem fullPasses_fifo (n : ℕ) (w : World σ) :
    (Run.exec (step host) w (List.replicate n fullPass)).fifo = w.fifo.drop (n * kMaxBytesPerService) := by
  induction n generalizing w with
  | zero => rw [Nat.zero_mul]; rfl
  | succ n ih =>
    rw [List.replicate_succ, Run.exec_cons, ih, fullPass_fifo, List.drop_drop]
    congr 1
    ring

theorem idle_of_isolated (hclosed : Closed w) (h : Isolated host w) : ∀ b ∈ w.fifo, framing.idle b = true := by
  intro b hb
  by_contra hidle
  rw [Bool.not_eq_true] at hidle
  -- a line feed is received, and everything is read
  set es : List (Event σ) := .receive [lineFeed] :: List.replicate (w.fifo.length + 1) fullPass with hes
  have hconnected : ∀ e ∈ es, e.Connected := by
    rw [hes, List.forall_mem_cons]
    refine ⟨trivial, fun e he => ?_⟩
    rw [List.eq_of_mem_replicate he]
    rfl
  have hreceived : es.flatMap Event.bytes = [lineFeed] := by
    rw [hes, List.flatMap_cons, List.flatMap_eq_nil_iff.2]
    · rfl
    · intro e he
      rw [List.eq_of_mem_replicate he]
      rfl
  have hall : (later host w es).fifo = [] := by
    show (Run.exec (step host) (step host w.renewed (.receive [lineFeed])) _).fifo = []
    rw [fullPasses_fifo]
    apply List.drop_eq_nil_of_le
    show (w.fifo ++ [lineFeed]).length ≤ _
    rw [List.length_append, List.length_singleton]
    exact Nat.le_mul_of_pos_right _ (by decide)
  -- the bytes that stayed are in a frame, and those received are in none
  have hanswered := ((h es).session hconnected).2 hall
  have hframed : Framed (later host w es) := exec_framed host es hclosed.framed
  rw [hreceived, hframed.answered] at hanswered
  obtain ⟨items, hread, hbytes, hconn⟩ := exec_reads host w.renewed es
  obtain ⟨bytes, rfl⟩ := hconn hconnected
  rw [reduceOption_map_some, hreceived] at hbytes
  replace hbytes : bytes ++ (later host w es).fifo = w.fifo ++ [lineFeed] := hbytes
  rw [hall, List.append_nil] at hbytes
  replace hread : (later host w es).read = bytes.map some := hread
  rw [hread, hbytes] at hanswered
  have hends : framing.ends lineFeed = true := rfl
  exact framing.framesFrom_ne_nil hends (.inr ⟨b, hb, hidle⟩) hanswered

/-- Over every run up to a pass that sees the port disconnected and every run behind it: nothing of the
earlier sessions is in the later ones exactly when what is unread at the pass are line feeds and
carriage returns. -/
theorem isolated_iff (host : Host σ) (s : σ) (es : List (Event σ)) (reads : ℕ) (writes : List UsbWrite) :
    Isolated host (Run.exec (step host) { host := s } (es ++ [.service false reads writes])) ↔
      ∀ b ∈ (Run.exec (step host) { host := s } es).fifo, b = lineFeed ∨ b = carriageReturn := by
  rw [Run.exec_concat]
  set w := Run.exec (step host) { host := s } es
  have hclosed : Closed (w.step host (.service false reads writes)) := ⟨rfl, rfl⟩
  simp only [← idle_iff]
  constructor
  · intro h b hb
    exact idle_of_isolated hclosed h b hb
  · intro h
    exact isolated_of_idle hclosed h

/-- A session that closes with a request behind the 256 bytes of its one pass. -/
def leftover {σ : Type} : List (Event σ) :=
  [.receive (List.replicate 256 0x78 ++ cstr "\n\x7b\"protocol\":1,\"command\":\"START_SCAN\"\x7d\n"),
    .service true 256 [], .service false 0 []]

/-- The next session handles the request of the session before it, when it has only received a line
feed. -/
theorem leftover_handled :
    let host := gamepadHost Gamepad.Receiver.buildPlatform [] [] {}
    let s := Gamepad.Receiver.boot Gamepad.Receiver.buildPlatform (fun _ => none) (some fun _ => none)
    ¬ Isolated host (Run.exec (step host) { host := s } leftover) ∧
      (later host (Run.exec (step host) { host := s } leftover) [.receive [lineFeed], .service true 256 []]).answered =
        [.line (cstr "\x7b\"protocol\":1,\"command\":\"START_SCAN\"\x7d")] := by
  intro host s
  have hclosed : Closed (Run.exec (step host) { host := s } leftover) := ⟨rfl, rfl⟩
  refine ⟨fun h => ?_, by decide +kernel⟩
  have hbrace : ¬ ∀ b ∈ (Run.exec (step host) { host := s } leftover).fifo, framing.idle b = true := by decide +kernel
  exact hbrace (idle_of_isolated hclosed h)

end World

end RedMonkeyMpg.Setup
