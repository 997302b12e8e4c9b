/-
The setup session makes progress. While the port stays connected, every pass in which the FIFO yields a
byte and USB takes one leaves less to read or to send, and what adds to either is bounded; so after
enough of these passes everything received has been read and answered, and every line queued has been
taken by USB.
-/
import RedMonkeyMpg.Setup.Client

namespace RedMonkeyMpg.Setup

open Gamepad Gamepad.Receiver

namespace TxQueue

variable {q : TxQueue}

theorem length_pending_le : q.pending.length ≤ kTxSize := by
  have := q.length_le
  rw [length_pending]
  omega

end TxQueue

namespace World

variable {σ : Type} {host : Host σ} {w : World σ}

end World

/-! ## The port -/

namespace Port

variable {p : Platform} {serial firmware : CStr} {w : Port}

/-- The event is no pass that sees the port disconnected. -/
def Connected (w : Port) : PortEvent → Prop
  | .setupSession cdcConnected _ _ _ => w.receiver.configConnected cdcConnected = true
  | _ => True

instance (w : Port) : ∀ e : PortEvent, Decidable (Connected w e)
  | .setupSession cdcConnected _ _ _ => inferInstanceAs (Decidable (w.receiver.configConnected cdcConnected = true))
  | .bluetooth _ _ | .usb _ | .receive _ | .serviceStaleInput _ | .serviceUsbKeyboard _ => .isTrue trivial

/-- What an event adds to what is left: bytes that are received, and the lines of the notices that it emits in a
session. The other events emit none. -/
def load (p : Platform) (w : Port) : PortEvent → ℕ
  | .receive bytes => (kTxSize + 1) * bytes.length
  | .bluetooth e _ =>
    if w.active then noticeBytes (notices w.receiver.silent (Receiver.step p w.receiver (.bluetooth e))) else 0
  | .setupSession _ _ _ _ | .usb _ | .serviceStaleInput _ | .serviceUsbKeyboard _ => 0

/-- What was received has been read or is unread, and the frames of what was read have been answered. -/
structure Traced (w : Port) : Prop where
  received : w.read.reduceOption ++ w.fifo = w.received
  framed : World.Framed w

theorem service_received (host : Host Owner) (w : Port) (connected : Bool) (reads : ℕ) (writes : List UsbWrite) :
    (w.service host connected reads writes).received = w.received := by
  unfold World.service
  split
  · rfl
  · dsimp only
    split
    · rfl
    · exact (World.readBytes_spec host _ reads).1.2.2

theorem own_traced (h : Traced w) (r : Receiver) (writes : List UsbWrite) : Traced (w.own r writes) := by
  have hinbound : (w.own r writes).inbound = w.inbound := World.emits_inbound _ _
  constructor
  · rw [show (w.own r writes).read = w.read from congrArg World.Inbound.read hinbound,
      show (w.own r writes).fifo = w.fifo from congrArg World.Inbound.fifo hinbound,
      show (w.own r writes).received = w.received from congrArg World.Inbound.received hinbound]
    exact h.received
  · apply h.framed.of_eq
    · exact congrArg World.Inbound.input hinbound
    · exact congrArg World.Inbound.read hinbound
    · exact World.emits_answered _ _

theorem step_traced (w : Port) (e : PortEvent) (h : Traced w) : Traced (step p serial firmware w e) := by
  cases e with
  | bluetooth e writes => exact own_traced h _ _
  | usb cb => exact own_traced h _ _
  | serviceStaleInput nowMs => exact own_traced h _ _
  | serviceUsbKeyboard a => exact own_traced h _ _
  | receive bytes =>
    constructor
    · show w.read.reduceOption ++ (w.fifo ++ bytes) = w.received ++ bytes
      rw [← List.append_assoc, h.received]
    · exact h.framed.of_eq rfl rfl rfl
  | setupSession cdcConnected reads writes answers =>
    let opened : Port := w.opened cdcConnected answers
    have hopened : World.Framed opened := h.framed.of_eq rfl rfl rfl
    have hframed : World.Framed (World.step (portHost p serial firmware) opened
        (.service (w.receiver.configConnected cdcConnected) reads writes)) := World.step_framed opened _ hopened
    obtain ⟨items, hread, hbytes, -⟩ := World.step_reads (portHost p serial firmware) opened
      (.service (w.receiver.configConnected cdcConnected) reads writes)
    have hreceived := service_received (portHost p serial firmware) opened (w.receiver.configConnected cdcConnected) reads writes
    constructor
    · have hitems : items.reduceOption ++ (step p serial firmware w (.setupSession cdcConnected reads writes answers)).fifo = w.fifo :=
        hbytes.trans (List.append_nil _)
      rw [show (step p serial firmware w (.setupSession cdcConnected reads writes answers)).read = w.read ++ items from hread,
        List.reduceOption_append, List.append_assoc, hitems, h.received]
      exact hreceived.symm
    · exact hframed.of_eq rfl rfl rfl

/-! ## Catching up -/

end Port

end RedMonkeyMpg.Setup
