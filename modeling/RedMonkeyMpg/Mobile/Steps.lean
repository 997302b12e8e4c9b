/-
What one event does to the motion state of the iPhone receiver: the desired report, the neutral
lock, the mapper and the time of the last frame. A command write is refused or accepted; every
other event leaves the motion state alone, unless it is a fault, which closes it.
-/
import RedMonkeyMpg.Mobile.Receiver

namespace RedMonkeyMpg.Mobile

/-! ## Kinds of events -/

/-- The buffer of a write that reaches the session: to the command characteristic, and whole. -/
def Write.commandBuffer (w : Write) : Option (List UInt8) :=
  if w.handle = .command ∧ w.transactionMode = kAttTransactionModeNone ∧ w.offset = 0 then some w.buffer
  else none

namespace Receiver

/-- The buffer of a command write. -/
def Event.commandBuffer : Event → Option (List UInt8)
  | .bluetooth (.write w) => w.commandBuffer
  | _ => none

/-- The receiver's next command is this frame. -/
def Accepts (r : Receiver) (e : UInt32 × Event) (buffer : List UInt8) (frame : MobileFrame) : Prop :=
  e.2.commandBuffer = some buffer ∧ (r.session.consume buffer e.1).2 = .ok frame

/-- The faults: a refused frame, a cancel event, a connect, a disconnect, a stale release, and a
USB pass that sees a mount change or has its report refused. -/
def Fault (r : Receiver) (e : UInt32 × Event) : Prop :=
  match e.2 with
  | .bluetooth (.write w) =>
    ∃ buffer, w.commandBuffer = some buffer ∧ ∀ frame, (r.session.consume buffer e.1).2 = .ok frame →
      frame.input.cancel = true
  | .bluetooth (.connectionComplete _) => True
  | .bluetooth .disconnectionComplete => True
  | .bluetooth (.canSendNow _) => False
  | .usb _ => False
  | .serviceUsbKeyboard a => (r.usb.service a).fault = true
  | .serviceTimeout => r.staleKey e.1 = true

/-- An event that left the motion state alone. -/
structure Quiet (r r' : Receiver) : Prop where
  desired : r'.usb.desired = r.usb.desired
  neutralRequired : r'.neutralRequired = r.neutralRequired
  mapper : r'.mapper = r.mapper
  lastValidMs : r'.lastValidMs = r.lastValidMs

/-- An event that closed the receiver: no key wanted, a neutral frame needed, the mapper reset. -/
structure Closed (r r' : Receiver) : Prop where
  desired : r'.usb.desired = .release
  neutralRequired : r'.neutralRequired = true
  mapper : r'.mapper = r.mapper.reset

/-! ## Small steps -/

section Fields

variable {r : Receiver} {nowMs : UInt32} {frame : MobileFrame} {direction : UInt8}

@[simp] theorem emit_usb (o : Output) : (r.emit o).usb = r.usb := rfl

@[simp] theorem emit_neutralRequired (o : Output) : (r.emit o).neutralRequired = r.neutralRequired := rfl

@[simp] theorem emit_mapper (o : Output) : (r.emit o).mapper = r.mapper := rfl

@[simp] theorem emit_lastValidMs (o : Output) : (r.emit o).lastValidMs = r.lastValidMs := rfl

/-- A status request changes the outputs only. -/
theorem requestStatusNotification_eq (r : Receiver) :
    ∃ outputs, r.requestStatusNotification = { r with outputs := outputs } := by
  unfold requestStatusNotification emit
  split
  · exact ⟨_, rfl⟩
  · exact ⟨r.outputs, rfl⟩

@[simp] theorem requestStatusNotification_usb : r.requestStatusNotification.usb = r.usb := by
  obtain ⟨o, h⟩ := r.requestStatusNotification_eq
  rw [h]

@[simp] theorem requestStatusNotification_neutralRequired :
    r.requestStatusNotification.neutralRequired = r.neutralRequired := by
  obtain ⟨o, h⟩ := r.requestStatusNotification_eq
  rw [h]

@[simp] theorem requestStatusNotification_mapper : r.requestStatusNotification.mapper = r.mapper := by
  obtain ⟨o, h⟩ := r.requestStatusNotification_eq
  rw [h]

@[simp] theorem requestStatusNotification_lastValidMs :
    r.requestStatusNotification.lastValidMs = r.lastValidMs := by
  obtain ⟨o, h⟩ := r.requestStatusNotification_eq
  rw [h]

/-- Resetting the mapper is the mapper's branch of a disconnected sample. -/
theorem resetMapper_eq : r.resetMapper nowMs = { r with mapper := r.mapper.reset } := by
  unfold resetMapper
  rw [ControlMapper.update_reset (.inl rfl)]

@[simp] theorem publishRelease_usb : r.publishRelease.usb = r.usb.publishRelease := rfl

@[simp] theorem publishRelease_neutralRequired : r.publishRelease.neutralRequired = r.neutralRequired := rfl

@[simp] theorem publishRelease_mapper : r.publishRelease.mapper = r.mapper := rfl

@[simp] theorem publishRelease_lastValidMs : r.publishRelease.lastValidMs = r.lastValidMs := rfl

theorem failClosed_closed (r : Receiver) (error : UInt8) (nowMs : UInt32) : Closed r (r.failClosed error nowMs) := by
  constructor <;> simp [failClosed, resetMapper_eq]

theorem reject_closed : Closed r (r.reject nowMs) := by
  constructor <;> simp [reject, resetMapper_eq]

/-! ## An accepted frame -/

/-- The receiver of an accepted frame when the bridge is driven. -/
def armed (r : Receiver) (frame : MobileFrame) (direction : UInt8) (nowMs : UInt32) : Receiver :=
  (((r.record frame direction nowMs).gateNeutral frame direction).selectResolution frame).cancelEvent frame

theorem accept_eq : r.accept frame direction nowMs =
    ((r.armed frame direction nowMs).drive frame direction nowMs).requestStatusNotification.emit (.answer 0) :=
  rfl

theorem gateNeutral_eq (r : Receiver) (frame : MobileFrame) (direction : UInt8) :
    ∃ active, r.gateNeutral frame direction =
      { r with
        activeDirection := active
        neutralRequired := r.neutralRequired && !(!frame.input.deadman || direction == 0) } := by
  unfold gateNeutral
  cases !frame.input.deadman || direction == 0 with
  | true => exact ⟨0, by simp⟩
  | false =>
    cases r with
    | mk session handle sequence valid active resolution error profile notify neutral mapper usb outputs =>
      cases neutral with
      | true => exact ⟨0, rfl⟩
      | false => exact ⟨active, rfl⟩

theorem selectResolution_eq (r : Receiver) (frame : MobileFrame) :
    ∃ resolution, r.selectResolution frame = { r with resolution := resolution } := by
  unfold selectResolution
  split
  · exact ⟨_, rfl⟩
  · exact ⟨r.resolution, rfl⟩

theorem cancelEvent_eq (r : Receiver) (frame : MobileFrame) :
    ∃ active, r.cancelEvent frame =
      { r with activeDirection := active, neutralRequired := frame.input.cancel || r.neutralRequired } := by
  unfold cancelEvent
  cases frame.input.cancel with
  | true => exact ⟨0, rfl⟩
  | false => exact ⟨r.activeDirection, rfl⟩

/-- A cancel locks; without one a neutral frame unlocks and every other frame keeps the lock. -/
theorem armed_eq (r : Receiver) (frame : MobileFrame) (direction : UInt8) (nowMs : UInt32) :
    ∃ active resolution, r.armed frame direction nowMs =
      { r.record frame direction nowMs with
        activeDirection := active
        resolution := resolution
        neutralRequired :=
          frame.input.cancel || (r.neutralRequired && !(!frame.input.deadman || direction == 0)) } := by
  obtain ⟨active, hg⟩ := (r.record frame direction nowMs).gateNeutral_eq frame direction
  unfold armed
  rw [hg]
  obtain ⟨resolution, hs⟩ := selectResolution_eq _ frame
  rw [hs]
  obtain ⟨active', hc⟩ := cancelEvent_eq _ frame
  rw [hc]
  exact ⟨active', resolution, rfl⟩

/-- A locked receiver releases on a held direction; otherwise the mapper's frame is published. -/
theorem drive_cases (r : Receiver) (frame : MobileFrame) (direction : UInt8) (nowMs : UInt32) :
    (r.neutralRequired = true ∧ frame.input.deadman = true ∧ direction ≠ 0 ∧
      r.drive frame direction nowMs = { r with mapper := r.mapper.reset, usb := r.usb.publishRelease }) ∨
    ((r.neutralRequired = false ∨ frame.input.deadman = false ∨ direction = 0) ∧
      r.drive frame direction nowMs =
        { r with
          mapper := (r.mapper.update frame.input nowMs).1
          usb := r.usb.publish
            (cncControllerKeyboardReport .massoG3Touch513 (r.mapper.update frame.input nowMs).2)
          activeDirection := if (r.mapper.update frame.input nowMs).2.hasJog then direction else 0 }) := by
  unfold drive
  split
  · rename_i h
    simp only [Bool.and_eq_true, bne_iff_ne] at h
    refine .inl ⟨h.1.1, h.1.2, h.2, ?_⟩
    rw [resetMapper_eq]
    rfl
  · rename_i h
    refine .inr ⟨?_, rfl⟩
    by_contra hno
    simp only [not_or, Bool.not_eq_false] at hno
    exact h (by simp [hno.1, hno.2.1, hno.2.2])

end Fields

/-! ## One event -/

variable {r : Receiver} {e : UInt32 × Event} {buffer : List UInt8} {frame : MobileFrame}

theorem commandBuffer_write {w : Write} (h : w.commandBuffer = some buffer) (nowMs : UInt32) :
    r.writeCallback w nowMs = r.commandWrite buffer nowMs := by
  unfold Write.commandBuffer at h
  split_ifs at h with hw
  cases h
  simp [writeCallback, hw.1, hw.2.1, hw.2.2]

/-- A command write as an event. -/
theorem step_commandWrite (h : e.2.commandBuffer = some buffer) :
    r.step e = r.silent.commandWrite buffer e.1 := by
  obtain ⟨nowMs, ev⟩ := e
  cases ev with
  | bluetooth b =>
    cases b with
    | write w => exact commandBuffer_write h nowMs
    | _ => cases h
  | _ => cases h

theorem commandWrite_ok {nowMs : UInt32} (h : (r.session.consume buffer nowMs).2 = .ok frame) :
    r.commandWrite buffer nowMs =
      { r with session := (r.session.consume buffer nowMs).1 }.accept frame (buffer.getD 4 0) nowMs := by
  unfold commandWrite
  split
  · rename_i hc
    rw [hc] at h
    cases h
  · rename_i hc
    rw [hc] at h ⊢
    cases h
    rfl

theorem commandWrite_error {nowMs : UInt32} (h : ∀ frame, (r.session.consume buffer nowMs).2 ≠ .ok frame) :
    r.commandWrite buffer nowMs = { r with session := (r.session.consume buffer nowMs).1 }.reject nowMs := by
  unfold commandWrite
  split
  · rename_i hc
    rw [hc]
  · rename_i frame hc
    exact absurd (by rw [hc]) (h frame)

/-- A refused frame closes the receiver. -/
theorem step_rejected (h : e.2.commandBuffer = some buffer)
    (hr : ∀ frame, (r.session.consume buffer e.1).2 ≠ .ok frame) :
    Closed r (r.step e) := by
  rw [step_commandWrite h, commandWrite_error (r := r.silent) hr]
  obtain ⟨hd, hn, hm⟩ := reject_closed (r := { r.silent with session := (r.session.consume buffer e.1).1 })
  exact ⟨hd, hn, hm⟩

/-- What an accepted frame does to the motion state. -/
structure Accepted (r r' : Receiver) (frame : MobileFrame) (direction : UInt8) (nowMs : UInt32) : Prop where
  neutralRequired : r'.neutralRequired =
    (frame.input.cancel || (r.neutralRequired && !(!frame.input.deadman || direction == 0)))
  lastValidMs : r'.lastValidMs = nowMs
  driven : (r'.neutralRequired = true ∧ frame.input.deadman = true ∧ direction ≠ 0 ∧
      r'.usb.desired = .release ∧ r'.mapper = r.mapper.reset) ∨
    ((r'.neutralRequired = false ∨ frame.input.deadman = false ∨ direction = 0) ∧
      r'.usb.desired = cncControllerKeyboardReport .massoG3Touch513 (r.mapper.update frame.input nowMs).2 ∧
      r'.mapper = (r.mapper.update frame.input nowMs).1)

theorem accept_accepted (r : Receiver) (frame : MobileFrame) (direction : UInt8) (nowMs : UInt32) :
    Accepted r (r.accept frame direction nowMs) frame direction nowMs := by
  obtain ⟨active, resolution, ha⟩ := armed_eq r frame direction nowMs
  rw [accept_eq]
  rcases drive_cases (r.armed frame direction nowMs) frame direction nowMs with
    ⟨hn, hd, hdir, h⟩ | ⟨hopen, h⟩
  · rw [h, ha]
    rw [ha] at hn
    exact ⟨by simp, by simp [record], .inl ⟨by simpa using hn, hd, hdir, by simp, by simp [record]⟩⟩
  · rw [h, ha]
    rw [ha] at hopen
    exact ⟨by simp, by simp [record], .inr ⟨by simpa using hopen, by simp [record], by simp [record]⟩⟩

theorem step_accepted (h : Accepts r e buffer frame) :
    Accepted r (r.step e) frame (buffer.getD 4 0) e.1 := by
  rw [step_commandWrite h.1, commandWrite_ok (r := r.silent) h.2]
  obtain ⟨hn, hv, hd⟩ := accept_accepted
    { r.silent with session := (r.session.consume buffer e.1).1 } frame (buffer.getD 4 0) e.1
  exact ⟨hn, hv, hd⟩

/-- A write that is not a command changes the subscription and the outputs only. -/
theorem writeCallback_other_eq {w : Write} (h : w.commandBuffer = none) (nowMs : UInt32) :
    ∃ notify outputs, r.writeCallback w nowMs = { r with notifyEnabled := notify, outputs := outputs } := by
  unfold Write.commandBuffer at h
  simp only [writeCallback]
  split
  · split
    · exact ⟨_, _, rfl⟩
    · obtain ⟨outputs, hrequest⟩ :=
        ({ r with notifyEnabled := w.buffer == [1, 0] } : Receiver).requestStatusNotification_eq
      rw [hrequest]
      exact ⟨_, _, rfl⟩
  · exact ⟨_, _, rfl⟩
  · rename_i hw
    split
    · exact ⟨_, _, rfl⟩
    · rename_i hplain
      simp only [not_or, not_not] at hplain
      simp [hw, hplain] at h

theorem writeCallback_other {w : Write} (h : w.commandBuffer = none) (nowMs : UInt32) :
    Quiet r (r.writeCallback w nowMs) := by
  obtain ⟨notify, outputs, heq⟩ := writeCallback_other_eq (r := r) h nowMs
  rw [heq]
  exact ⟨rfl, rfl, rfl, rfl⟩

/-- A pass of the sender changes the line, the error code, the lock, the mapper and the outputs only. -/
theorem serviceUsbKeyboard_eq (r : Receiver) (a : UsbAnswer) (nowMs : UInt32) :
    ∃ usb code required mapper outputs, r.serviceUsbKeyboard a nowMs =
      { r with usb := usb, errorCode := code, neutralRequired := required, mapper := mapper, outputs := outputs } := by
  have hnotify : ∀ (changed : Bool) (s : Receiver), ∃ outputs,
      (if changed then s.requestStatusNotification else s) = { s with outputs := outputs } := by
    intro changed s
    cases changed with
    | true => exact s.requestStatusNotification_eq
    | false => exact ⟨s.outputs, rfl⟩
  unfold serviceUsbKeyboard
  dsimp only
  obtain ⟨outputs, hrequest⟩ := hnotify (r.usb.keyboardMounted != r.usb.wasMounted) _
  rw [hrequest]
  split <;> split
  · rw [resetMapper_eq]
    exact ⟨_, _, _, _, _, rfl⟩
  · exact ⟨_, _, _, _, _, rfl⟩
  · rw [resetMapper_eq]
    exact ⟨_, _, _, _, _, rfl⟩
  · exact ⟨_, _, _, _, _, rfl⟩

/-- A USB pass without a fault leaves the motion state alone; a fault closes the receiver. -/
theorem serviceUsbKeyboard_cases (r : Receiver) (a : UsbAnswer) (nowMs : UInt32) :
    ((r.usb.service a).fault = false ∧ Quiet r (r.serviceUsbKeyboard a nowMs)) ∨
      ((r.usb.service a).fault = true ∧ Closed r (r.serviceUsbKeyboard a nowMs)) := by
  rcases r.usb.service_desired a with ⟨hf, hd⟩ | ⟨hf, hd⟩
  · refine .inl ⟨hf, ?_⟩
    unfold serviceUsbKeyboard
    simp only [hf]
    split <;> split <;> exact ⟨by simpa using hd, by simp, by simp, by simp⟩
  · refine .inr ⟨hf, ?_⟩
    unfold serviceUsbKeyboard
    simp only [hf]
    split <;> split <;>
      exact ⟨by simpa [resetMapper_eq] using hd, by simp [resetMapper_eq], by simp [resetMapper_eq]⟩

/-- Every event that is not a command write leaves the motion state alone unless it is a fault,
and a fault closes the receiver. -/
theorem step_other (h : e.2.commandBuffer = none) :
    (¬ Fault r e ∧ Quiet r (r.step e)) ∨ (Fault r e ∧ Closed r (r.step e)) := by
  obtain ⟨nowMs, ev⟩ := e
  cases ev with
  | bluetooth b =>
    cases b with
    | write w =>
      have hw : w.commandBuffer = none := h
      obtain ⟨hd, hn, hm, hv⟩ := writeCallback_other (r := r.silent) hw nowMs
      refine .inl ⟨?_, ⟨hd, hn, hm, hv⟩⟩
      rintro ⟨buffer, hb, -⟩
      rw [hw] at hb
      cases hb
    | connectionComplete handle =>
      refine .inr ⟨trivial, ?_⟩
      obtain ⟨hd, hn, hm⟩ := failClosed_closed
        { r.silent with connectionHandle := handle, session := {}, notifyEnabled := false } kErrorNone nowMs
      exact ⟨hd, hn, hm⟩
    | disconnectionComplete =>
      refine .inr ⟨trivial, ?_⟩
      obtain ⟨hd, hn, hm⟩ := failClosed_closed
        { r.silent with
          connectionHandle := kHciConHandleInvalid, notifyEnabled := false, session := {} } kErrorNone nowMs
      exact ⟨hd, hn, hm⟩
    | canSendNow a =>
      refine .inl ⟨id, ?_⟩
      simp only [step, bluetooth]
      split <;> exact ⟨rfl, rfl, rfl, rfl⟩
  | usb cb => exact .inl ⟨id, by cases cb <;> exact ⟨rfl, rfl, rfl, rfl⟩⟩
  | serviceUsbKeyboard a =>
    rcases r.silent.serviceUsbKeyboard_cases a nowMs with ⟨hf, hd, hn, hm, hv⟩ | ⟨hf, hd, hn, hm⟩
    · refine .inl ⟨fun hfault => ?_, ⟨hd, hn, hm, hv⟩⟩
      exact absurd (show (r.silent.usb.service a).fault = true from hfault) (by simp [hf])
    · exact .inr ⟨hf, hd, hn, hm⟩
  | serviceTimeout =>
    simp only [step, serviceTimeout]
    cases hs : r.silent.staleKey nowMs with
    | true =>
      refine .inr ⟨hs, ?_⟩
      obtain ⟨hd, hn, hm⟩ := failClosed_closed r.silent kErrorStale nowMs
      exact ⟨hd, hn, hm⟩
    | false =>
      refine .inl ⟨fun hfault => ?_, rfl, rfl, rfl, rfl⟩
      exact absurd (show r.silent.staleKey nowMs = true from hfault) (by simp [hs])

end Receiver

end RedMonkeyMpg.Mobile
