/-
The diagnostic build of the iPhone receiver beside the production build, on the same events, with
USB up in the production build. The diagnostic build takes the active direction from the frame, the
production build from its mapper, and the two time out on different tests. Both report the same
exactly as long as the mapper is free to follow every held direction and no step-selection key goes
stale.
-/
import RedMonkeyMpg.Mobile.Direction
import RedMonkeyMpg.Usb.Receivers

namespace RedMonkeyMpg.Mobile

def kStatusDiagnostic : UInt8 := 0x10

open Receiver

/-! ## The diagnostic build

The functions that differ in the build without the USB keyboard. It has the variables of the
production build less the mapper and the reports, which nothing here reads or writes. -/

namespace Bench

/-- `status_frame`, with `usb_ready` false and no part in the lock. -/
def statusFrame (r : Receiver) : List UInt8 :=
  let body : List UInt8 :=
    [0x53, kMobileProtocolVersion, r.lastSequence.toUInt8, (r.lastSequence >>> 8).toUInt8,
      kStatusBluetoothReady ||| (if r.neutralRequired then kStatusOutputLocked else 0) |||
        (if r.neutralRequired then kStatusNeutralRequired else 0) ||| kStatusDiagnostic,
      r.activeDirection, r.resolution, r.errorCode, r.controllerProfile]
  body ++ [mobileCrc8 body]

/-- A frame the session refused. -/
def reject (r : Receiver) : Receiver :=
  { r with activeDirection := 0, neutralRequired := true, errorCode := kErrorMalformed
    }.requestStatusNotification.emit (.answer kAttErrorValueNotAllowed)

/-- A frame the session accepted: the active direction is the frame's own. -/
def accept (r : Receiver) (frame : MobileFrame) (direction : UInt8) (nowMs : UInt32) : Receiver :=
  let r := ((r.record frame direction nowMs).gateNeutral frame direction).selectResolution frame
  (r.cancelEvent frame).requestStatusNotification.emit (.answer 0)

def commandWrite (r : Receiver) (buffer : List UInt8) (nowMs : UInt32) : Receiver :=
  match r.session.consume buffer nowMs with
  | (session, .error _) => reject { r with session := session }
  | (session, .ok frame) => accept { r with session := session } frame (buffer.getD 4 0) nowMs

/-- `write_callback`. -/
def writeCallback (r : Receiver) (w : Write) (nowMs : UInt32) : Receiver :=
  match w.handle with
  | .statusConfiguration =>
    if w.transactionMode ≠ kAttTransactionModeNone ∨ w.offset ≠ 0 ∨ w.buffer.length ≠ 2 then
      r.emit (.answer kAttErrorInvalidAttributeValueLength)
    else { r with notifyEnabled := w.buffer == [1, 0] }.requestStatusNotification.emit (.answer 0)
  | .other => r.emit (.answer 0)
  | .command =>
    if w.transactionMode ≠ kAttTransactionModeNone ∨ w.offset ≠ 0 then
      r.emit (.answer kAttErrorRequestNotSupported)
    else commandWrite r w.buffer nowMs

/-- `fail_closed`. -/
def failClosed (r : Receiver) (error : UInt8) : Receiver :=
  { r with
    activeDirection := 0, lastValidMs := 0, neutralRequired := true, errorCode := error
    }.requestStatusNotification

/-- `write_callback` and `packet_handler`. -/
def bluetooth (r : Receiver) (nowMs : UInt32) : BleEvent → Receiver
  | .write w => writeCallback r w nowMs
  | .connectionComplete handle =>
    failClosed { r with connectionHandle := handle, session := r.session.reset, notifyEnabled := false } kErrorNone
  | .disconnectionComplete =>
    failClosed
      { r with connectionHandle := kHciConHandleInvalid, notifyEnabled := false, session := r.session.reset }
      kErrorNone
  | .canSendNow _ =>
    if r.connectionHandle != kHciConHandleInvalid && r.notifyEnabled then
      r.emit (.notify r.connectionHandle (statusFrame r))
    else r

/-- The test of `service_timeout`: a direction is active on a frame older than the limit. -/
def staleDirection (r : Receiver) (nowMs : UInt32) : Bool :=
  r.activeDirection != 0 && r.lastValidMs != 0 && nowMs - r.lastValidMs > kStaleMs

/-- `service_timeout`. -/
def serviceTimeout (r : Receiver) (nowMs : UInt32) : Receiver :=
  if staleDirection r nowMs then failClosed r kErrorStale else r

end Bench

/-! ## The two builds side by side -/

/-- An event of both builds; the USB pass is one of the production build only. -/
inductive BuildEvent where
  | bluetooth (e : BleEvent)
  | serviceUsbKeyboard
  | serviceTimeout
  deriving DecidableEq

/-- The event in the production build: USB ready, and every send taken. -/
def BuildEvent.production : BuildEvent → Event
  | .bluetooth e => .bluetooth e
  | .serviceUsbKeyboard => .serviceUsbKeyboard { hidReady := true, taken := true }
  | .serviceTimeout => .serviceTimeout

/-- The event in the diagnostic build. -/
def Bench.step (r : Receiver) (e : UInt32 × BuildEvent) : Receiver :=
  match e.2 with
  | .bluetooth b => bluetooth r.silent e.1 b
  | .serviceUsbKeyboard => r.silent
  | .serviceTimeout => serviceTimeout r.silent e.1

structure Builds where
  production : Receiver
  bench : Receiver
  deriving DecidableEq

namespace Builds

def step (s : Builds) (e : UInt32 × BuildEvent) : Builds where
  production := s.production.step (e.1, e.2.production)
  bench := Bench.step s.bench e

/-- Both builds after boot, the production build mounted by its host and through its first pass. -/
def start : Builds where
  production := Run.exec Receiver.step {} [(0, .usb .mount), (0, .serviceUsbKeyboard {})]
  bench := {}

end Builds

/-- What a receiver reports of its motion state. -/
structure Reported where
  activeDirection : UInt8
  neutralRequired : Bool
  resolution : UInt8
  errorCode : UInt8
  deriving DecidableEq

def Receiver.reported (r : Receiver) : Reported where
  activeDirection := r.activeDirection
  neutralRequired := r.neutralRequired
  resolution := r.resolution
  errorCode := r.errorCode

/-- Both builds report the same after the event. -/
def Builds.Agrees (s : Builds) (e : UInt32 × BuildEvent) : Prop :=
  (s.step e).production.reported = (s.step e).bench.reported

instance (s : Builds) (e : UInt32 × BuildEvent) : Decidable (s.Agrees e) :=
  inferInstanceAs (Decidable (_ = _))

/-- The production build follows the frame: an accepted frame that is held in a direction, without
a newly delivered cancel and unlocked, finds the mapper awaiting no centre and no other axis locked;
and a timeout that finds a stale key finds a direction active. -/
structure FollowsFrame (r : Receiver) (e : UInt32 × BuildEvent) : Prop where
  frame : ∀ buffer frame, r.Accepts (e.1, e.2.production) buffer frame → flagsByte buffer &&& 0x01 ≠ 0 →
    directionByte buffer ≠ 0 → frame.input.cancel = false → r.neutralRequired = false →
    r.mapper.awaitingCenter = false ∧ (r.mapper.lockedAxis = none ∨
      r.mapper.lockedAxis = some (directionAxis (directionByte buffer)))
  timeout : e.2 = .serviceTimeout → r.staleKey e.1 = true → r.activeDirection ≠ 0

/-! ## What both builds decide by -/

structure Shared where
  session : MobileInputSession
  lastValidMs : UInt32
  reported : Reported
  deriving DecidableEq

namespace Receiver

def shared (r : Receiver) : Shared where
  session := r.session
  lastValidMs := r.lastValidMs
  reported := r.reported

section Fields

variable {r : Receiver} {frame : MobileFrame} {direction : UInt8} {nowMs : UInt32}

@[simp] theorem emit_shared (o : Output) : (r.emit o).shared = r.shared := rfl

@[simp] theorem requestStatusNotification_shared : r.requestStatusNotification.shared = r.shared := by
  obtain ⟨o, h⟩ := r.requestStatusNotification_eq
  rw [h]
  rfl

/-- The shared variables after an accepted frame, with the active direction each build decides. -/
def afterFrame (r : Receiver) (frame : MobileFrame) (direction : UInt8) (nowMs : UInt32) (active : UInt8) :
    Shared where
  session := r.session
  lastValidMs := nowMs
  reported :=
    { activeDirection := active
      neutralRequired := frame.input.cancel || (r.neutralRequired && !(!frame.input.deadman || direction == 0))
      resolution :=
        if frame.input.selectResolution then resolutionCode frame.input.selectedResolution else r.resolution
      errorCode := kErrorNone }

theorem afterFrame_reported_inj {r : Receiver} (frame : MobileFrame) (direction : UInt8) (nowMs : UInt32)
    {active active' : UInt8} : (r.afterFrame frame direction nowMs active).reported =
      (r.afterFrame frame direction nowMs active').reported ↔ active = active' := by
  simp [afterFrame]

/-- A frame that is neutral, cancels or meets the lock has no active direction. -/
def inactive (r : Receiver) (frame : MobileFrame) (direction : UInt8) : Bool :=
  !frame.input.deadman || direction == 0 || r.neutralRequired || frame.input.cancel

theorem armed_shared (r : Receiver) (frame : MobileFrame) (direction : UInt8) (nowMs : UInt32) :
    (r.armed frame direction nowMs).shared =
      r.afterFrame frame direction nowMs (if r.inactive frame direction then 0 else direction) := by
  unfold armed gateNeutral selectResolution cancelEvent record inactive
  cases hc : frame.input.cancel <;> cases hs : frame.input.selectResolution <;>
    cases hz : (!frame.input.deadman || direction == 0) <;> cases hn : r.neutralRequired <;>
    simp [shared, reported, afterFrame, hc, hs, hz, hn]

/-- The keyboard bridge decides the active direction anew. -/
theorem accept_shared (r : Receiver) (frame : MobileFrame) (direction : UInt8) (nowMs : UInt32) :
    (r.accept frame direction nowMs).shared =
      r.afterFrame frame direction nowMs
        (if r.inactive frame direction then 0
        else if (r.mapper.update frame.input nowMs).2.hasJog then direction else 0) := by
  have hmapper : (r.armed frame direction nowMs).mapper = r.mapper := by
    obtain ⟨active, resolution, ha⟩ := armed_eq r frame direction nowMs
    rw [ha]
    rfl
  have hneutral : (r.armed frame direction nowMs).neutralRequired =
      (frame.input.cancel || (r.neutralRequired && !(!frame.input.deadman || direction == 0))) := by
    obtain ⟨active, resolution, ha⟩ := armed_eq r frame direction nowMs
    rw [ha]
  have harmed := armed_shared r frame direction nowMs
  rw [accept_eq, emit_shared, requestStatusNotification_shared]
  rcases drive_cases (r.armed frame direction nowMs) frame direction nowMs with ⟨hn, hd, h0, h⟩ | ⟨hopen, h⟩
  · have hin : r.inactive frame direction = true := by
      rw [hneutral, Bool.or_eq_true, Bool.and_eq_true] at hn
      rcases hn with hc | ⟨hr, -⟩
      · simp [inactive, hc]
      · simp [inactive, hr]
    rw [if_pos hin] at harmed ⊢
    rw [h, ← harmed]
    rfl
  · rw [h, hmapper]
    have hrest : ∀ active : UInt8, ({ r.armed frame direction nowMs with activeDirection := active }).shared =
        r.afterFrame frame direction nowMs active := by
      intro active
      have hpick := congrArg (fun s : Shared => { s with reported := { s.reported with activeDirection := active } }) harmed
      exact hpick
    refine (hrest _).trans (congrArg _ ?_)
    by_cases hin : r.inactive frame direction = true
    · rw [if_pos hin]
      split_ifs with hj
      · obtain ⟨-, -, hcan, hdead, -⟩ := ControlMapper.update_jog hj
        simp only [inactive, hcan, hdead, Bool.not_true, Bool.false_or, Bool.or_false, Bool.or_eq_true,
          beq_iff_eq] at hin
        rcases hin with hz | hr
        · exact hz
        · rcases hopen with ho | ho | ho
          · rw [hneutral, hcan, hr, hdead] at ho
            simpa using ho
          · rw [hdead] at ho
            cases ho
          · exact ho
      · rfl
    · rw [if_neg hin]

/-- The shared variables of a receiver that was closed. -/
def closedWith (r : Receiver) (lastValidMs : UInt32) (error : UInt8) : Shared where
  session := r.session
  lastValidMs := lastValidMs
  reported :=
    { activeDirection := 0
      neutralRequired := true
      resolution := r.resolution
      errorCode := error }

theorem closedWith_reports {r' : Receiver} {lastValidMs : UInt32} {error : UInt8}
    (h : r'.shared = r.closedWith lastValidMs error) : r'.activeDirection = 0 ∧ r'.errorCode = error := by
  have hr : r'.reported = (r.closedWith lastValidMs error).reported := congrArg Shared.reported h
  exact ⟨congrArg Reported.activeDirection hr, congrArg Reported.errorCode hr⟩

theorem failClosed_shared (r : Receiver) (error : UInt8) (nowMs : UInt32) :
    (r.failClosed error nowMs).shared = r.closedWith 0 error := by
  unfold failClosed
  rw [requestStatusNotification_shared, resetMapper_eq]
  rfl

theorem reject_shared (r : Receiver) (nowMs : UInt32) :
    (r.reject nowMs).shared = r.closedWith r.lastValidMs kErrorMalformed := by
  unfold reject
  rw [emit_shared, requestStatusNotification_shared, resetMapper_eq]
  rfl

end Fields

end Receiver

namespace Bench

theorem failClosed_shared (r : Receiver) (error : UInt8) : (failClosed r error).shared = r.closedWith 0 error := by
  unfold failClosed
  rw [requestStatusNotification_shared]
  rfl

theorem reject_shared (r : Receiver) : (reject r).shared = r.closedWith r.lastValidMs kErrorMalformed := by
  unfold reject
  rw [emit_shared, requestStatusNotification_shared]
  rfl

theorem accept_shared (r : Receiver) (frame : MobileFrame) (direction : UInt8) (nowMs : UInt32) :
    (accept r frame direction nowMs).shared = (r.armed frame direction nowMs).shared := by
  unfold accept
  rw [emit_shared, requestStatusNotification_shared]
  rfl

end Bench

/-! ## One event in both builds -/

/-- The production build with USB up: its line is sampled, an active direction is a wanted key, and a
wanted key is clean of errors. -/
structure Receiver.Up (r : Receiver) : Prop where
  mapper : r.mapper.config = {}
  mounted : r.usb.keyboardMounted = true
  sampled : r.usb.wasMounted = true
  active : r.activeDirection ≠ 0 → reportHasKey r.usb.desired = true
  clean : reportHasKey r.usb.desired = true → r.errorCode = kErrorNone
  available : r.errorCode ≠ kErrorUsbUnavailable

section Events

variable {p b : Receiver} {e : UInt32 × BuildEvent} {buffer : List UInt8} {frame : MobileFrame}

theorem Bench.step_commandWrite (h : e.2.production.commandBuffer = some buffer) :
    Bench.step b e = Bench.commandWrite b.silent buffer e.1 := by
  obtain ⟨nowMs, ev⟩ := e
  cases ev with
  | bluetooth ble =>
    cases ble with
    | write w =>
      have hw : w.commandBuffer = some buffer := h
      unfold Write.commandBuffer at hw
      split_ifs at hw with hplain
      cases hw
      simp [Bench.step, Bench.bluetooth, Bench.writeCallback, hplain.1, hplain.2.1, hplain.2.2]
    | _ => cases h
  | _ => cases h

theorem Bench.commandWrite_ok {nowMs : UInt32} (h : (b.session.consume buffer nowMs).2 = .ok frame) :
    Bench.commandWrite b buffer nowMs =
      Bench.accept { b with session := (b.session.consume buffer nowMs).1 } frame (buffer.getD 4 0) nowMs := by
  unfold Bench.commandWrite
  split
  · rename_i hc
    rw [hc] at h
    cases h
  · rename_i hc
    rw [hc] at h ⊢
    cases h
    rfl

theorem Bench.commandWrite_error {nowMs : UInt32}
    (h : ∀ frame, (b.session.consume buffer nowMs).2 ≠ .ok frame) :
    Bench.commandWrite b buffer nowMs = Bench.reject { b with session := (b.session.consume buffer nowMs).1 } := by
  unfold Bench.commandWrite
  split
  · rename_i hc
    rw [hc]
  · rename_i frame hc
    exact absurd (by rw [hc]) (h frame)

/-- The shared variables of both builds after an accepted frame. -/
theorem accepted_shared (hs : p.shared = b.shared) (h : p.Accepts (e.1, e.2.production) buffer frame) :
    ∃ session, (p.step (e.1, e.2.production)).shared =
        { p with session := session }.afterFrame frame (directionByte buffer) e.1
          (if p.inactive frame (directionByte buffer) then 0
          else if (p.mapper.update frame.input e.1).2.hasJog then directionByte buffer else 0) ∧
      (Bench.step b e).shared =
        { p with session := session }.afterFrame frame (directionByte buffer) e.1
          (if p.inactive frame (directionByte buffer) then 0 else directionByte buffer) := by
  simp only [shared, reported, Shared.mk.injEq, Reported.mk.injEq] at hs
  obtain ⟨hsession, -, -, hneutral, hres, -⟩ := hs
  have hbench : (b.silent.session.consume buffer e.1).2 = .ok frame := by
    show (b.session.consume buffer e.1).2 = .ok frame
    rw [← hsession]
    exact h.2
  refine ⟨(p.session.consume buffer e.1).1, ?_, ?_⟩
  · rw [step_commandWrite h.1, Receiver.commandWrite_ok (r := p.silent) h.2, accept_shared]
    rfl
  · rw [Bench.step_commandWrite h.1, Bench.commandWrite_ok hbench, Bench.accept_shared, armed_shared]
    simp [afterFrame, inactive, silent, hsession, hneutral, hres, directionByte]

/-- They report the same exactly when the mapper follows the frame. -/
theorem accepted_agrees (hup : p.Up) (hs : p.shared = b.shared)
    (h : p.Accepts (e.1, e.2.production) buffer frame) :
    ((p.step (e.1, e.2.production)).reported = (Bench.step b e).reported ↔ FollowsFrame p e) ∧
      (FollowsFrame p e → (p.step (e.1, e.2.production)).shared = (Bench.step b e).shared) := by
  obtain ⟨session, hp, hb⟩ := accepted_shared hs h
  have hjogs := accepted_jogs_iff hup.mapper h
  have hfollows : FollowsFrame p e ↔ (p.inactive frame (directionByte buffer) = false →
      (p.mapper.update frame.input e.1).2.hasJog = true) := by
    have hactive : p.inactive frame (directionByte buffer) = false ↔ flagsByte buffer &&& 0x01 ≠ 0 ∧
        directionByte buffer ≠ 0 ∧ frame.input.cancel = false ∧ p.neutralRequired = false := by
      simp [inactive, h.deadman, and_assoc, and_comm, and_left_comm]
    rw [hactive]
    constructor
    · rintro hf ⟨hflag, h0, hcan, hopen⟩
      exact hjogs.2 ⟨hflag, h0, hcan, hf.frame buffer frame h hflag h0 hcan hopen⟩
    · intro hj
      constructor
      · intro buffer' frame' h' hflag h0 hcan hopen
        obtain rfl : buffer = buffer' := Option.some.inj (h.1.symm.trans h'.1)
        obtain rfl : frame = frame' := Except.ok.inj (h.2.symm.trans h'.2)
        exact (hjogs.1 (hj ⟨hflag, h0, hcan, hopen⟩)).2.2.2
      · intro ht
        have hbuf := h.1
        rw [ht] at hbuf
        cases hbuf
  have hsame : (p.step (e.1, e.2.production)).reported = (Bench.step b e).reported ↔
      (p.inactive frame (directionByte buffer) = false →
        (p.mapper.update frame.input e.1).2.hasJog = true) := by
    show (p.step (e.1, e.2.production)).shared.reported = (Bench.step b e).shared.reported ↔ _
    rw [hp, hb, afterFrame_reported_inj]
    cases hin : p.inactive frame (directionByte buffer) with
    | true => simp
    | false =>
      have h0 : directionByte buffer ≠ 0 := by
        intro h0
        simp [inactive, h0] at hin
      cases (p.mapper.update frame.input e.1).2.hasJog with
      | true => simp
      | false => simp [Ne.symm h0]
  refine ⟨hsame.trans hfollows.symm, fun hf => ?_⟩
  have hj := hfollows.1 hf
  rw [hp, hb]
  cases hin : p.inactive frame (directionByte buffer) with
  | true => rfl
  | false => rw [hj hin, if_pos rfl]

/-- A write that reaches no session is the same in both builds, and shares nothing. -/
theorem writeCallback_same {w : Write} (h : w.commandBuffer = none) (r : Receiver) (nowMs : UInt32) :
    (r.writeCallback w nowMs).shared = r.shared ∧ (Bench.writeCallback r w nowMs).shared = r.shared := by
  unfold Write.commandBuffer at h
  cases hh : w.handle with
  | statusConfiguration =>
    simp only [writeCallback, Bench.writeCallback, hh]
    split
    · exact ⟨rfl, rfl⟩
    · rw [emit_shared, requestStatusNotification_shared]
      exact ⟨rfl, rfl⟩
  | other =>
    simp only [writeCallback, Bench.writeCallback, hh]
    exact ⟨rfl, rfl⟩
  | command =>
    simp only [writeCallback, Bench.writeCallback, hh]
    split
    · exact ⟨rfl, rfl⟩
    · rename_i hplain
      simp only [not_or, not_not] at hplain
      simp [hh, hplain] at h

theorem Receiver.Up.silent (hup : p.Up) : p.silent.Up :=
  ⟨hup.mapper, hup.mounted, hup.sampled, hup.active, hup.clean, hup.available⟩

/-- With USB up a pass of the production build shares nothing, and keeps the wanted report. -/
theorem serviceUsbKeyboard_same (hup : p.Up) (nowMs : UInt32) :
    (p.serviceUsbKeyboard { hidReady := true, taken := true } nowMs).shared = p.shared ∧
      (p.usb.service { hidReady := true, taken := true }).fault = false := by
  have hsame : p.usb.keyboardMounted = p.usb.wasMounted := hup.mounted.trans hup.sampled.symm
  have hready : p.usb.keyboardReady { hidReady := true, taken := true } = true := by
    simp [UsbLine.keyboardReady, hup.mounted]
  have hfault : (p.usb.service { hidReady := true, taken := true }).fault = false := by
    rcases p.usb.service_cases { hidReady := true, taken := true } with
      ⟨hne, -⟩ | ⟨-, -, h⟩ | ⟨-, -, -, -, h⟩ | ⟨-, -, -, ht, -⟩
    · exact absurd hsame hne
    · rw [h]
    · rw [h]
    · cases ht
  refine ⟨?_, hfault⟩
  have herror : p.usbError true = p.errorCode := by simp [usbError, hup.available]
  unfold serviceUsbKeyboard
  simp only [hfault, hready, herror, hsame, bne_self_eq_false, Bool.false_eq_true, if_false]
  split <;> rfl

theorem rejected_shared (h : e.2.production.commandBuffer = some buffer)
    (hr : ∀ frame, (p.session.consume buffer e.1).2 ≠ .ok frame) :
    (p.step (e.1, e.2.production)).shared =
      { p with session := (p.session.consume buffer e.1).1 }.closedWith p.lastValidMs kErrorMalformed := by
  rw [step_commandWrite h, Receiver.commandWrite_error (r := p.silent) hr, reject_shared]
  rfl

/-- An event that is not an accepted frame, in the production build: it changes no report, or it
closes the receiver. -/
theorem production_other (hup : p.Up) (hno : ∀ buffer frame, ¬ p.Accepts (e.1, e.2.production) buffer frame) :
    ((p.step (e.1, e.2.production)).reported = p.reported ∧
        (p.step (e.1, e.2.production)).usb.desired = p.usb.desired) ∨
      ((p.step (e.1, e.2.production)).activeDirection = 0 ∧
        (p.step (e.1, e.2.production)).usb.desired = .release ∧
        (p.step (e.1, e.2.production)).errorCode ≠ kErrorUsbUnavailable) := by
  have hclosed : ∀ (r : Receiver) (error : UInt8), error ≠ kErrorUsbUnavailable →
      (r.failClosed error e.1).activeDirection = 0 ∧ (r.failClosed error e.1).usb.desired = .release ∧
        (r.failClosed error e.1).errorCode ≠ kErrorUsbUnavailable := by
    intro r error hne
    obtain ⟨hactive, herror⟩ := closedWith_reports (failClosed_shared r error e.1)
    exact ⟨hactive, (failClosed_closed r error e.1).desired, by rw [herror]; exact hne⟩
  obtain ⟨nowMs, ev⟩ := e
  cases ev with
  | bluetooth ble =>
    cases ble with
    | write w =>
      cases hw : w.commandBuffer with
      | none =>
        obtain ⟨hd, -, -, -⟩ := writeCallback_other (r := p.silent) hw nowMs
        exact .inl ⟨congrArg Shared.reported (writeCallback_same hw p.silent nowMs).1, hd⟩
      | some buffer =>
        have hb : (BuildEvent.bluetooth (.write w)).production.commandBuffer = some buffer := hw
        have hr : ∀ frame, (p.session.consume buffer nowMs).2 ≠ .ok frame := fun frame hf =>
          hno buffer frame ⟨hb, hf⟩
        obtain ⟨hactive, herror⟩ := closedWith_reports (rejected_shared (e := (nowMs, .bluetooth (.write w))) hb hr)
        refine .inr ⟨hactive, (step_rejected (r := p) (e := (nowMs, .bluetooth (.write w))) hb hr).desired, ?_⟩
        rw [herror]
        decide
    | connectionComplete handle => exact .inr (hclosed _ _ (by decide))
    | disconnectionComplete => exact .inr (hclosed _ _ (by decide))
    | canSendNow a =>
      refine .inl ?_
      simp only [step, BuildEvent.production, bluetooth]
      split <;> exact ⟨rfl, rfl⟩
  | serviceUsbKeyboard =>
    obtain ⟨hsh, hfault⟩ := serviceUsbKeyboard_same hup.silent nowMs
    refine .inl ⟨congrArg Shared.reported hsh, ?_⟩
    rcases p.silent.serviceUsbKeyboard_cases { hidReady := true, taken := true } nowMs with ⟨-, hq⟩ | ⟨hf, -⟩
    · exact hq.desired
    · rw [hfault] at hf
      cases hf
  | serviceTimeout =>
    simp only [step, BuildEvent.production, serviceTimeout]
    split
    · exact .inr (hclosed _ _ (by decide))
    · exact .inl ⟨rfl, rfl⟩

theorem isJog_key {report : KeyboardReport} (h : report.isJog = true) : reportHasKey report = true := by
  cases hk : reportHasKey report with
  | true => rfl
  | false =>
    rw [eq_release_of_noKey hk, release_notJog] at h
    cases h

/-- After an accepted frame an active direction is a wanted key, and no error is left. -/
theorem accepted_up (hup : p.Up) (h : p.Accepts (e.1, e.2.production) buffer frame) :
    ((p.step (e.1, e.2.production)).activeDirection ≠ 0 →
        reportHasKey (p.step (e.1, e.2.production)).usb.desired = true) ∧
      (p.step (e.1, e.2.production)).errorCode = kErrorNone := by
  obtain ⟨session, hp, -⟩ := accepted_shared rfl h
  have hr : (p.step (e.1, e.2.production)).reported = _ := congrArg Shared.reported hp
  refine ⟨fun hactive => ?_, congrArg Reported.errorCode hr⟩
  have hact : (p.step (e.1, e.2.production)).activeDirection = _ := congrArg Reported.activeDirection hr
  rw [hact] at hactive
  simp only [afterFrame] at hactive
  split_ifs at hactive with hin hj
  · exact absurd rfl hactive
  · have hj' : ControlMapper.Jogs p.mapper (frame.input, e.1) := hj
    have hcan := ((accepted_jogs_iff hup.mapper h).1 hj').2.2.1
    have hopen : p.neutralRequired = false := by
      simp only [inactive, Bool.or_eq_true, not_or, Bool.not_eq_true] at hin
      exact hin.1.2
    exact isJog_key ((step_driven h hcan hopen).2.2 hj')
  · exact absurd rfl hactive

/-- The production build stays up. -/
theorem step_up (hup : p.Up) : (p.step (e.1, e.2.production)).Up := by
  have hline : (p.step (e.1, e.2.production)).usb.keyboardMounted = true ∧
      (p.step (e.1, e.2.production)).usb.wasMounted = true := by
    have hperf := step_line p (e.1, e.2.production)
    cases hop : Event.lineOp e.2.production with
    | none =>
      rw [hop] at hperf
      obtain ⟨report, hline⟩ := hperf
      rw [hline]
      exact ⟨hup.mounted, hup.sampled⟩
    | some op =>
      rw [hop] at hperf
      have hservice : op = .service { hidReady := true, taken := true } := by
        revert hop
        cases e.2 with
        | serviceUsbKeyboard => exact fun hop => (Option.some.inj hop).symm
        | _ => exact fun hop => by cases hop
      have hline : (p.step (e.1, e.2.production)).usb = p.usb.step op := hperf
      rw [hline, hservice]
      constructor
      · exact (UsbLine.service_keyboardMounted _ _).trans hup.mounted
      · exact (UsbLine.service_sampled _ _).1.trans hup.mounted
  have hmapper := step_mapperConfig p (e.1, e.2.production) hup.mapper
  by_cases hacc : ∃ buffer frame, p.Accepts (e.1, e.2.production) buffer frame
  · obtain ⟨buffer, frame, hacc⟩ := hacc
    obtain ⟨hactive, herror⟩ := accepted_up hup hacc
    exact ⟨hmapper, hline.1, hline.2, hactive, fun _ => herror, by rw [herror]; decide⟩
  · push Not at hacc
    rcases production_other hup hacc with ⟨hrep, hdes⟩ | ⟨hactive, hdes, herror⟩
    · refine ⟨hmapper, hline.1, hline.2, ?_, ?_, ?_⟩
      · rw [hdes, show (p.step (e.1, e.2.production)).activeDirection = _ from congrArg Reported.activeDirection hrep]
        exact hup.active
      · rw [hdes, show (p.step (e.1, e.2.production)).errorCode = _ from congrArg Reported.errorCode hrep]
        exact hup.clean
      · rw [show (p.step (e.1, e.2.production)).errorCode = _ from congrArg Reported.errorCode hrep]
        exact hup.available
    · refine ⟨hmapper, hline.1, hline.2, fun hne => absurd hactive hne, fun hkey => ?_, herror⟩
      rw [hdes, reportHasKey_release] at hkey
      cases hkey

/-- An event that is neither an accepted frame nor a timeout leaves both builds the same. -/
theorem other_same (hup : p.Up) (hs : p.shared = b.shared) (ht : e.2 ≠ .serviceTimeout)
    (hno : ∀ buffer frame, ¬ p.Accepts (e.1, e.2.production) buffer frame) :
    (p.step (e.1, e.2.production)).shared = (Bench.step b e).shared := by
  have hfields := hs
  simp only [shared, reported, Shared.mk.injEq, Reported.mk.injEq] at hfields
  obtain ⟨hsession, hvalid, -, -, hres, -⟩ := hfields
  obtain ⟨nowMs, ev⟩ := e
  cases ev with
  | bluetooth ble =>
    cases ble with
    | write w =>
      cases hw : w.commandBuffer with
      | none => exact (writeCallback_same hw _ nowMs).1.trans (hs.trans (writeCallback_same hw b.silent nowMs).2.symm)
      | some buffer =>
        have hb : (BuildEvent.bluetooth (.write w)).production.commandBuffer = some buffer := hw
        have hr : ∀ frame, (p.session.consume buffer nowMs).2 ≠ .ok frame := fun frame hf =>
          hno buffer frame ⟨hb, hf⟩
        have hr' : ∀ frame, (b.silent.session.consume buffer nowMs).2 ≠ .ok frame := by
          show ∀ frame, (b.session.consume buffer nowMs).2 ≠ .ok frame
          rw [← hsession]
          exact hr
        rw [rejected_shared (e := (nowMs, .bluetooth (.write w))) hb hr,
          Bench.step_commandWrite (e := (nowMs, .bluetooth (.write w))) hb, Bench.commandWrite_error hr',
          Bench.reject_shared]
        simp [closedWith, silent, hsession, hvalid, hres]
    | connectionComplete handle =>
      refine (failClosed_shared _ _ _).trans (Eq.trans ?_ (Bench.failClosed_shared _ _).symm)
      simp [closedWith, silent, MobileInputSession.reset, hres]
    | disconnectionComplete =>
      refine (failClosed_shared _ _ _).trans (Eq.trans ?_ (Bench.failClosed_shared _ _).symm)
      simp [closedWith, silent, MobileInputSession.reset, hres]
    | canSendNow a =>
      have hp : (p.silent.bluetooth nowMs (.canSendNow a)).shared = p.shared := by
        simp only [bluetooth]
        split <;> rfl
      have hb : (Bench.bluetooth b.silent nowMs (.canSendNow a)).shared = b.shared := by
        simp only [Bench.bluetooth]
        split <;> rfl
      exact hp.trans (hs.trans hb.symm)
  | serviceUsbKeyboard => exact (serviceUsbKeyboard_same hup.silent nowMs).1.trans hs
  | serviceTimeout => exact absurd rfl ht

/-- A timeout: the builds report the same exactly when a stale key is one of an active direction. -/
theorem timeout_agrees (hup : p.Up) (hs : p.shared = b.shared) (ht : e.2 = .serviceTimeout) :
    ((p.step (e.1, e.2.production)).reported = (Bench.step b e).reported ↔ FollowsFrame p e) ∧
      (FollowsFrame p e → (p.step (e.1, e.2.production)).shared = (Bench.step b e).shared) := by
  obtain ⟨nowMs, ev⟩ := e
  obtain rfl : ev = .serviceTimeout := ht
  have hfollows : FollowsFrame p (nowMs, .serviceTimeout) ↔ (p.staleKey nowMs = true → p.activeDirection ≠ 0) := by
    constructor
    · exact fun hf => hf.timeout rfl
    · refine fun h => ⟨fun buffer frame hacc => ?_, fun _ => h⟩
      have hnone := hacc.1
      cases hnone
  have hfields := hs
  simp only [shared, reported, Shared.mk.injEq, Reported.mk.injEq] at hfields
  obtain ⟨hsession, hvalid, hactive, -, hres, herror⟩ := hfields
  have hdirection : Bench.staleDirection b.silent nowMs =
      (p.activeDirection != 0 && p.lastValidMs != 0 && nowMs - p.lastValidMs > kStaleMs) := by
    rw [hactive, hvalid]
    rfl
  rw [hfollows]
  show ((p.silent.serviceTimeout nowMs).reported = (Bench.serviceTimeout b.silent nowMs).reported ↔ _) ∧
    (_ → (p.silent.serviceTimeout nowMs).shared = (Bench.serviceTimeout b.silent nowMs).shared)
  unfold serviceTimeout Bench.serviceTimeout
  cases hkey : p.staleKey nowMs with
  | true =>
    have hstale : p.silent.staleKey nowMs = true := hkey
    simp only [staleKey, Bool.and_eq_true] at hkey
    obtain ⟨⟨hwanted, hset⟩, hold⟩ := hkey
    rw [if_pos hstale, hdirection]
    by_cases h0 : p.activeDirection = 0
    · -- a step-selection key is wanted: only the production build sees it go stale
      have hne : (p.silent.failClosed kErrorStale nowMs).reported ≠ b.silent.reported := by
        intro heq
        have hcode : (p.silent.failClosed kErrorStale nowMs).errorCode = b.errorCode :=
          congrArg Reported.errorCode heq
        rw [(closedWith_reports (failClosed_shared p.silent kErrorStale nowMs)).2, ← herror,
          hup.clean hwanted] at hcode
        revert hcode
        decide
      rw [if_neg (by simp [h0])]
      simp [h0, hne]
    · rw [if_pos (by simp only [Bool.and_eq_true]; exact ⟨⟨by simpa using h0, hset⟩, hold⟩)]
      have hsame : (p.silent.failClosed kErrorStale nowMs).shared = (Bench.failClosed b.silent kErrorStale).shared := by
        rw [failClosed_shared, Bench.failClosed_shared]
        simp [closedWith, silent, hsession, hres]
      exact ⟨⟨fun _ _ => h0, fun _ => congrArg Shared.reported hsame⟩, fun _ => hsame⟩
  | false =>
    have hstale : p.silent.staleKey nowMs = false := hkey
    have hnone : Bench.staleDirection b.silent nowMs = false := by
      rw [hdirection, ← Bool.not_eq_true]
      intro hd
      simp only [Bool.and_eq_true] at hd
      obtain ⟨⟨hact, hset⟩, hold⟩ := hd
      have hwanted := hup.active (by simpa using hact)
      simp only [staleKey, hwanted, hset, hold] at hkey
      cases hkey
    rw [hstale, hnone]
    simp only [Bool.false_eq_true, if_false, false_imp_iff, true_imp_iff, iff_true]
    exact ⟨congrArg Shared.reported hs, hs⟩

/-- One event in both builds. -/
theorem step_agrees (hup : p.Up) (hs : p.shared = b.shared) :
    ((p.step (e.1, e.2.production)).reported = (Bench.step b e).reported ↔ FollowsFrame p e) ∧
      (FollowsFrame p e → (p.step (e.1, e.2.production)).shared = (Bench.step b e).shared) := by
  by_cases hacc : ∃ buffer frame, p.Accepts (e.1, e.2.production) buffer frame
  · obtain ⟨buffer, frame, hacc⟩ := hacc
    exact accepted_agrees hup hs hacc
  · push Not at hacc
    by_cases ht : e.2 = .serviceTimeout
    · exact timeout_agrees hup hs ht
    · have hsame := other_same hup hs ht hacc
      have hfollows : FollowsFrame p e :=
        ⟨fun buffer frame h => absurd h (hacc buffer frame), fun h => absurd h ht⟩
      exact ⟨⟨fun _ => hfollows, fun _ => congrArg Shared.reported hsame⟩, fun _ => hsame⟩

end Events

/-! ## Runs -/

/-- In every run of both builds, with USB up in the production build, they report the same after
every event exactly when every event finds the mapper free to follow it. -/
theorem builds_agree_iff (es : List (UInt32 × BuildEvent)) :
    Run.Always Builds.step Builds.Agrees Builds.start es ↔
      Run.Always Builds.step (fun s e => FollowsFrame s.production e) Builds.start es := by
  refine Run.always_congr (I := fun s : Builds => s.production.Up ∧ s.production.shared = s.bench.shared)
    (fun s e hI hP => ?_) (fun s e hI => (step_agrees hI.1 hI.2).1) es ?_
  · have hagree := step_agrees (e := e) hI.1 hI.2
    exact ⟨step_up hI.1, hagree.2 (hagree.1.1 hP)⟩
  · refine ⟨⟨?_, ?_, ?_, ?_, ?_, ?_⟩, ?_⟩ <;> decide +kernel

/-- A command frame written at a millisecond, to both builds. -/
def frameAt (nowMs : UInt32) (c : MobileCommand) : UInt32 × BuildEvent :=
  (nowMs, .bluetooth (.write { buffer := c.sealed.bytes }))

/-- Left held, then Down held: the diagnostic build reports Down, the production build nothing. -/
theorem builds_disagree : ¬ ∀ es, Run.Always Builds.step Builds.Agrees Builds.start es := by
  intro h
  have hrun := h [(10, .bluetooth (.connectionComplete 64)), frameAt 20 { sequenceLow := 1 },
    frameAt 40 { sequenceLow := 2, direction := 1, flags := 1 },
    frameAt 60 { sequenceLow := 3, direction := 3, flags := 1 }]
  revert hrun
  decide +kernel

/-- A step selection that goes stale locks the production build only. -/
example : ¬ Run.Always Builds.step Builds.Agrees Builds.start
    [(10, .bluetooth (.connectionComplete 64)), frameAt 20 { sequenceLow := 1 },
      frameAt 40 { sequenceLow := 2, event := 2, eventSequence := 1 }, (200, .serviceTimeout)] := by
  decide +kernel

end RedMonkeyMpg.Mobile
