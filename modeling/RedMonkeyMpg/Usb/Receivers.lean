/-
Both receivers over the USB line. Every event of either receiver is one step of the line: the
device callbacks and the passes of the sender are the line's own, and any other event publishes. So
the shadow of either receiver is true over every run that loses no mount change.
-/
import RedMonkeyMpg.Gamepad.Gate
import RedMonkeyMpg.Mobile.Gate
import RedMonkeyMpg.Usb.Shadow

namespace RedMonkeyMpg

open UsbLine

/-! ## The gamepad receiver -/

namespace Gamepad.Receiver

variable {p : Platform} {r : Receiver}

/-- The line's own step of an event. -/
def Event.lineOp : Event → Option UsbLine.Op
  | .usb cb => some (.callback cb)
  | .serviceUsbKeyboard a => some (.service a)
  | _ => none

theorem published_of_outside {s : Receiver} (h : s.outside = r.outside) : Published r.usb s.usb :=
  .of_eq (congrArg Outside.usb h)

theorem consumeControllerReport_published (report : List UInt8) (nowMs : UInt32) :
    Published r.usb (r.consumeControllerReport report nowMs).usb := by
  obtain ⟨rearm, last, mapper, wanted, started, confirmed, outputs, -, h⟩ := r.consumeControllerReport_eq report nowMs
  rw [h]
  exact ⟨wanted, rfl⟩

theorem handleCommand_published (c : SetupCommand) : Published r.usb (handleCommand p r c).usb := by
  cases c with
  | setConfig mapping faults =>
    obtain ⟨config, live, h⟩ := r.setConfig_outside mapping faults
    exact .of_eq (congrArg Outside.usb h)
  | startScan nowMs => exact ⟨.release, congrArg Outside.usb (startPairingScan_outside nowMs)⟩
  | pairCandidate address => exact published_of_outside (selectPairingCandidate_outside address)
  | confirmPairing linkKey faults =>
    obtain ⟨config, rearm, h⟩ := confirmPairingCandidate_outside (p := p) (r := r) linkKey faults
    exact .of_eq (congrArg Outside.usb h)
  | cancelPairing => exact published_of_outside cancelPairing_outside
  | other => exact .of_eq rfl

theorem setupSession_published (cdc : Bool) (cs : List SetupCommand) :
    Published r.usb (setupSession p r cdc cs).usb := by
  exact setupSession_keeps (I := fun s => Published r.usb s.usb) (fun _ _ _ h => h)
    (fun s c h => h.trans (handleCommand_published c)) (fun _ h => h.trans .release)
    (fun s h => h.trans (published_of_outside cancelPairing_outside)) cs (.of_eq rfl)

theorem bluetooth_published (b : BtEvent) : Published r.usb (bluetooth p r b).usb := by
  cases b with
  | inquiryResult result => exact published_of_outside (inquiryResult_outside result)
  | inquiryComplete => exact published_of_outside inquiryComplete_outside
  | state working =>
    simp only [bluetooth]
    split <;> exact .of_eq rfl
  | pinCodeRequest address => exact .of_eq rfl
  | userConfirmationRequest address => exact published_of_outside (userConfirmationRequest_outside address)
  | incomingConnection address cid status acceptStatus =>
    obtain ⟨s, known, last, timer, outputs, hs, -, h⟩ := r.incomingConnection_eq address cid status acceptStatus
    simp only [bluetooth, h]
    rcases hs with rfl | rfl
    · exact .of_eq rfl
    · exact .release
  | connectionOpened status cid =>
    obtain ⟨connected, known, last, timer, outputs, -, h⟩ := r.connectionOpened_eq status cid
    simp only [bluetooth, h]
    exact .release
  | descriptorAvailable status descriptor digest =>
    simp only [bluetooth]
    rcases descriptorAvailable_eq (p := p) r status descriptor digest with
      ⟨profile, -, h⟩ | ⟨-, outputs, -, ⟨-, h⟩ | ⟨-, h⟩⟩
    · rw [h]
      exact .of_eq rfl
    · rw [h]
      exact .trans (.release (l := r.usb)) (published_of_outside (r := r.failClosed) cancelPairing_outside)
    · rw [h]
      exact .release
  | report report nowMs => exact consumeControllerReport_published report nowMs
  | connectionClosed =>
    obtain ⟨timer, h⟩ := r.connectionClosed_eq
    simp only [bluetooth, h]
    exact .release
  | reconnectTimer status cid => exact published_of_outside (reconnectExpired_outside status cid)
  | scanTimer nowMs status => exact published_of_outside (scanExpired_outside nowMs status)

/-- Every event is a step of the line, or publishes. -/
theorem step_line (r : Receiver) (e : Event) : Performs r.usb (step p r e).usb e.lineOp := by
  cases e with
  | bluetooth b => exact bluetooth_published (r := r.silent) b
  | usb cb => rfl
  | setupSession cdc cs => exact setupSession_published (r := r.silent) cdc cs
  | serviceStaleInput nowMs =>
    show Published r.silent.usb (r.silent.serviceStaleInput nowMs).usb
    unfold serviceStaleInput
    split
    · exact .release
    · exact .of_eq rfl
  | serviceUsbKeyboard a =>
    show (r.silent.serviceUsbKeyboard a).usb = (r.usb.service a).line
    unfold serviceUsbKeyboard
    dsimp only
    split <;> rfl

end Gamepad.Receiver

/-! ## The iPhone receiver -/

namespace Mobile.Receiver

variable {r : Receiver}

/-- The line's own step of an event. -/
def Event.lineOp : Event → Option UsbLine.Op
  | .usb cb => some (.callback cb)
  | .serviceUsbKeyboard a => some (.service a)
  | _ => none

theorem failClosed_published (error : UInt8) (nowMs : UInt32) : Published r.usb (r.failClosed error nowMs).usb := by
  have h : (r.failClosed error nowMs).usb = r.usb.publishRelease := by simp [failClosed, resetMapper_eq]
  rw [h]
  exact .release

theorem commandWrite_published (buffer : List UInt8) (nowMs : UInt32) :
    Published r.usb (r.commandWrite buffer nowMs).usb := by
  by_cases hr : ∃ frame, (r.session.consume buffer nowMs).2 = .ok frame
  · obtain ⟨frame, hf⟩ := hr
    rw [commandWrite_ok hf, accept_eq]
    obtain ⟨active, resolution, ha⟩ :=
      armed_eq { r with session := (r.session.consume buffer nowMs).1 } frame (buffer.getD 4 0) nowMs
    rw [emit_usb, requestStatusNotification_usb]
    rcases drive_cases (armed { r with session := (r.session.consume buffer nowMs).1 } frame (buffer.getD 4 0) nowMs)
      frame (buffer.getD 4 0) nowMs with ⟨-, -, -, h⟩ | ⟨-, h⟩
    · rw [h, ha]
      exact .release
    · rw [h, ha]
      exact ⟨_, rfl⟩
  · rw [commandWrite_error fun frame hf => hr ⟨frame, hf⟩]
    have h : (reject { r with session := (r.session.consume buffer nowMs).1 } nowMs).usb = r.usb.publishRelease := by
      simp [reject, resetMapper_eq]
    rw [h]
    exact .release

theorem serviceUsbKeyboard_line (r : Receiver) (a : UsbAnswer) (nowMs : UInt32) :
    (r.serviceUsbKeyboard a nowMs).usb = (r.usb.service a).line := by
  unfold serviceUsbKeyboard
  dsimp only
  split <;> split <;> split <;> simp [resetMapper_eq]

theorem step_line (r : Receiver) (e : UInt32 × Event) : Performs r.usb (r.step e).usb e.2.lineOp := by
  obtain ⟨nowMs, ev⟩ := e
  cases ev with
  | bluetooth b =>
    cases b with
    | write w =>
      show Published r.silent.usb (r.silent.writeCallback w nowMs).usb
      unfold writeCallback
      split
      · split
        · exact .of_eq rfl
        · exact .of_eq (by simp)
      · exact .of_eq rfl
      · split
        · exact .of_eq rfl
        · exact commandWrite_published w.buffer nowMs
    | connectionComplete handle =>
      exact failClosed_published (r := { r.silent with connectionHandle := handle, session := {}, notifyEnabled := false }) _ _
    | disconnectionComplete =>
      exact failClosed_published
        (r := { r.silent with connectionHandle := kHciConHandleInvalid, notifyEnabled := false, session := {} }) _ _
    | canSendNow a =>
      show Published r.silent.usb (r.silent.bluetooth nowMs (.canSendNow a)).usb
      simp only [bluetooth]
      split <;> exact .of_eq rfl
  | usb cb => rfl
  | serviceUsbKeyboard a =>
    exact serviceUsbKeyboard_line r.silent a nowMs
  | serviceTimeout =>
    show Published r.silent.usb (r.silent.serviceTimeout nowMs).usb
    unfold serviceTimeout
    split
    · exact failClosed_published _ _
    · exact .of_eq rfl

end Mobile.Receiver

/-! ## Both shadows -/

/-- In every run of either receiver that loses no mount change, every pass of the sender leaves a
true shadow. -/
theorem shadow_true (p : Gamepad.Platform) (flash : Flash) (reads : Option Flash)
    (es : List Gamepad.Receiver.Event) (fs : List (UInt32 × Mobile.Receiver.Event))
    (hes : Run.Always (Gamepad.Receiver.step p) (fun r e => ∀ op ∈ e.lineOp, Seen r.usb op)
      (Gamepad.Receiver.boot p flash reads) es)
    (hfs : Run.Always Mobile.Receiver.step (fun r e => ∀ op ∈ e.2.lineOp, Seen r.usb op) {} fs) :
    Run.Always (Gamepad.Receiver.step p) (fun r e => ∀ a, e.lineOp = some (.service a) → ShadowTrue r.usb a)
        (Gamepad.Receiver.boot p flash reads) es ∧
      Run.Always Mobile.Receiver.step (fun r e => ∀ a, e.2.lineOp = some (.service a) → ShadowTrue r.usb a) {} fs := by
  constructor
  · exact shadow_run Gamepad.Receiver.usb Gamepad.Receiver.step_line (fun h => by cases h) hes
  · exact shadow_run Mobile.Receiver.usb Mobile.Receiver.step_line (fun h => by cases h) hfs

/-- The gamepad receiver up to a sent key: the device is mounted, and a report held to the left is
sent. -/
def gamepadHeld : List Gamepad.Receiver.Event :=
  [.usb .mount, .serviceUsbKeyboard {}, .bluetooth (.connectionOpened 0 1),
    .bluetooth (.descriptorAvailable 0 (some (List.replicate 83 0)) none),
    .bluetooth (.report (Gamepad.Receiver.lite2Report 0x00 127) 10),
    .bluetooth (.report (Gamepad.Receiver.lite2Report 0x01 0) 20), .serviceUsbKeyboard {}]

/-- The iPhone receiver up to a sent key. -/
def mobileHeld : List (UInt32 × Mobile.Receiver.Event) :=
  (0, .usb .mount) :: (5, .serviceUsbKeyboard {}) :: Mobile.Receiver.heldLeft ++ [(50, .serviceUsbKeyboard {})]

/-- A key that is sent, and released by a neutral report before the host suspends. -/
theorem shadow_true_released :
    let es := gamepadHeld ++
      [.bluetooth (.report (Gamepad.Receiver.lite2Report 0x00 127) 30), .serviceUsbKeyboard {}, .usb .suspend,
        .serviceUsbKeyboard {}, .usb .resume, .serviceUsbKeyboard {}]
    Run.Always (Gamepad.Receiver.step (.plain [])) (fun r e => ∀ a, e.lineOp = some (.service a) → ShadowTrue r.usb a)
        (Gamepad.Receiver.boot (.plain []) (fun _ => none) none) es ∧
      Run.Always Mobile.Receiver.step (fun r e => ∀ a, e.2.lineOp = some (.service a) → ShadowTrue r.usb a) {} mobileHeld :=
  shadow_true (.plain []) (fun _ => none) none _ mobileHeld (by decide +kernel) (by decide +kernel)

/-- A host that suspends with a key held and resumes: the pass that sees the resume takes the
shadow for all keys up, and never releases the key. Both receivers do it. -/
theorem shadow_false :
    (¬ ∀ (flash : Flash) (reads : Option Flash) (es : List Gamepad.Receiver.Event),
      Run.Always (Gamepad.Receiver.step (.plain []))
        (fun r e => ∀ a, e.lineOp = some (.service a) → ShadowTrue r.usb a)
        (Gamepad.Receiver.boot (.plain []) flash reads) es) ∧
    ¬ ∀ fs : List (UInt32 × Mobile.Receiver.Event),
      Run.Always Mobile.Receiver.step (fun r e => ∀ a, e.2.lineOp = some (.service a) → ShadowTrue r.usb a) {} fs := by
  constructor
  · intro h
    have hrun := h (fun _ => none) none
      (gamepadHeld ++ [.usb .suspend, .serviceUsbKeyboard {}, .usb .resume, .serviceUsbKeyboard {}])
    have hlast := ((Run.always_append _ _ _ _).1 hrun).2.2.2.2.1 {} rfl
    revert hlast
    decide +kernel
  · intro h
    have hrun := h (mobileHeld ++
      [(60, .usb .suspend), (65, .serviceUsbKeyboard {}), (70, .usb .resume), (75, .serviceUsbKeyboard {})])
    have hlast := ((Run.always_append _ _ _ _).1 hrun).2.2.2.2.1 {} rfl
    revert hlast
    decide +kernel

end RedMonkeyMpg
