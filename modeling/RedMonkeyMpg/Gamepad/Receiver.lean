/-
The gamepad receiver, configuration build: its state, and what reports, the stale check and the
USB pass do with it. What BTstack decides (statuses, connection IDs, the text form of addresses)
and what the flash and USB answer are inputs. `outputs` lists what the last step handed to
BTstack, to USB and to the setup session.
-/
import RedMonkeyMpg.Input.Lite2
import RedMonkeyMpg.Input.Descriptor
import RedMonkeyMpg.Store.Config
import RedMonkeyMpg.Usb.Line

namespace RedMonkeyMpg.Gamepad

def kReconnectMs : UInt32 := 3000
def kStaleMs : UInt32 := 150
def kCenterLimit : Int := 9000
def kConfirmationChord : UInt32 := 0x00100 ||| 0x00200 ||| 0x00800

/-- `ERROR_CODE_SUCCESS` and `ERROR_CODE_COMMAND_DISALLOWED`. -/
def kSuccess : UInt8 := 0
def kCommandDisallowed : UInt8 := 0x0c

/-- The compiled-in values, and BTstack's conversions between addresses and texts.
`sscanf_bd_addr` leaves its output alone when it fails. -/
structure Platform where
  controllerAddress : CStr
  lite2DescriptorSha256 : CStr
  sscanfBdAddr : CStr → Option BdAddr
  bdAddrToStr : BdAddr → CStr

/-- BTstack's conversions as documented: an address is printed as six pairs of upper-case digits,
and its text reads back as the address. -/
structure Platform.Documented (p : Platform) : Prop where
  sscanf : ∀ a, p.sscanfBdAddr (formatAddress a) = some a
  toStr : ∀ a, p.bdAddrToStr a = formatAddress a

/-- A platform with a compiled default address and no compiled descriptor hash. -/
def Platform.plain (controllerAddress : CStr) : Platform where
  controllerAddress := controllerAddress
  lite2DescriptorSha256 := []
  sscanfBdAddr := scanAddress
  bdAddrToStr := formatAddress

theorem Platform.plain_documented (controllerAddress : CStr) : (plain controllerAddress).Documented :=
  ⟨scanAddress_formatAddress, fun _ => rfl⟩

inductive Output where
  | connect (address : BdAddr)
  | accept (cid : UInt16)
  | decline (cid : UInt16)
  | disconnect (cid : UInt16)
  | dropLinkKey (address : BdAddr)
  | inquiryStart (duration : UInt8)
  | inquiryStop
  | pinCodeNegative (address : BdAddr)
  | sspConfirm (address : BdAddr)
  | sspNegative (address : BdAddr)
  | pairingState (state : CStr)
  | scanResult (name address : CStr) (rssi : Int)
  | send (report : KeyboardReport)
  deriving DecidableEq

/-- What the setup session's address pointer points to. -/
inductive IdentityAddress where
  | null
  | activeControllerAddress
  | storedControllerAddress
  deriving DecidableEq, Repr

/-- The controller and address `set_identity` was last given. -/
structure Identity where
  controller : Option CStr := none
  address : IdentityAddress := .null
  deriving DecidableEq

structure Receiver where
  -- connection
  controllerAddress : BdAddr := {}
  controllerAddressValid : Bool := false
  hidCid : UInt16 := 0
  lastHidCid : UInt16 := 0
  reconnectTimer : Option UInt32 := none
  descriptorReady : Bool := false
  controllerConnected : Bool := false
  activeProfile : Option ControllerProfile := none
  activeControllerName : CStr := []
  activeControllerDeviceClass : UInt32 := 0
  -- motion
  rearmRequired : Bool := true
  lastValidReportMs : UInt32 := 0
  mapper : ControlMapper := {}
  productionMapping : ProductionMapping := {}
  usb : UsbLine := {}
  -- setup session and stored configuration
  configActive : Bool := false
  configWasActive : Bool := false
  persistentConfig : PersistentConfig := {}
  flash : Flash := fun _ => none
  identity : Identity := {}
  -- pairing
  activeControllerAddress : CStr := []
  candidateControllerAddress : CStr := []
  candidateControllerName : CStr := []
  candidateControllerDeviceClass : UInt32 := 0
  pairingScanActive : Bool := false
  pairingScanRequested : Bool := false
  pairingCandidateSelected : Bool := false
  pairingChordConfirmed : Bool := false
  pairingChordStartedMs : UInt32 := 0
  pairingScanRequestedMs : UInt32 := 0
  pairingScanTimer : Option UInt32 := none
  outputs : List Output := []

namespace Receiver

def emit (r : Receiver) (o : Output) : Receiver := { r with outputs := r.outputs ++ [o] }

/-- `ConfigService::emit_pairing_state`: only an active session is told. -/
def emitPairingState (r : Receiver) (state : String) : Receiver :=
  if r.configActive then r.emit (.pairingState (cstr state)) else r

def publishRelease (r : Receiver) : Receiver := { r with usb := r.usb.publishRelease }

def resetMapper (r : Receiver) (nowMs : UInt32) : Receiver :=
  { r with mapper := (r.mapper.update { sampleMs := nowMs } nowMs).1 }

/-- `controls_are_safe_to_arm`. -/
def controlsAreSafeToArm (input : GamepadState) : Bool :=
  !input.deadman && magnitude input.leftX ≤ kCenterLimit && magnitude input.leftY ≤ kCenterLimit &&
    magnitude input.rightY ≤ kCenterLimit

/-- `fail_closed`. -/
def failClosed (r : Receiver) : Receiver :=
  { r with
    controllerConnected := false
    descriptorReady := false
    activeProfile := none
    rearmRequired := true
    lastValidReportMs := 0 }.publishRelease

/-- `schedule_connect`. -/
def scheduleConnect (r : Receiver) (delayMs : UInt32) : Receiver := { r with reconnectTimer := some delayMs }

/-! ## Reports -/

/-- The sample of a report under the active profile, once its descriptor was accepted. -/
def parseReport (r : Receiver) (report : List UInt8) (nowMs : UInt32) : Option GamepadState :=
  if !r.descriptorReady then none
  else r.activeProfile.bind fun profile => profile.parseReport.bind fun parse => parse report nowMs

/-- The confirmation chord of a selected candidate: L2, R2 and Plus held for three seconds. -/
def confirmationChord (r : Receiver) (input : GamepadState) (nowMs : UInt32) : Receiver :=
  if !r.configActive then r
  else if input.buttons &&& kConfirmationChord == kConfirmationChord then
    -- a start at millisecond 0 reads as none, and the next report starts the chord again
    let r := if r.pairingChordStartedMs = 0 then { r with pairingChordStartedMs := nowMs } else r
    if !r.pairingChordConfirmed && nowMs - r.pairingChordStartedMs ≥ 3000 then
      { r with pairingChordConfirmed := true }.emitPairingState "physical_confirmation_complete"
    else r
  else { r with pairingChordStartedMs := 0 }

/-- A report while the receiver must be re-armed: nothing is published, and a neutral one arms. -/
def rearm (r : Receiver) (input : GamepadState) (nowMs : UInt32) : Receiver :=
  let r := r.resetMapper nowMs
  -- a button that is already held must not become a rising edge after the neutral report
  let r := { r with mapper := (r.mapper.update input nowMs).1 }.publishRelease
  if controlsAreSafeToArm input then { r with rearmRequired := false } else r

/-- A report of an armed receiver. -/
def drive (r : Receiver) (input : GamepadState) (nowMs : UInt32) : Receiver :=
  let (mapper, frame) := r.mapper.update input nowMs
  { r with
    mapper := mapper
    usb := r.usb.publish (cncControllerKeyboardReport r.productionMapping.cncProfile frame) }

/-- A report that did not parse. -/
def refuseReport (r : Receiver) (nowMs : UInt32) : Receiver :=
  ({ r with rearmRequired := true, lastValidReportMs := 0 }.resetMapper nowMs).publishRelease

/-- A mapped report. -/
def consumeInput (r : Receiver) (input : GamepadState) (nowMs : UInt32) : Receiver :=
  -- an uncommitted candidate is never a motion source, and its reports are not dated
  if r.pairingCandidateSelected then (r.confirmationChord input nowMs).publishRelease
  else if r.configActive then r.publishRelease
  else
    let r := { r with lastValidReportMs := nowMs }
    if r.rearmRequired then r.rearm input nowMs else r.drive input nowMs

/-- `consume_controller_report`. -/
def consumeControllerReport (r : Receiver) (report : List UInt8) (nowMs : UInt32) : Receiver :=
  match r.parseReport report nowMs with
  | none => r.refuseReport nowMs
  | some raw => r.consumeInput (applyProductionMapping raw r.productionMapping) nowMs

/-! ## Stale input and the USB pass -/

/-- The test of `service_stale_input`: a key is wanted on a report older than the limit. -/
def staleKey (r : Receiver) (nowMs : UInt32) : Bool :=
  reportHasKey r.usb.desired && r.lastValidReportMs != 0 && nowMs - r.lastValidReportMs > kStaleMs

/-- `service_stale_input`. -/
def serviceStaleInput (r : Receiver) (nowMs : UInt32) : Receiver :=
  if r.staleKey nowMs then { r with rearmRequired := true, lastValidReportMs := 0 }.publishRelease else r

/-- `service_usb_keyboard`. -/
def serviceUsbKeyboard (r : Receiver) (a : UsbAnswer) : Receiver :=
  let served := r.usb.service a
  let r := { r with usb := served.line, rearmRequired := r.rearmRequired || served.fault }
  match served.offered with
  | some report => r.emit (.send report)
  | none => r

/-! ## What a report writes -/

/-- The chord writes its own start and confirmation, and tells the session. -/
theorem confirmationChord_eq (r : Receiver) (input : GamepadState) (nowMs : UInt32) :
    ∃ started confirmed outputs, (∀ o ∈ r.outputs, o ∈ outputs) ∧
      r.confirmationChord input nowMs =
        { r with pairingChordStartedMs := started, pairingChordConfirmed := confirmed, outputs := outputs } := by
  have hstart : ∃ started, (if r.pairingChordStartedMs = 0 then { r with pairingChordStartedMs := nowMs } else r) =
      { r with pairingChordStartedMs := started } := by
    split
    · exact ⟨nowMs, rfl⟩
    · exact ⟨r.pairingChordStartedMs, rfl⟩
  obtain ⟨started, hs⟩ := hstart
  unfold confirmationChord
  dsimp only
  rw [hs]
  split
  · exact ⟨r.pairingChordStartedMs, r.pairingChordConfirmed, r.outputs, fun _ h => h, rfl⟩
  · split
    · split
      · unfold emitPairingState
        split
        · exact ⟨started, true, _, fun _ h => List.mem_append_left _ h, rfl⟩
        · exact ⟨started, true, r.outputs, fun _ h => h, rfl⟩
      · exact ⟨started, r.pairingChordConfirmed, r.outputs, fun _ h => h, rfl⟩
    · exact ⟨0, r.pairingChordConfirmed, r.outputs, fun _ h => h, rfl⟩

/-- A report writes the motion state and the chord, publishes, and tells the session: it leaves
connections, pairing and the stored configuration alone. -/
theorem consumeControllerReport_eq (r : Receiver) (report : List UInt8) (nowMs : UInt32) :
    ∃ rearm last mapper wanted started confirmed outputs, (∀ o ∈ r.outputs, o ∈ outputs) ∧
      r.consumeControllerReport report nowMs =
        { r with
          rearmRequired := rearm
          lastValidReportMs := last
          mapper := mapper
          usb := r.usb.publish wanted
          pairingChordStartedMs := started
          pairingChordConfirmed := confirmed
          outputs := outputs } := by
  unfold consumeControllerReport
  split
  · exact ⟨true, 0, _, .release, _, _, r.outputs, fun _ h => h, rfl⟩
  · rename_i raw hp
    unfold consumeInput
    split
    · obtain ⟨started, confirmed, outputs, ho, h⟩ :=
        r.confirmationChord_eq (applyProductionMapping raw r.productionMapping) nowMs
      rw [h]
      exact ⟨r.rearmRequired, r.lastValidReportMs, r.mapper, .release, started, confirmed, outputs, ho, rfl⟩
    · split
      · exact ⟨r.rearmRequired, r.lastValidReportMs, r.mapper, .release, _, _, r.outputs, fun _ h => h, rfl⟩
      · dsimp only
        split
        · unfold rearm
          dsimp only
          split
          · exact ⟨false, nowMs, _, .release, _, _, r.outputs, fun _ h => h, rfl⟩
          · exact ⟨r.rearmRequired, nowMs, _, .release, _, _, r.outputs, fun _ h => h, rfl⟩
        · exact ⟨r.rearmRequired, nowMs, _, _, _, _, r.outputs, fun _ h => h, rfl⟩

end Receiver

end RedMonkeyMpg.Gamepad
