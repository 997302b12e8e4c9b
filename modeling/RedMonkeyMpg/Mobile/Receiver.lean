/-
The iPhone receiver, USB keyboard build: the attribute writes, the Bluetooth events, the stale
timeout and the USB pass as functions of its state, and the facts about each that the runs need.
Every function that reads the clock takes the millisecond it reads.
-/
import RedMonkeyMpg.Input.Mobile
import RedMonkeyMpg.Usb.Line

namespace RedMonkeyMpg.Mobile

def kStaleMs : UInt32 := 150
def kStatusBluetoothReady : UInt8 := 0x01
def kStatusUsbReady : UInt8 := 0x02
def kStatusOutputLocked : UInt8 := 0x04
def kStatusNeutralRequired : UInt8 := 0x08

def kErrorNone : UInt8 := 0
def kErrorMalformed : UInt8 := 1
def kErrorStale : UInt8 := 2
def kErrorUsbUnavailable : UInt8 := 5

/-- `HCI_CON_HANDLE_INVALID`. -/
def kHciConHandleInvalid : UInt16 := 0xffff

/-! ## Attributes -/

/-- The attribute a write is for. -/
inductive AttributeHandle where
  | command
  | statusConfiguration
  | other
  deriving DecidableEq, Repr

/-- `ATT_TRANSACTION_MODE_NONE`; the other modes belong to prepared writes. -/
def kAttTransactionModeNone : UInt16 := 0

/-- An attribute write. -/
structure Write where
  handle : AttributeHandle := .command
  transactionMode : UInt16 := kAttTransactionModeNone
  offset : UInt16 := 0
  buffer : List UInt8
  deriving DecidableEq, Repr

def kAttErrorRequestNotSupported : UInt8 := 0x06
def kAttErrorInvalidAttributeValueLength : UInt8 := 0x0d
def kAttErrorValueNotAllowed : UInt8 := 0x13

/-- What one call hands to BTstack and TinyUSB, and what a write answers. -/
inductive Output where
  | requestCanSendNow (handle : UInt16)
  | notify (handle : UInt16) (status : List UInt8)
  | send (report : KeyboardReport)
  | answer (code : UInt8)
  deriving DecidableEq

/-! ## The receiver -/

/-- `outputs` are those of the last step only. -/
structure Receiver where
  session : MobileInputSession := {}
  connectionHandle : UInt16 := kHciConHandleInvalid
  lastSequence : UInt16 := 0
  lastValidMs : UInt32 := 0
  activeDirection : UInt8 := 0
  resolution : UInt8 := 1
  errorCode : UInt8 := kErrorNone
  controllerProfile : UInt8 := MobileControllerProfile.masso.toUInt8
  notifyEnabled : Bool := false
  neutralRequired : Bool := true
  mapper : ControlMapper := {}
  usb : UsbLine := {}
  outputs : List Output := []
  deriving DecidableEq

/-- `static_cast<std::uint8_t>` of a resolution. -/
def resolutionCode : StepResolution → UInt8
  | .mm001 => 0
  | .mm010 => 1
  | .mm050 => 2
  | .mm100 => 3

namespace Receiver

def emit (r : Receiver) (o : Output) : Receiver := { r with outputs := r.outputs ++ [o] }

def publishRelease (r : Receiver) : Receiver := { r with usb := r.usb.publishRelease }

def resetMapper (r : Receiver) (nowMs : UInt32) : Receiver :=
  { r with mapper := (r.mapper.update { sampleMs := nowMs } nowMs).1 }

/-- `usb_ready`. -/
def usbReady (r : Receiver) (a : UsbAnswer) : Bool := r.usb.keyboardReady a

/-- `status_frame`. -/
def statusFrame (r : Receiver) (a : UsbAnswer) : List UInt8 :=
  let locked := r.neutralRequired || !r.usbReady a
  let body : List UInt8 :=
    [0x53, kMobileProtocolVersion, r.lastSequence.toUInt8, (r.lastSequence >>> 8).toUInt8,
      kStatusBluetoothReady ||| (if r.usbReady a then kStatusUsbReady else 0) |||
        (if locked then kStatusOutputLocked else 0) |||
        (if r.neutralRequired then kStatusNeutralRequired else 0),
      r.activeDirection, r.resolution, r.errorCode, r.controllerProfile]
  body ++ [mobileCrc8 body]

def requestStatusNotification (r : Receiver) : Receiver :=
  if r.notifyEnabled && r.connectionHandle != kHciConHandleInvalid then
    r.emit (.requestCanSendNow r.connectionHandle)
  else r

/-! ## Command writes -/

/-- A frame the session refused. -/
def reject (r : Receiver) (nowMs : UInt32) : Receiver :=
  let r := { r with activeDirection := 0, neutralRequired := true, errorCode := kErrorMalformed }
  ((r.resetMapper nowMs).publishRelease.requestStatusNotification).emit (.answer kAttErrorValueNotAllowed)

/-- The fields an accepted frame sets at once. -/
def record (r : Receiver) (frame : MobileFrame) (direction : UInt8) (nowMs : UInt32) : Receiver :=
  { r with
    lastSequence := frame.sequence
    controllerProfile := frame.controllerProfile.toUInt8
    lastValidMs := nowMs
    errorCode := kErrorNone
    activeDirection := direction }

/-- A neutral frame arms; any other one is locked until a neutral one came. -/
def gateNeutral (r : Receiver) (frame : MobileFrame) (direction : UInt8) : Receiver :=
  if !frame.input.deadman || direction == 0 then { r with activeDirection := 0, neutralRequired := false }
  -- locked: the frame is still accepted, and its time counts as valid
  else if r.neutralRequired then { r with activeDirection := 0 }
  else r

def selectResolution (r : Receiver) (frame : MobileFrame) : Receiver :=
  if frame.input.selectResolution then { r with resolution := resolutionCode frame.input.selectedResolution } else r

def cancelEvent (r : Receiver) (frame : MobileFrame) : Receiver :=
  if frame.input.cancel then { r with activeDirection := 0, neutralRequired := true } else r

/-- The keyboard bridge of an accepted frame. -/
def drive (r : Receiver) (frame : MobileFrame) (direction : UInt8) (nowMs : UInt32) : Receiver :=
  -- still locked after `gateNeutral`, or locked again by `cancelEvent`
  if r.neutralRequired && frame.input.deadman && direction != 0 then (r.resetMapper nowMs).publishRelease
  else
    let (mapper, output) := r.mapper.update frame.input nowMs
    { r with
      mapper := mapper
      usb := r.usb.publish (cncControllerKeyboardReport .massoG3Touch513 output)
      activeDirection := if output.hasJog then direction else 0 }

/-- A frame the session accepted. -/
def accept (r : Receiver) (frame : MobileFrame) (direction : UInt8) (nowMs : UInt32) : Receiver :=
  let r := ((r.record frame direction nowMs).gateNeutral frame direction).selectResolution frame
  let r := (r.cancelEvent frame).drive frame direction nowMs
  r.requestStatusNotification.emit (.answer 0)

/-- A write to the command characteristic; the direction is the frame's fifth byte. -/
def commandWrite (r : Receiver) (buffer : List UInt8) (nowMs : UInt32) : Receiver :=
  match r.session.consume buffer nowMs with
  | (session, .error _) => { r with session := session }.reject nowMs
  | (session, .ok frame) => { r with session := session }.accept frame (buffer.getD 4 0) nowMs

/-- `write_callback`. -/
def writeCallback (r : Receiver) (w : Write) (nowMs : UInt32) : Receiver :=
  match w.handle with
  | .statusConfiguration =>
    if w.transactionMode ≠ kAttTransactionModeNone ∨ w.offset ≠ 0 ∨ w.buffer.length ≠ 2 then
      r.emit (.answer kAttErrorInvalidAttributeValueLength)
    else { r with notifyEnabled := w.buffer == [1, 0] }.requestStatusNotification.emit (.answer 0)
  | .other => r.emit (.answer 0)
  | .command =>
    if w.transactionMode ≠ kAttTransactionModeNone ∨ w.offset ≠ 0 then
      r.emit (.answer kAttErrorRequestNotSupported)
    else r.commandWrite w.buffer nowMs

/-! ## Bluetooth events, timeout and USB pass -/

/-- `fail_closed`. -/
def failClosed (r : Receiver) (error : UInt8) (nowMs : UInt32) : Receiver :=
  let r := { r with activeDirection := 0, lastValidMs := 0, neutralRequired := true, errorCode := error }
  ((r.resetMapper nowMs).publishRelease).requestStatusNotification

/-- The events of `packet_handler`, and the writes. -/
inductive BleEvent where
  | write (w : Write)
  | connectionComplete (handle : UInt16)
  | disconnectionComplete
  | canSendNow (a : UsbAnswer)
  deriving DecidableEq

/-- `write_callback` and `packet_handler`. -/
def bluetooth (r : Receiver) (nowMs : UInt32) : BleEvent → Receiver
  | .write w => r.writeCallback w nowMs
  | .connectionComplete handle =>
    { r with connectionHandle := handle, session := r.session.reset, notifyEnabled := false }.failClosed
      kErrorNone nowMs
  | .disconnectionComplete =>
    { r with
      connectionHandle := kHciConHandleInvalid, notifyEnabled := false, session := r.session.reset }.failClosed
      kErrorNone nowMs
  | .canSendNow a =>
    if r.connectionHandle != kHciConHandleInvalid && r.notifyEnabled then
      r.emit (.notify r.connectionHandle (r.statusFrame a))
    else r

/-- The test of `service_timeout`: a key is wanted on a frame older than the limit. -/
def staleKey (r : Receiver) (nowMs : UInt32) : Bool :=
  reportHasKey r.usb.desired && r.lastValidMs != 0 && nowMs - r.lastValidMs > kStaleMs

/-- `service_timeout`. -/
def serviceTimeout (r : Receiver) (nowMs : UInt32) : Receiver :=
  if r.staleKey nowMs then r.failClosed kErrorStale nowMs else r

/-- The error code after a pass that found USB ready or not. -/
def usbError (r : Receiver) (ready : Bool) : UInt8 :=
  if !ready then if r.errorCode = kErrorNone then kErrorUsbUnavailable else r.errorCode
  else if r.errorCode = kErrorUsbUnavailable then kErrorNone
  else r.errorCode

/-- `service_usb_keyboard`. -/
def serviceUsbKeyboard (r : Receiver) (a : UsbAnswer) (nowMs : UInt32) : Receiver :=
  let served := r.usb.service a
  let changed := r.usb.keyboardMounted != r.usb.wasMounted
  let r := { r with usb := served.line, errorCode := r.usbError (r.usb.keyboardReady a) }
  let r := if served.fault then { r with neutralRequired := true }.resetMapper nowMs else r
  let r := if changed then r.requestStatusNotification else r
  match served.offered with
  | some report => r.emit (.send report)
  | none => r

inductive Event where
  | bluetooth (e : BleEvent)
  | usb (cb : UsbCallback)
  | serviceUsbKeyboard (a : UsbAnswer)
  | serviceTimeout
  deriving DecidableEq

/-- The receiver at the start of an event. -/
def silent (r : Receiver) : Receiver := { r with outputs := [] }

/-- One event, handled at a millisecond. -/
def step (r : Receiver) (e : UInt32 × Event) : Receiver :=
  match e.2 with
  | .bluetooth b => r.silent.bluetooth e.1 b
  | .usb cb => { r.silent with usb := r.usb.callback cb }
  | .serviceUsbKeyboard a => r.silent.serviceUsbKeyboard a e.1
  | .serviceTimeout => r.silent.serviceTimeout e.1

end Receiver

end RedMonkeyMpg.Mobile
