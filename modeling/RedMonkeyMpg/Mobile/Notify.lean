/-
What the phone has been told. The receiver sends its status only when BTstack says that it can, and
asks BTstack for that whenever the status changes. So the phone's last status is the receiver's, in
every state of a run with a subscriber and no request open. Two changes are made without asking and
show later: a report that USB refuses locks, and a pass that finds USB ready or not sets the error.
-/
import RedMonkeyMpg.Mobile.Steps
import RedMonkeyMpg.Lib.Run

namespace RedMonkeyMpg.Mobile

/-! ## The status frame -/

/-- The fields of a status frame. -/
structure Status where
  lastSequence : UInt16 := 0
  usbReady : Bool := false
  neutralRequired : Bool := true
  activeDirection : UInt8 := 0
  resolution : UInt8 := 1
  errorCode : UInt8 := kErrorNone
  controllerProfile : UInt8 := MobileControllerProfile.masso.toUInt8
  deriving DecidableEq, Repr

namespace Status

/-- The flags of a receiver that is locked without a neutral frame and without USB. -/
def flags (usbReady neutralRequired : Bool) : UInt8 :=
  kStatusBluetoothReady ||| (if usbReady then kStatusUsbReady else 0) |||
    (if neutralRequired || !usbReady then kStatusOutputLocked else 0) |||
    (if neutralRequired then kStatusNeutralRequired else 0)

/-- The frame before its CRC. -/
def body (s : Status) : List UInt8 :=
  [0x53, kMobileProtocolVersion, s.lastSequence.toUInt8, (s.lastSequence >>> 8).toUInt8,
    flags s.usbReady s.neutralRequired, s.activeDirection, s.resolution, s.errorCode, s.controllerProfile]

/-- The status in the fields of a frame. -/
def ofFields (low high flag direction resolution error profile : UInt8) : Status where
  lastSequence := low.toUInt16 ||| (high.toUInt16 <<< 8)
  usbReady := flag &&& kStatusUsbReady != 0
  neutralRequired := flag &&& kStatusNeutralRequired != 0
  activeDirection := direction
  resolution := resolution
  errorCode := error
  controllerProfile := profile

/-- A phone's reading of a status frame. -/
def read : List UInt8 → Option Status
  | [magic, version, low, high, flag, direction, resolution, error, profile, crc] =>
    let s := ofFields low high flag direction resolution error profile
    if magic = 0x53 ∧ version = kMobileProtocolVersion ∧ flag = flags s.usbReady s.neutralRequired ∧
      crc = mobileCrc8 [magic, version, low, high, flag, direction, resolution, error, profile] then some s
    else none
  | _ => none

/-! ### Round trip -/

end Status

/-! ## What asks for a notification -/

def Output.isRequest : Output → Bool
  | .requestCanSendNow _ => true
  | _ => false

/-- The status frame of a notification. -/
def Output.notified : Output → Option (List UInt8)
  | .notify _ status => some status
  | _ => none

namespace Receiver

/-- `notify_enabled` on a connection: the phone is to be told. -/
def subscribed (r : Receiver) : Bool := r.notifyEnabled && r.connectionHandle != kHciConHandleInvalid

/-- The status of the receiver, with USB as it answers. -/
def status (r : Receiver) (a : UsbAnswer) : Status where
  lastSequence := r.lastSequence
  usbReady := r.usbReady a
  neutralRequired := r.neutralRequired
  activeDirection := r.activeDirection
  resolution := r.resolution
  errorCode := r.errorCode
  controllerProfile := r.controllerProfile

/-- A subscriber is about to be told. -/
def Asks (r : Receiver) : Prop := r.subscribed = true → r.outputs.any Output.isRequest = true

section Asking

variable {r : Receiver} {nowMs : UInt32}

theorem Asks.emit (h : Asks r) (o : Output) : Asks (r.emit o) := by
  intro hs
  have hrequest : r.outputs.any Output.isRequest = true := h hs
  simp [Receiver.emit, hrequest]

end Asking

/-! ## What does not -/

/-- A pass that has its report refused: it locks, and does not ask. -/
def refusesReport (r : Receiver) : Event → Bool
  | .serviceUsbKeyboard a => (r.usb.service a).fault && r.usb.keyboardMounted == r.usb.wasMounted
  | _ => false

/-- A connection begins or ends. -/
def Event.reconnects : Event → Bool
  | .bluetooth (.connectionComplete _) => true
  | .bluetooth .disconnectionComplete => true
  | _ => false

/-- The end of a request: BTstack answers it, or drops it with the connection. -/
def Event.settles (e : Event) : Bool :=
  e.reconnects ||
    match e with
    | .bluetooth (.canSendNow _) => true
    | _ => false

/-- The error that the commands and connections set; the passes set and clear `kErrorUsbUnavailable` over none. -/
def commandError (code : UInt8) : UInt8 := if code = kErrorUsbUnavailable then kErrorNone else code

/-- The status fields that an event leaves alone when it does not ask; it may lock. -/
structure KeepsStatus (r r' : Receiver) (locks : Bool) : Prop where
  subscribed : r'.subscribed = r.subscribed
  lastSequence : r'.lastSequence = r.lastSequence
  neutralRequired : r'.neutralRequired = (r.neutralRequired || locks)
  activeDirection : r'.activeDirection = r.activeDirection
  resolution : r'.resolution = r.resolution
  errorCode : commandError r'.errorCode = commandError r.errorCode
  controllerProfile : r'.controllerProfile = r.controllerProfile
  outputs : ∀ o ∈ r'.outputs, Output.notified o = none

section Silent

variable {r : Receiver} {nowMs : UInt32}

theorem KeepsStatus.of_silent {r' : Receiver} {locks : Bool} (h : KeepsStatus r.silent r' locks) : KeepsStatus r r' locks :=
  ⟨h.1, h.2, h.3, h.4, h.5, h.6, h.7, h.8⟩

end Silent

/-! ## One event -/

end Receiver

/-! ## The phone -/

open Receiver (Event KeepsStatus Asks)

/-- The receiver with what the phone knows of it. `requested`: BTstack owes a can-send-now event. `told`: the last
status notified on the connection. `locked`: a report was refused since then. -/
structure Phone where
  receiver : Receiver := {}
  requested : Bool := false
  told : Option Status := none
  locked : Bool := false
  deriving DecidableEq

namespace Phone

/-- One event of the receiver. A request stays open until it is settled, a frame that does not read is dropped, and a
new connection has been told nothing. -/
def step (v : Phone) (e : UInt32 × Event) : Phone :=
  let r := v.receiver.step e
  let frame := r.outputs.findSome? Output.notified
  { receiver := r
    requested := r.outputs.any Output.isRequest || (v.requested && !e.2.settles)
    told := (frame.bind Status.read).or (if e.2.reconnects then none else v.told)
    locked := frame.isNone && (v.locked || v.receiver.refusesReport e.2) }

variable {v : Phone} {e : UInt32 × Event}

end Phone

end RedMonkeyMpg.Mobile
