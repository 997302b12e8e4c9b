/-
The connection and pairing handlers of the gamepad receiver: outgoing and incoming connections,
descriptors, inquiries, and the pairing transaction of scan, selection, confirmation and
cancellation.
-/
import RedMonkeyMpg.Gamepad.Receiver

namespace RedMonkeyMpg.Gamepad.Receiver

/-- `snprintf(buffer, 18, "%s", text)`. -/
def addressBuffer (text : CStr) : CStr := text.take 17

/-- `snprintf(buffer, 64, "%s", text)`. -/
def nameBuffer (text : CStr) : CStr := text.take 63

/-- `hid_host_disconnect` of the connection the receiver has, if any, which it forgets. -/
def disconnectCurrent (r : Receiver) : Receiver :=
  if r.hidCid ≠ 0 then { r.emit (.disconnect r.hidCid) with hidCid := 0 } else r

/-! ## Outgoing connections -/

/-- `connect_controller`: `hid_host_connect` answers a status, and a connection ID when it succeeds. -/
def connectController (r : Receiver) (status : UInt8) (cid : UInt16) : Receiver :=
  if r.hidCid ≠ 0 ∨ r.controllerAddressValid = false then r
  else
    let r := r.emit (.connect r.controllerAddress)
    if status ≠ kSuccess then
      -- the refused connect may be owed to a failed connection that BTstack still holds
      let r := if status = kCommandDisallowed ∧ r.lastHidCid ≠ 0 then r.emit (.disconnect r.lastHidCid) else r
      { r with hidCid := 0 }.scheduleConnect 5000
    else { r with hidCid := cid, lastHidCid := 0 }

/-- The reconnect timer expires. -/
def reconnectExpired (r : Receiver) (status : UInt8) (cid : UInt16) : Receiver :=
  if r.reconnectTimer.isSome then { r with reconnectTimer := none }.connectController status cid else r

/-! ## Connection events -/

/-- `HID_SUBEVENT_INCOMING_CONNECTION`. -/
def incomingConnection (r : Receiver) (address : BdAddr) (cid : UInt16) (status acceptStatus : UInt8) : Receiver :=
  -- compares with the buffer, and does not ask whether it is valid
  if status ≠ kSuccess ∨ address ≠ r.controllerAddress then r.emit (.decline cid)
  else
    let r := { r with reconnectTimer := none, hidCid := cid, lastHidCid := 0 }.emit (.accept cid)
    if acceptStatus ≠ kSuccess then { r with hidCid := 0 }.failClosed.scheduleConnect kReconnectMs else r

/-- `HID_SUBEVENT_CONNECTION_OPENED`. -/
def connectionOpened (r : Receiver) (status : UInt8) (cid : UInt16) : Receiver :=
  if status = kSuccess then
    { { r with reconnectTimer := none, hidCid := cid, lastHidCid := 0 }.failClosed with controllerConnected := true }
  else
    { r.emit (.disconnect cid) with lastHidCid := cid, hidCid := 0 }.failClosed.scheduleConnect 5000

/-- `HID_SUBEVENT_CONNECTION_CLOSED`. -/
def connectionClosed (r : Receiver) : Receiver :=
  let r := { r with hidCid := 0, lastHidCid := 0 }.failClosed
  -- a scan must not be disturbed by a reconnect
  if r.pairingScanRequested || r.pairingScanActive then r
  else if r.controllerAddressValid then r.scheduleConnect kReconnectMs
  else r

/-- `HCI_EVENT_USER_CONFIRMATION_REQUEST`. -/
def userConfirmationRequest (r : Receiver) (address : BdAddr) : Receiver :=
  if r.configActive && r.pairingCandidateSelected && address = r.controllerAddress then r.emit (.sspConfirm address)
  else r.emit (.sspNegative address)

/-! ## Inquiry -/

/-- A `GAP_EVENT_INQUIRY_RESULT`; the name is its bytes, when one is available. -/
structure InquiryResult where
  address : BdAddr
  deviceClass : UInt32
  name : Option (List UInt8) := none
  rssi : Option Int := none
  deriving DecidableEq

def kLite2DeviceClass : UInt32 := 0x002508

/-- The name `strcmp` sees of the copied bytes, which end at a zero or after 63. -/
def InquiryResult.shownName (result : InquiryResult) : Option CStr :=
  result.name.map fun bytes => (nameBuffer bytes).takeWhile (· != 0)

def InquiryResult.exactName (result : InquiryResult) : Bool := result.shownName = some (cstr "8BitDo Lite 2")

/-- The name the candidate is shown under. -/
def InquiryResult.candidateName (result : InquiryResult) : CStr :=
  if result.exactName then cstr "8BitDo Lite 2" else cstr "8BitDo Lite 2 (D mode)"

def inquiryResult (p : Platform) (r : Receiver) (result : InquiryResult) : Receiver :=
  if !r.pairingScanActive then r
  else if !result.exactName && result.deviceClass != kLite2DeviceClass then r
  else
    let r :=
      { r with
        candidateControllerAddress := addressBuffer (p.bdAddrToStr result.address)
        candidateControllerName := nameBuffer result.candidateName
        candidateControllerDeviceClass := result.deviceClass }
    if r.configActive then
      r.emit (.scanResult result.candidateName r.candidateControllerAddress (result.rssi.getD (-127)))
    else r

def inquiryComplete (r : Receiver) : Receiver :=
  { r with pairingScanActive := false }.emitPairingState "scan_complete"

/-- `begin_pairing_scan`: `gap_inquiry_start` answers a status. -/
def beginPairingScan (r : Receiver) (nowMs : UInt32) (status : UInt8) : Receiver :=
  if !r.pairingScanRequested then r
  else if nowMs - r.pairingScanRequestedMs > 65000 then
    { r with pairingScanRequested := false }.emitPairingState "scan_failed"
  else
    let r := r.emit (.inquiryStart 47)
    if status = kSuccess then { r with pairingScanActive := true, pairingScanRequested := false }
    else { r with pairingScanTimer := some 500 }

/-- The pairing scan timer expires. -/
def scanExpired (r : Receiver) (nowMs : UInt32) (status : UInt8) : Receiver :=
  if r.pairingScanTimer.isSome then { r with pairingScanTimer := none }.beginPairingScan nowMs status else r

/-! ## The pairing transaction -/

variable (p : Platform)

/-- The link key of a candidate that was never stored. -/
def dropRejectedKey (r : Receiver) (rejected : CStr) : Receiver :=
  if rejected ≠ [] ∧ r.persistentConfig.controllerAddress ≠ some rejected then
    match p.sscanfBdAddr rejected with
    | some address => r.emit (.dropLinkKey address)
    | none => r
  else r

/-- The scan and the transaction's own flags, cleared. -/
def clearPairing (r : Receiver) : Receiver :=
  { r with
    pairingScanRequested := false
    pairingScanTimer := none
    pairingScanActive := false
    pairingCandidateSelected := false
    pairingChordConfirmed := false
    pairingChordStartedMs := 0 }

/-- The address text `cancel_pairing` and `main` fall back to. -/
def fallbackAddress (r : Receiver) : CStr :=
  addressBuffer (r.persistentConfig.controllerAddress.getD p.controllerAddress)

/-- The last committed address as the one to connect to. A text that does not parse leaves the
address buffer as it was. -/
def restoreAddress (r : Receiver) : Receiver :=
  { r with
    activeControllerAddress := fallbackAddress p r
    activeControllerName := []
    activeControllerDeviceClass := 0
    controllerAddressValid := (p.sscanfBdAddr (fallbackAddress p r)).isSome
    controllerAddress := (p.sscanfBdAddr (fallbackAddress p r)).getD r.controllerAddress }

/-- The address text of a selected candidate. -/
def rejectedAddress (r : Receiver) : CStr :=
  if r.pairingCandidateSelected then addressBuffer r.activeControllerAddress else []

/-- `cancel_pairing`. -/
def cancelPairing (r : Receiver) : Receiver :=
  let r' := dropRejectedKey p (r.emit .inquiryStop).clearPairing r.rejectedAddress
  -- the disconnect is only requested: descriptor and profile stay until its closed event
  let r' := (restoreAddress p r').disconnectCurrent
  if r'.controllerAddressValid then r'.scheduleConnect 500 else r'

/-- The request of a new scan: no candidate, no transaction, nothing published. -/
def requestScan (r : Receiver) (nowMs : UInt32) : Receiver :=
  { ({ r.publishRelease with rearmRequired := true, reconnectTimer := none }.emit .inquiryStop).clearPairing with
    candidateControllerAddress := []
    candidateControllerName := []
    candidateControllerDeviceClass := 0
    pairingScanRequested := true
    pairingScanRequestedMs := nowMs }

/-- `start_pairing_scan`: restarting a scan is a rollback boundary too. -/
def startPairingScan (r : Receiver) (nowMs : UInt32) : Receiver :=
  let r := if r.pairingCandidateSelected then cancelPairing p r else r
  { (r.requestScan nowMs).disconnectCurrent with pairingScanTimer := some 750 }

/-- The candidate's fields, once its address parsed. -/
def adoptCandidate (r : Receiver) (address : CStr) (parsed : BdAddr) : Receiver :=
  { r with
    controllerAddress := parsed
    controllerAddressValid := true
    activeControllerAddress := addressBuffer address
    activeControllerName := nameBuffer r.candidateControllerName
    activeControllerDeviceClass := r.candidateControllerDeviceClass
    pairingCandidateSelected := true
    pairingChordConfirmed := false
    pairingChordStartedMs := 0 }

/-- `select_pairing_candidate`. -/
def selectPairingCandidate (r : Receiver) (address : CStr) : Bool × Receiver :=
  if r.candidateControllerAddress = [] ∨ address ≠ r.candidateControllerAddress then (false, r)
  else
    let r :=
      { r.emit .inquiryStop with
        pairingScanRequested := false, pairingScanTimer := none, pairingScanActive := false }
    match p.sscanfBdAddr address with
    | none => (false, r)
    | some parsed =>
      let r := r.adoptCandidate address parsed
      let r := if r.persistentConfig.controllerAddress = some address then r else r.emit (.dropLinkKey parsed)
      let r := r.disconnectCurrent.scheduleConnect 500
      (true, r.emitPairingState "awaiting_physical_confirmation")

/-- The link key of the controller that the new one replaces. -/
def dropReplacedKey (r : Receiver) (previous : CStr) : Receiver :=
  if previous ≠ [] ∧ previous ≠ r.activeControllerAddress then
    match p.sscanfBdAddr previous with
    | some address => r.emit (.dropLinkKey address)
    | none => r
  else r

/-- The receiver of a candidate whose address was stored. -/
def committed (r : Receiver) (previous : CStr) : Receiver :=
  let r := dropReplacedKey p r previous
  { r with
    pairingCandidateSelected := false
    pairingChordConfirmed := false
    pairingChordStartedMs := 0
    identity :=
      { controller := (r.activeProfile.map ControllerProfile.displayName).getD (some (cstr "Compatible controller"))
        address := if r.persistentConfig.controllerAddress = none then .null else .storedControllerAddress }
    rearmRequired := true }.emitPairingState "saved"

/-- `confirm_pairing_candidate`; `linkKey` says whether BTstack has a key for the address. -/
def confirmPairingCandidate (r : Receiver) (linkKey : Bool) (faults : StoreFaults) : Bool × Receiver :=
  if !r.pairingCandidateSelected || !r.pairingChordConfirmed then (false, r)
  else if !linkKey then (false, r)
  else
    let previous := addressBuffer (r.persistentConfig.controllerAddress.getD [])
    let stored := r.persistentConfig.storeControllerAddress r.flash faults r.productionMapping
      (some r.activeControllerAddress)
    let r := { r with persistentConfig := stored.config, flash := stored.flash }
    -- after a failed store the candidate stays selected, and may be confirmed again
    if stored.ok then (true, committed p r previous) else (false, r)

/-! ## Descriptors -/

/-- The probe of a descriptor. -/
def probe (r : Receiver) (descriptor : Option (List UInt8)) : ControllerProbe where
  transport := .bluetoothClassicHid
  advertisedName := if r.activeControllerName = [] then none else some r.activeControllerName
  bluetoothDeviceClass := r.activeControllerDeviceClass
  hidDescriptor := descriptor

/-- The profile of a supported descriptor. -/
def supportedProfile (r : Receiver) (status : UInt8) (descriptor : Option (List UInt8))
    (digest : Option Sha256Digest) : Option ControllerProfile :=
  if status ≠ kSuccess then none
  else
    match (selectProfile builtinControllerProfiles (r.probe descriptor)).status with
    | .matched =>
      if p.lite2DescriptorSha256 ≠ [] ∧
          descriptorMatchesSha256 (descriptor.getD []) digest p.lite2DescriptorSha256 = false then none
      else (selectProfile builtinControllerProfiles (r.probe descriptor)).profile
    | _ => none

/-- `HID_SUBEVENT_DESCRIPTOR_AVAILABLE`. -/
def descriptorAvailable (r : Receiver) (status : UInt8) (descriptor : Option (List UInt8))
    (digest : Option Sha256Digest) : Receiver :=
  match supportedProfile p r status descriptor digest with
  | some profile =>
    { r with
      activeProfile := some profile
      descriptorReady := true
      identity := { controller := profile.displayName, address := .activeControllerAddress } }
  | none =>
    let r := { r with activeProfile := none, descriptorReady := false }.failClosed
    if r.pairingCandidateSelected then
      -- the whole transaction is rolled back, not only its selected flag
      cancelPairing p (r.emitPairingState "unsupported_hid_descriptor")
    else if r.hidCid ≠ 0 then r.emit (.disconnect r.hidCid)
    else r

/-! ## What the steps write -/

variable {p} {r : Receiver}

theorem emitPairingState_eq (state : String) : ∃ outputs, (∀ o ∈ r.outputs, o ∈ outputs) ∧
    r.emitPairingState state = { r with outputs := outputs } := by
  unfold emitPairingState
  split
  · exact ⟨_, fun _ ho => List.mem_append_left _ ho, rfl⟩
  · exact ⟨r.outputs, fun _ ho => ho, rfl⟩

theorem dropRejectedKey_eq (text : CStr) : ∃ outputs, (∀ o ∈ r.outputs, o ∈ outputs) ∧
    dropRejectedKey p r text = { r with outputs := outputs } := by
  unfold dropRejectedKey
  split
  · split
    · exact ⟨_, fun _ ho => List.mem_append_left _ ho, rfl⟩
    · exact ⟨r.outputs, fun _ ho => ho, rfl⟩
  · exact ⟨r.outputs, fun _ ho => ho, rfl⟩

theorem dropReplacedKey_eq (text : CStr) : ∃ outputs, (∀ o ∈ r.outputs, o ∈ outputs) ∧
    dropReplacedKey p r text = { r with outputs := outputs } := by
  unfold dropReplacedKey
  split
  · split
    · exact ⟨_, fun _ ho => List.mem_append_left _ ho, rfl⟩
    · exact ⟨r.outputs, fun _ ho => ho, rfl⟩
  · exact ⟨r.outputs, fun _ ho => ho, rfl⟩

/-- The disconnect of the connection the receiver knows is requested, and the connection forgotten. -/
theorem disconnectCurrent_eq : ∃ outputs, (∀ o ∈ r.outputs, o ∈ outputs) ∧
    (r.hidCid ≠ 0 → Output.disconnect r.hidCid ∈ outputs) ∧
    r.disconnectCurrent = { r with hidCid := 0, outputs := outputs } := by
  unfold disconnectCurrent
  split
  · exact ⟨_, fun _ ho => List.mem_append_left _ ho, fun _ => List.mem_append_right _ (List.mem_singleton_self _), rfl⟩
  · rename_i h
    rw [not_not] at h
    refine ⟨r.outputs, fun _ ho => ho, fun hne => absurd h hne, ?_⟩
    rw [← h]

/-- A cancellation clears the scan and the transaction, restores the address, forgets the connection, and
schedules a reconnect to a valid address. -/
theorem cancelPairing_eq (r : Receiver) : ∃ outputs, (∀ o ∈ r.outputs, o ∈ outputs) ∧
    (r.hidCid ≠ 0 → Output.disconnect r.hidCid ∈ outputs) ∧
    Receiver.cancelPairing p r =
      { restoreAddress p r.clearPairing with
        hidCid := 0
        reconnectTimer := if (p.sscanfBdAddr (fallbackAddress p r)).isSome then some 500 else r.reconnectTimer
        outputs := outputs } := by
  obtain ⟨dropped, hdropped, hdrop⟩ := dropRejectedKey_eq (p := p) (r := (r.emit .inquiryStop).clearPairing) r.rejectedAddress
  obtain ⟨cut, hcut, hrequest, hdisconnect⟩ :=
    disconnectCurrent_eq (r := restoreAddress p { (r.emit .inquiryStop).clearPairing with outputs := dropped })
  refine ⟨cut, fun o ho => hcut o (hdropped o (List.mem_append_left _ ho)), hrequest, ?_⟩
  unfold Receiver.cancelPairing
  dsimp only
  rw [hdrop, hdisconnect]
  split
  · rename_i hvalid
    have hsome : (p.sscanfBdAddr (fallbackAddress p r)).isSome = true := hvalid
    rw [if_pos hsome]
    rfl
  · rename_i hvalid
    have hnone : ¬ (p.sscanfBdAddr (fallbackAddress p r)).isSome = true := hvalid
    rw [if_neg hnone]
    rfl

/-- A start of a scan rolls a selected candidate back, requests the scan, and forgets the connection. -/
theorem startPairingScan_eq (r : Receiver) (nowMs : UInt32) : ∃ s outputs,
    (s = if r.pairingCandidateSelected then Receiver.cancelPairing p r else r) ∧ (∀ o ∈ s.outputs, o ∈ outputs) ∧
    (s.hidCid ≠ 0 → Output.disconnect s.hidCid ∈ outputs) ∧
    startPairingScan p r nowMs =
      { s.requestScan nowMs with hidCid := 0, pairingScanTimer := some 750, outputs := outputs } := by
  obtain ⟨cut, hcut, hrequest, hdisconnect⟩ := disconnectCurrent_eq
    (r := (if r.pairingCandidateSelected then Receiver.cancelPairing p r else r).requestScan nowMs)
  refine ⟨_, cut, rfl, fun o ho => hcut o (List.mem_append_left _ ho), hrequest, ?_⟩
  exact congrArg (fun s : Receiver => { s with pairingScanTimer := some 750 }) hdisconnect

/-- A selection is refused, or of the offered text; the text does not parse, or the candidate is adopted. -/
theorem selectPairingCandidate_eq (r : Receiver) (address : CStr) :
    ((r.candidateControllerAddress = [] ∨ address ≠ r.candidateControllerAddress) ∧
        selectPairingCandidate p r address = (false, r)) ∨
      (r.candidateControllerAddress ≠ [] ∧ address = r.candidateControllerAddress ∧
        ((p.sscanfBdAddr address = none ∧
            selectPairingCandidate p r address =
              (false,
                { r with
                  pairingScanRequested := false
                  pairingScanTimer := none
                  pairingScanActive := false
                  outputs := r.outputs ++ [.inquiryStop] })) ∨
          ∃ parsed outputs, p.sscanfBdAddr address = some parsed ∧ (∀ o ∈ r.outputs, o ∈ outputs) ∧
            (r.hidCid ≠ 0 → Output.disconnect r.hidCid ∈ outputs) ∧
            selectPairingCandidate p r address =
              (true,
                { r.adoptCandidate address parsed with
                  pairingScanRequested := false
                  pairingScanTimer := none
                  pairingScanActive := false
                  hidCid := 0
                  reconnectTimer := some 500
                  outputs := outputs }))) := by
  unfold selectPairingCandidate
  split
  · rename_i h
    exact .inl ⟨h, rfl⟩
  · rename_i h
    push Not at h
    refine .inr ⟨h.1, h.2, ?_⟩
    dsimp only
    split
    · rename_i hnone
      exact .inl ⟨hnone, rfl⟩
    · rename_i parsed hparsed
      right
      have hkey : ∀ r₁ : Receiver, ∃ outputs, (∀ o ∈ r₁.outputs, o ∈ outputs) ∧
          (if r₁.persistentConfig.controllerAddress = some address then r₁ else r₁.emit (.dropLinkKey parsed)) =
            { r₁ with outputs := outputs } := by
        intro r₁
        split
        · exact ⟨r₁.outputs, fun _ ho => ho, rfl⟩
        · exact ⟨_, fun _ ho => List.mem_append_left _ ho, rfl⟩
      obtain ⟨kept, hkept, hk⟩ := hkey (adoptCandidate { r.emit .inquiryStop with
        pairingScanRequested := false, pairingScanTimer := none, pairingScanActive := false } address parsed)
      obtain ⟨cut, hcut, hrequest, hdisconnect⟩ := disconnectCurrent_eq (r := { adoptCandidate { r.emit .inquiryStop with
        pairingScanRequested := false, pairingScanTimer := none, pairingScanActive := false } address parsed with
        outputs := kept })
      obtain ⟨told, htold, hstate⟩ := emitPairingState_eq (r := { r.adoptCandidate address parsed with
        pairingScanRequested := false, pairingScanTimer := none, pairingScanActive := false, hidCid := 0,
        reconnectTimer := some 500, outputs := cut }) "awaiting_physical_confirmation"
      rw [hk, hdisconnect]
      refine ⟨parsed, told, hparsed, fun o ho => htold o (hcut o (hkept o (List.mem_append_left _ ho))),
        fun hne => htold _ (hrequest hne), ?_⟩
      exact congrArg (Prod.mk true) hstate

theorem committed_eq (r : Receiver) (previous : CStr) : ∃ outputs, (∀ o ∈ r.outputs, o ∈ outputs) ∧
    committed p r previous =
      { r with
        pairingCandidateSelected := false
        pairingChordConfirmed := false
        pairingChordStartedMs := 0
        identity :=
          { controller := (r.activeProfile.map ControllerProfile.displayName).getD (some (cstr "Compatible controller"))
            address := if r.persistentConfig.controllerAddress = none then .null else .storedControllerAddress }
        rearmRequired := true
        outputs := outputs } := by
  obtain ⟨dropped, hdropped, hdrop⟩ := dropReplacedKey_eq (p := p) (r := r) previous
  unfold committed
  rw [hdrop]
  obtain ⟨told, htold, hstate⟩ := emitPairingState_eq
    (r :=
      { r with
        pairingCandidateSelected := false
        pairingChordConfirmed := false
        pairingChordStartedMs := 0
        identity :=
          { controller := (r.activeProfile.map ControllerProfile.displayName).getD (some (cstr "Compatible controller"))
            address := if r.persistentConfig.controllerAddress = none then .null else .storedControllerAddress }
        rearmRequired := true
        outputs := dropped }) "saved"
  exact ⟨told, fun o ho => htold o (hdropped o ho), hstate⟩

/-- A confirmation is refused, or stores the selected address; what it writes besides, once the store succeeds,
is the committed candidate. -/
theorem confirmPairingCandidate_eq (r : Receiver) (linkKey : Bool) (faults : StoreFaults) :
    confirmPairingCandidate p r linkKey faults = (false, r) ∨
      ∃ stored, stored = r.persistentConfig.storeControllerAddress r.flash faults r.productionMapping
          (some r.activeControllerAddress) ∧
        ((stored.ok = false ∧
            confirmPairingCandidate p r linkKey faults =
              (false, { r with persistentConfig := stored.config, flash := stored.flash })) ∨
          (stored.ok = true ∧ (r.pairingCandidateSelected = true ∧ r.pairingChordConfirmed = true ∧ linkKey = true) ∧
            ∃ controller outputs, (∀ o ∈ r.outputs, o ∈ outputs) ∧
              confirmPairingCandidate p r linkKey faults =
                (true,
                  { r with
                    persistentConfig := stored.config
                    flash := stored.flash
                    pairingCandidateSelected := false
                    pairingChordConfirmed := false
                    pairingChordStartedMs := 0
                    identity :=
                      { controller := controller
                        address :=
                          if stored.config.controllerAddress = none then .null else .storedControllerAddress }
                    rearmRequired := true
                    outputs := outputs }))) := by
  unfold confirmPairingCandidate
  split
  · exact .inl rfl
  · rename_i hchecks
    split
    · exact .inl rfl
    · rename_i hkey
      refine .inr ⟨_, rfl, ?_⟩
      dsimp only
      split
      · rename_i hok
        have hboth : r.pairingCandidateSelected = true ∧ r.pairingChordConfirmed = true := by simpa using hchecks
        obtain ⟨outputs, houtputs, h⟩ := committed_eq (p := p) { r with
          persistentConfig := (r.persistentConfig.storeControllerAddress r.flash faults r.productionMapping
            (some r.activeControllerAddress)).config
          flash := (r.persistentConfig.storeControllerAddress r.flash faults r.productionMapping
            (some r.activeControllerAddress)).flash } (addressBuffer (r.persistentConfig.controllerAddress.getD []))
        exact .inr ⟨hok, ⟨hboth.1, hboth.2, by simpa using hkey⟩, _, outputs, houtputs, congrArg (Prod.mk true) h⟩
      · rename_i hok
        exact .inl ⟨(Bool.not_eq_true _).mp hok, rfl⟩

/-- A descriptor is accepted, or closes the receiver and rolls a selected candidate back. -/
theorem descriptorAvailable_eq (r : Receiver) (status : UInt8) (descriptor : Option (List UInt8))
    (digest : Option Sha256Digest) :
    (∃ profile, supportedProfile p r status descriptor digest = some profile ∧
        descriptorAvailable p r status descriptor digest =
          { r with
            activeProfile := some profile
            descriptorReady := true
            identity := { controller := profile.displayName, address := .activeControllerAddress } }) ∨
      (supportedProfile p r status descriptor digest = none ∧
        ∃ outputs, (∀ o ∈ r.outputs, o ∈ outputs) ∧
          ((r.pairingCandidateSelected = true ∧
              descriptorAvailable p r status descriptor digest =
                Receiver.cancelPairing p { r.failClosed with outputs := outputs }) ∨
            (r.pairingCandidateSelected = false ∧
              descriptorAvailable p r status descriptor digest = { r.failClosed with outputs := outputs }))) := by
  unfold descriptorAvailable
  split
  · rename_i profile hprofile
    exact .inl ⟨profile, hprofile, rfl⟩
  · rename_i hnone
    refine .inr ⟨hnone, ?_⟩
    dsimp only
    split
    · rename_i hselected
      obtain ⟨outputs, houtputs, h⟩ := emitPairingState_eq
        (r := ({ r with activeProfile := none, descriptorReady := false } : Receiver).failClosed) "unsupported_hid_descriptor"
      exact ⟨outputs, houtputs, .inl ⟨hselected, congrArg (Receiver.cancelPairing p) h⟩⟩
    · rename_i hfree
      have hfree' : r.pairingCandidateSelected = false := (Bool.not_eq_true _).mp hfree
      split
      · exact ⟨_, fun _ ho => List.mem_append_left _ ho, .inr ⟨hfree', rfl⟩⟩
      · exact ⟨r.outputs, fun _ ho => ho, .inr ⟨hfree', rfl⟩⟩

theorem reconnectExpired_eq (r : Receiver) (status : UInt8) (cid : UInt16) : ∃ known last timer outputs,
    (∀ o ∈ r.outputs, o ∈ outputs) ∧
    r.reconnectExpired status cid =
      { r with hidCid := known, lastHidCid := last, reconnectTimer := timer, outputs := outputs } := by
  unfold reconnectExpired connectController
  split
  · split
    · exact ⟨r.hidCid, r.lastHidCid, none, r.outputs, fun _ ho => ho, rfl⟩
    · have hconnect : ∀ o ∈ r.outputs, o ∈ (r.emit (.connect r.controllerAddress)).outputs :=
        fun _ ho => List.mem_append_left _ ho
      dsimp only
      split
      · split
        · exact ⟨0, r.lastHidCid, some 5000, _, fun o ho => List.mem_append_left _ (hconnect o ho), rfl⟩
        · exact ⟨0, r.lastHidCid, some 5000, _, hconnect, rfl⟩
      · exact ⟨cid, 0, none, _, hconnect, rfl⟩
  · exact ⟨r.hidCid, r.lastHidCid, r.reconnectTimer, r.outputs, fun _ ho => ho, rfl⟩

/-- An incoming connection is declined, accepted, or fails and closes the receiver. -/
theorem incomingConnection_eq (r : Receiver) (address : BdAddr) (cid : UInt16) (status acceptStatus : UInt8) :
    ∃ s known last timer outputs, (s = r ∨ s = r.failClosed) ∧ (∀ o ∈ r.outputs, o ∈ outputs) ∧
      r.incomingConnection address cid status acceptStatus =
        { s with hidCid := known, lastHidCid := last, reconnectTimer := timer, outputs := outputs } := by
  unfold incomingConnection
  split
  · exact ⟨r, r.hidCid, r.lastHidCid, r.reconnectTimer, _, .inl rfl, fun _ ho => List.mem_append_left _ ho, rfl⟩
  · dsimp only
    split
    · exact ⟨r.failClosed, 0, 0, some kReconnectMs, _, .inr rfl, fun _ ho => List.mem_append_left _ ho, rfl⟩
    · exact ⟨r, cid, 0, none, _, .inl rfl, fun _ ho => List.mem_append_left _ ho, rfl⟩

theorem connectionOpened_eq (r : Receiver) (status : UInt8) (cid : UInt16) : ∃ connected known last timer outputs,
    (∀ o ∈ r.outputs, o ∈ outputs) ∧
    r.connectionOpened status cid =
      { r.failClosed with
        controllerConnected := connected
        hidCid := known
        lastHidCid := last
        reconnectTimer := timer
        outputs := outputs } := by
  unfold connectionOpened
  split
  · exact ⟨true, cid, 0, none, r.outputs, fun _ ho => ho, rfl⟩
  · exact ⟨false, 0, cid, some 5000, _, fun _ ho => List.mem_append_left _ ho, rfl⟩

theorem connectionClosed_eq (r : Receiver) : ∃ timer,
    r.connectionClosed = { r.failClosed with hidCid := 0, lastHidCid := 0, reconnectTimer := timer } := by
  unfold connectionClosed
  dsimp only
  split
  · exact ⟨r.reconnectTimer, rfl⟩
  · split
    · exact ⟨some kReconnectMs, rfl⟩
    · exact ⟨r.reconnectTimer, rfl⟩

/-- What an inquiry result writes: the offered candidate. -/
theorem inquiryResult_eq (r : Receiver) (result : InquiryResult) :
    Receiver.inquiryResult p r result = r ∨
      ∃ outputs, (∀ o ∈ r.outputs, o ∈ outputs) ∧
        Receiver.inquiryResult p r result =
          { r with
            candidateControllerAddress := addressBuffer (p.bdAddrToStr result.address)
            candidateControllerName := nameBuffer result.candidateName
            candidateControllerDeviceClass := result.deviceClass
            outputs := outputs } := by
  unfold Receiver.inquiryResult
  split
  · exact .inl rfl
  · split
    · exact .inl rfl
    · right
      dsimp only
      split
      · exact ⟨_, fun _ ho => List.mem_append_left _ ho, rfl⟩
      · exact ⟨r.outputs, fun _ ho => ho, rfl⟩

theorem inquiryComplete_eq (r : Receiver) : ∃ outputs, (∀ o ∈ r.outputs, o ∈ outputs) ∧
    r.inquiryComplete = { r with pairingScanActive := false, outputs := outputs } :=
  emitPairingState_eq (r := { r with pairingScanActive := false }) "scan_complete"

/-- The scan timer starts no scan that was not requested. -/
theorem scanExpired_eq (r : Receiver) (nowMs : UInt32) (status : UInt8) : ∃ requested active timer outputs,
    (requested = true ∨ active = true → r.pairingScanRequested = true ∨ r.pairingScanActive = true) ∧
    (∀ o ∈ r.outputs, o ∈ outputs) ∧
    r.scanExpired nowMs status =
      { r with
        pairingScanRequested := requested
        pairingScanActive := active
        pairingScanTimer := timer
        outputs := outputs } := by
  unfold scanExpired beginPairingScan
  split
  · split
    · exact ⟨r.pairingScanRequested, r.pairingScanActive, none, r.outputs, id, fun _ ho => ho, rfl⟩
    · rename_i hnot
      have hrequested : r.pairingScanRequested = true := by simpa using hnot
      split
      · obtain ⟨outputs, houtputs, h⟩ :=
          emitPairingState_eq (r := { r with pairingScanTimer := none, pairingScanRequested := false }) "scan_failed"
        exact ⟨false, r.pairingScanActive, none, outputs, fun _ => .inl hrequested, houtputs, h⟩
      · dsimp only
        split
        · exact ⟨false, true, none, _, fun _ => .inl hrequested, fun _ ho => List.mem_append_left _ ho, rfl⟩
        · exact ⟨r.pairingScanRequested, r.pairingScanActive, some 500, _, id, fun _ ho => List.mem_append_left _ ho, rfl⟩
  · exact ⟨r.pairingScanRequested, r.pairingScanActive, r.pairingScanTimer, r.outputs, id, fun _ ho => ho, rfl⟩

end RedMonkeyMpg.Gamepad.Receiver
