/-
What one event does to the motion state of the gamepad receiver. Connections and pairing leave it
alone but for closing it; a report that parses is kept from publishing, arms, or publishes; every
other event leaves it alone, or closes it.
-/
import RedMonkeyMpg.Gamepad.Bond

namespace RedMonkeyMpg.Gamepad.Receiver

variable {p : Platform} {r : Receiver}

/-! ## Outside pairing -/

/-- The part of the state that the steps of connections and pairing leave alone. -/
structure Outside where
  rearmRequired : Bool
  lastValidReportMs : UInt32
  productionMapping : ProductionMapping
  usb : UsbLine
  configActive : Bool
  configWasActive : Bool
  persistentConfig : PersistentConfig

def outside (r : Receiver) : Outside :=
  { rearmRequired := r.rearmRequired
    lastValidReportMs := r.lastValidReportMs
    productionMapping := r.productionMapping
    usb := r.usb
    configActive := r.configActive
    configWasActive := r.configWasActive
    persistentConfig := r.persistentConfig }

@[simp] theorem cancelPairing_outside : (Receiver.cancelPairing p r).outside = r.outside := by
  obtain ⟨outputs, -, -, h⟩ := cancelPairing_eq (p := p) r
  rw [h]
  rfl

@[simp] theorem reconnectExpired_outside (status : UInt8) (cid : UInt16) :
    (r.reconnectExpired status cid).outside = r.outside := by
  obtain ⟨known, last, timer, outputs, -, h⟩ := r.reconnectExpired_eq status cid
  rw [h]
  rfl

@[simp] theorem inquiryResult_outside (result : InquiryResult) :
    (Receiver.inquiryResult p r result).outside = r.outside := by
  rcases inquiryResult_eq (p := p) r result with h | ⟨outputs, -, h⟩
  · rw [h]
  · rw [h]
    rfl

@[simp] theorem inquiryComplete_outside : r.inquiryComplete.outside = r.outside := by
  obtain ⟨outputs, -, h⟩ := r.inquiryComplete_eq
  rw [h]
  rfl

@[simp] theorem scanExpired_outside (nowMs : UInt32) (status : UInt8) :
    (r.scanExpired nowMs status).outside = r.outside := by
  obtain ⟨requested, active, timer, outputs, -, -, h⟩ := r.scanExpired_eq nowMs status
  rw [h]
  rfl

@[simp] theorem userConfirmationRequest_outside (address : BdAddr) :
    (r.userConfirmationRequest address).outside = r.outside := by
  unfold userConfirmationRequest
  split <;> rfl

/-! ## Quiet and closing steps -/

/-- A step that left the wanted report, the re-arm flag and the time of the last report alone. -/
structure Quiet (r r' : Receiver) : Prop where
  desired : r'.usb.desired = r.usb.desired
  rearmRequired : r'.rearmRequired = r.rearmRequired
  lastValidReportMs : r'.lastValidReportMs = r.lastValidReportMs

/-- A closed receiver: nothing wanted, and a neutral report needed. -/
structure Closed (r : Receiver) : Prop where
  desired : r.usb.desired = .release
  rearmRequired : r.rearmRequired = true

theorem Quiet.of_outside {r' : Receiver} (h : r'.outside = r.outside) : Quiet r r' :=
  ⟨congrArg (·.usb.desired) h, congrArg Outside.rearmRequired h, congrArg Outside.lastValidReportMs h⟩

theorem Closed.of_outside {r' : Receiver} (h : r'.outside = r.outside) (hc : Closed r) : Closed r' :=
  ⟨by rw [(Quiet.of_outside h).desired, hc.desired], by rw [(Quiet.of_outside h).rearmRequired, hc.rearmRequired]⟩

theorem failClosed_closed (r : Receiver) : Closed r.failClosed := ⟨rfl, rfl⟩

theorem refuseReport_closed (r : Receiver) (nowMs : UInt32) : Closed (r.refuseReport nowMs) := ⟨rfl, rfl⟩

theorem connectionOpened_closed (r : Receiver) (status : UInt8) (cid : UInt16) :
    Closed (r.connectionOpened status cid) := by
  unfold connectionOpened
  split <;> exact ⟨rfl, rfl⟩

theorem connectionClosed_closed (r : Receiver) : Closed r.connectionClosed := by
  unfold connectionClosed
  dsimp only
  split
  · exact ⟨rfl, rfl⟩
  · split <;> exact ⟨rfl, rfl⟩

theorem incomingConnection_cases (r : Receiver) (address : BdAddr) (cid : UInt16) (status acceptStatus : UInt8) :
    Quiet r (r.incomingConnection address cid status acceptStatus) ∨
      Closed (r.incomingConnection address cid status acceptStatus) := by
  unfold incomingConnection
  split
  · exact .inl ⟨rfl, rfl, rfl⟩
  · dsimp only
    split
    · exact .inr ⟨rfl, rfl⟩
    · exact .inl ⟨rfl, rfl, rfl⟩

theorem descriptorAvailable_cases (r : Receiver) (status : UInt8) (descriptor : Option (List UInt8))
    (digest : Option Sha256Digest) :
    Quiet r (Receiver.descriptorAvailable p r status descriptor digest) ∨
      Closed (Receiver.descriptorAvailable p r status descriptor digest) := by
  rcases descriptorAvailable_eq (p := p) r status descriptor digest with
    ⟨profile, -, h⟩ | ⟨-, outputs, -, ⟨-, h⟩ | ⟨-, h⟩⟩
  · rw [h]
    exact .inl ⟨rfl, rfl, rfl⟩
  · rw [h]
    exact .inr (Closed.of_outside (r := r.failClosed) cancelPairing_outside (failClosed_closed r))
  · rw [h]
    exact .inr ⟨rfl, rfl⟩

theorem serviceUsbKeyboard_cases (r : Receiver) (a : UsbAnswer) :
    ((r.usb.service a).fault = false ∧ Quiet r (r.serviceUsbKeyboard a)) ∨
      ((r.usb.service a).fault = true ∧ Closed (r.serviceUsbKeyboard a)) := by
  rcases r.usb.service_desired a with ⟨hf, hd⟩ | ⟨hf, hd⟩
  · refine .inl ⟨hf, ?_⟩
    unfold serviceUsbKeyboard
    dsimp only
    split <;> exact ⟨hd, by simp [hf, emit], rfl⟩
  · refine .inr ⟨hf, ?_⟩
    unfold serviceUsbKeyboard
    dsimp only
    split <;> exact ⟨hd, by simp [hf, emit]⟩

theorem serviceStaleInput_cases (r : Receiver) (nowMs : UInt32) :
    (r.staleKey nowMs = false ∧ r.serviceStaleInput nowMs = r) ∨
      (r.staleKey nowMs = true ∧ Closed (r.serviceStaleInput nowMs)) := by
  unfold serviceStaleInput
  cases h : r.staleKey nowMs with
  | false => exact .inl ⟨rfl, rfl⟩
  | true => exact .inr ⟨rfl, rfl, rfl⟩

/-! ## The setup session -/

theorem startPairingScan_outside (nowMs : UInt32) : (startPairingScan p r nowMs).outside =
    { r.outside with rearmRequired := true, usb := r.usb.publishRelease } := by
  obtain ⟨s, outputs, hs, -, -, h⟩ := startPairingScan_eq (p := p) r nowMs
  have hsame : s.outside = r.outside := by
    rw [hs]
    split
    · exact cancelPairing_outside
    · rfl
  have husb : s.usb = r.usb := congrArg Outside.usb hsame
  calc (startPairingScan p r nowMs).outside
      = { s.outside with rearmRequired := true, usb := s.usb.publishRelease } := by rw [h]; rfl
    _ = { r.outside with rearmRequired := true, usb := r.usb.publishRelease } := by rw [hsame, husb]

theorem selectPairingCandidate_outside (address : CStr) :
    (selectPairingCandidate p r address).2.outside = r.outside := by
  rcases selectPairingCandidate_eq (p := p) r address with ⟨-, h⟩ | ⟨-, -, ⟨-, h⟩ | ⟨parsed, outputs, -, -, -, h⟩⟩
  · rw [h]
  · rw [h]
    rfl
  · rw [h]
    rfl

theorem confirmPairingCandidate_outside (linkKey : Bool) (faults : StoreFaults) :
    ∃ config rearm, (confirmPairingCandidate p r linkKey faults).2.outside =
      { r.outside with persistentConfig := config, rearmRequired := rearm } := by
  rcases confirmPairingCandidate_eq (p := p) r linkKey faults with
    h | ⟨stored, -, ⟨-, h⟩ | ⟨-, -, controller, outputs, -, h⟩⟩
  · rw [h]
    exact ⟨_, _, rfl⟩
  · rw [h]
    exact ⟨_, _, rfl⟩
  · rw [h]
    exact ⟨_, true, rfl⟩

theorem setConfig_outside (mapping : ProductionMapping) (faults : StoreFaults) :
    ∃ config live, (r.setConfig mapping faults).outside =
      { r.outside with persistentConfig := config, productionMapping := live } := by
  rcases r.setConfig_eq mapping faults with h | ⟨-, stored, -, h⟩
  · rw [h]
    exact ⟨_, _, rfl⟩
  · rw [h]
    exact ⟨_, _, rfl⟩

/-- A step that leaves the session as it is. -/
structure SessionKept (r r' : Receiver) : Prop where
  configActive : r'.configActive = r.configActive
  configWasActive : r'.configWasActive = r.configWasActive

theorem SessionKept.of_outside {r' : Receiver} {rearm : Bool} {usb : UsbLine} {config : PersistentConfig}
    {live : ProductionMapping}
    (h : r'.outside =
      { r.outside with
        rearmRequired := rearm, usb := usb, persistentConfig := config, productionMapping := live }) :
    SessionKept r r' :=
  ⟨congrArg Outside.configActive h, congrArg Outside.configWasActive h⟩

theorem handleCommand_session (r : Receiver) (c : SetupCommand) : SessionKept r (handleCommand p r c) := by
  cases c with
  | setConfig mapping faults =>
    obtain ⟨config, live, h⟩ := r.setConfig_outside mapping faults
    exact .of_outside h
  | startScan nowMs => exact .of_outside (startPairingScan_outside nowMs)
  | pairCandidate address => exact .of_outside (selectPairingCandidate_outside address)
  | confirmPairing linkKey faults =>
    obtain ⟨config, rearm, h⟩ := confirmPairingCandidate_outside (p := p) (r := r) linkKey faults
    exact .of_outside h
  | cancelPairing => exact .of_outside cancelPairing_outside
  | other => exact ⟨rfl, rfl⟩

theorem handleCommands_session (cs : List SetupCommand) (r : Receiver) :
    SessionKept r (cs.foldl (handleCommand p) r) := by
  induction cs generalizing r with
  | nil => exact ⟨rfl, rfl⟩
  | cons c cs ih =>
    have h := handleCommand_session (p := p) r c
    have h' := ih (handleCommand p r c)
    exact ⟨h'.configActive.trans h.configActive, h'.configWasActive.trans h.configWasActive⟩

/-- A pass with an active session closes the receiver. -/
theorem setupSession_active {cdc : Bool} (cs : List SetupCommand) (h : r.configConnected cdc = true) :
    Closed (setupSession p r cdc cs) ∧ (setupSession p r cdc cs).configActive = true ∧
      (setupSession p r cdc cs).configWasActive = true := by
  obtain ⟨ha, -⟩ := handleCommands_session (p := p) cs { r with configActive := true }
  rw [← configService_connected cs h] at ha
  unfold setupSession
  simp only [ha, if_true]
  exact ⟨⟨rfl, rfl⟩, ha, ha⟩

/-- A pass without a session leaves the motion state alone; the pass that sees the session closed
cancels a pairing transaction. -/
theorem setupSession_inactive {cdc : Bool} (cs : List SetupCommand) (h : r.configConnected cdc = false) :
    (setupSession p r cdc cs).outside = { r.outside with configActive := false, configWasActive := false } ∧
      ((setupSession p r cdc cs).pairingCandidateSelected = true →
        r.pairingCandidateSelected = true ∧ r.configWasActive = false) := by
  obtain ⟨s, hs, ⟨-, -, rfl⟩ | ⟨hno, rfl⟩⟩ := setupSession_disconnected (p := p) cs h
  · rw [hs]
    have hcancel := cancelPairing_outside (p := p) (r := { r with configActive := false })
    have hbond := cancelPairing_bond (p := p) (r := { r with configActive := false })
    generalize Receiver.cancelPairing p { r with configActive := false } = s at hcancel hbond ⊢
    have ha : s.configActive = false := congrArg Outside.configActive hcancel
    refine ⟨?_, fun hc => ?_⟩
    · calc ({ s with configWasActive := s.configActive } : Receiver).outside
          = { s.outside with configWasActive := s.configActive } := rfl
        _ = { r.outside with configActive := false, configWasActive := false } := by rw [hcancel, ha]; rfl
    · have hfree : s.pairingCandidateSelected = false := congrArg Bond.pairingCandidateSelected hbond
      exact Bool.noConfusion (hfree.symm.trans hc)
  · rw [hs]
    refine ⟨rfl, fun hc => ⟨hc, ?_⟩⟩
    by_contra hwas
    exact hno ⟨(Bool.not_eq_false _).mp hwas, .inr (.inr hc)⟩

end RedMonkeyMpg.Gamepad.Receiver
