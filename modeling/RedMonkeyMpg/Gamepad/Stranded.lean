/-
Whether a receiver without a session comes back to its controller. A start of a scan removes the
reconnect timer, and only a selection, a cancellation or a connection sets it again: a scan that
ends by itself leaves a valid address with nothing under way, and a session that closes after it
finds no scan to cancel. `step_lost` says which events lose the controller, and which bring it back.
-/
import RedMonkeyMpg.Gamepad.Chord

namespace RedMonkeyMpg.Gamepad

namespace Receiver

/-- What ties the receiver to its controller: the address, the connection, the timer that brings one,
and the scan that keeps it away. -/
structure Tether where
  controllerAddressValid : Bool
  hidCid : UInt16
  reconnectTimer : Option UInt32
  pairingScanRequested : Bool
  pairingScanActive : Bool

def tether (r : Receiver) : Tether :=
  { controllerAddressValid := r.controllerAddressValid
    hidCid := r.hidCid
    reconnectTimer := r.reconnectTimer
    pairingScanRequested := r.pairingScanRequested
    pairingScanActive := r.pairingScanActive }

namespace Tether

/-- A valid address with no connection, and no timer to bring one. -/
structure Loose (t : Tether) : Prop where
  valid : t.controllerAddressValid = true
  hidCid : t.hidCid = 0
  timer : t.reconnectTimer = none

def Scanning (t : Tether) : Prop := t.pairingScanRequested = true ∨ t.pairingScanActive = true

/-- Loose, and not for a scan. -/
def Adrift (t : Tether) : Prop := t.Loose ∧ ¬ t.Scanning

instance (t : Tether) : Decidable t.Loose :=
  decidable_of_iff (t.controllerAddressValid = true ∧ t.hidCid = 0 ∧ t.reconnectTimer = none)
    ⟨fun ⟨hv, hc, ht⟩ => ⟨hv, hc, ht⟩, fun h => ⟨h.valid, h.hidCid, h.timer⟩⟩

variable {t : Tether}

theorem loose_congr {u : Tether} (hv : u.controllerAddressValid = t.controllerAddressValid) (hc : u.hidCid = t.hidCid)
    (ht : u.reconnectTimer = t.reconnectTimer) : u.Loose ↔ t.Loose :=
  ⟨fun h => ⟨hv ▸ h.valid, hc ▸ h.hidCid, ht ▸ h.timer⟩,
    fun h => ⟨hv ▸ h.valid, hc ▸ h.hidCid, ht ▸ h.timer⟩⟩

theorem not_adrift_of_timer {ms : UInt32} (h : t.reconnectTimer = some ms) : ¬ t.Adrift := by
  rintro ⟨hloose, -⟩
  rw [hloose.timer] at h
  cases h

theorem not_adrift_of_hidCid (h : t.hidCid ≠ 0) : ¬ t.Adrift := fun ha => h ha.1.hidCid

theorem not_adrift_of_invalid (h : t.controllerAddressValid = false) : ¬ t.Adrift := by
  rintro ⟨hloose, -⟩
  rw [hloose.valid] at h
  cases h

theorem not_adrift_of_scanning (h : t.Scanning) : ¬ t.Adrift := fun ha => ha.2 h

end Tether

/-! ## The events that lose the controller or bring it back -/

/-- A request that starts a scan, selects the candidate that is offered, or cancels. -/
def SetupCommand.restarts (text : CStr) : SetupCommand → Bool
  | .startScan _ => true
  | .pairCandidate address => text ≠ [] && address == text
  | .cancelPairing => true
  | _ => false

/-- A scan ends by itself: its inquiry completes, or its request is 65 seconds old. -/
def Event.runsOut (r : Receiver) : Event → Bool
  | .bluetooth .inquiryComplete => r.pairingScanActive && !r.pairingScanRequested
  | .bluetooth (.scanTimer nowMs _) =>
    r.pairingScanTimer.isSome && r.pairingScanRequested && decide (nowMs - r.pairingScanRequestedMs > 65000) &&
      !r.pairingScanActive
  | _ => false

/-- Bluetooth starts up, a connection comes from the address in the buffer, opens or ends, a scan starts, a
candidate is selected, or pairing is cancelled: by a request, by the candidate's descriptor, or by the end of
the session. -/
def Event.reconnects (p : Platform) (r : Receiver) : Event → Bool
  | .bluetooth (.state working) => working
  | .bluetooth (.incomingConnection address _ status _) => status == kSuccess && address == r.controllerAddress
  | .bluetooth (.connectionOpened _ _) => true
  | .bluetooth .connectionClosed => true
  | .bluetooth (.descriptorAvailable status descriptor digest) =>
    (supportedProfile p r status descriptor digest).isNone && r.pairingCandidateSelected
  | .setupSession cdcConnected commands =>
    if r.configConnected cdcConnected then commands.any (·.restarts r.candidateControllerAddress)
    else r.configWasActive && (r.pairingScanRequested || r.pairingScanActive || r.pairingCandidateSelected)
  | _ => false

variable {p : Platform} {r s : Receiver}

/-! ## What leaves the tether alone -/

theorem emitPairingState_tether (text : String) : (r.emitPairingState text).tether = r.tether := by
  unfold emitPairingState
  split <;> rfl

theorem inquiryResult_tether (result : InquiryResult) : (Receiver.inquiryResult p r result).tether = r.tether := by
  rcases inquiryResult_eq (p := p) r result with h | ⟨outputs, -, h⟩
  · rw [h]
  · rw [h]
    rfl

theorem userConfirmationRequest_tether (address : BdAddr) : (r.userConfirmationRequest address).tether = r.tether := by
  unfold userConfirmationRequest
  split <;> rfl

theorem consumeControllerReport_tether (report : List UInt8) (nowMs : UInt32) :
    (r.consumeControllerReport report nowMs).tether = r.tether := by
  obtain ⟨rearm, last, mapper, wanted, started, confirmed, outputs, -, h⟩ := r.consumeControllerReport_eq report nowMs
  rw [h]
  rfl

theorem serviceStaleInput_tether (nowMs : UInt32) : (r.serviceStaleInput nowMs).tether = r.tether := by
  unfold serviceStaleInput
  split <;> rfl

theorem serviceUsbKeyboard_tether (a : UsbAnswer) : (r.serviceUsbKeyboard a).tether = r.tether := by
  unfold serviceUsbKeyboard
  dsimp only
  split <;> rfl

theorem setConfig_tether (mapping : ProductionMapping) (faults : StoreFaults) :
    (r.setConfig mapping faults).tether = r.tether := by
  rcases r.setConfig_eq mapping faults with h | ⟨-, stored, -, h⟩
  · rw [h]
  · rw [h]
    rfl

/-- A confirmation needs no reconnect: the candidate's connection stays. -/
theorem confirmPairingCandidate_tether (linkKey : Bool) (faults : StoreFaults) :
    (confirmPairingCandidate p r linkKey faults).2.tether = r.tether := by
  rcases confirmPairingCandidate_eq (p := p) r linkKey faults with
    h | ⟨stored, -, ⟨-, h⟩ | ⟨-, -, controller, outputs, -, h⟩⟩
  · rw [h]
  · rw [h]
    rfl
  · rw [h]
    rfl

/-! ## What brings the controller back -/

theorem cancelPairing_moored : ¬ (Receiver.cancelPairing p r).tether.Adrift := by
  obtain ⟨outputs, -, -, h⟩ := cancelPairing_eq (p := p) r
  rw [h]
  cases hvalid : (p.sscanfBdAddr (fallbackAddress p r)).isSome with
  | true => exact Tether.not_adrift_of_timer rfl
  | false => exact Tether.not_adrift_of_invalid hvalid

theorem cancelPairing_not_scanning : ¬ (Receiver.cancelPairing p r).tether.Scanning := by
  obtain ⟨outputs, -, -, h⟩ := cancelPairing_eq (p := p) r
  rw [h]
  rintro (hrequested | hactive)
  · cases hrequested
  · cases hactive

theorem startPairingScan_moored (nowMs : UInt32) : ¬ (startPairingScan p r nowMs).tether.Adrift := by
  obtain ⟨s, outputs, -, -, -, h⟩ := startPairingScan_eq (p := p) r nowMs
  rw [h]
  exact Tether.not_adrift_of_scanning (.inl rfl)

/-- A selection is of the candidate that is offered, whose text is an address. -/
theorem selectPairingCandidate_tether (hp : p.Documented) (hk : Bond.Kept p r.bond) (address : CStr) :
    ((SetupCommand.pairCandidate address).restarts r.candidateControllerAddress = false ∧
        (selectPairingCandidate p r address).2 = r) ∨
      ((SetupCommand.pairCandidate address).restarts r.candidateControllerAddress = true ∧
        ¬ (selectPairingCandidate p r address).2.tether.Adrift) := by
  rcases selectPairingCandidate_eq (p := p) r address with
    ⟨hrefused, h⟩ | ⟨hne, rfl, ⟨hnone, -⟩ | ⟨parsed, outputs, -, -, -, h⟩⟩
  · refine .inl ⟨?_, by rw [h]⟩
    simp only [SetupCommand.restarts, Bool.and_eq_false_iff, decide_eq_false_iff_not, beq_eq_false_iff_ne, not_not]
    exact hrefused
  · -- an offered text is that of an address
    obtain ⟨a, ha⟩ := hk.candidateText.resolve_left hne
    rw [show r.candidateControllerAddress = formatAddress a from ha, hp.sscanf] at hnone
    cases hnone
  · refine .inr ⟨by simp [SetupCommand.restarts, hne], ?_⟩
    rw [h]
    exact Tether.not_adrift_of_timer rfl

theorem connectController_moored {status : UInt8} {cid : UInt16} (hcid : status = kSuccess → cid ≠ 0) :
    ¬ (r.connectController status cid).tether.Adrift := by
  unfold connectController
  split
  · rename_i h
    rcases h with h | h
    · exact Tether.not_adrift_of_hidCid h
    · exact Tether.not_adrift_of_invalid h
  · dsimp only
    split
    · exact Tether.not_adrift_of_timer rfl
    · rename_i hs
      exact Tether.not_adrift_of_hidCid (hcid (not_not.1 hs))

theorem connectionOpened_moored {status : UInt8} {cid : UInt16} (hcid : cid ≠ 0) :
    ¬ (r.connectionOpened status cid).tether.Adrift := by
  unfold connectionOpened
  split
  · exact Tether.not_adrift_of_hidCid hcid
  · exact Tether.not_adrift_of_timer rfl

/-- A closed event schedules a reconnect, but for a scan. -/
theorem connectionClosed_moored : ¬ r.connectionClosed.tether.Adrift := by
  unfold connectionClosed
  dsimp only
  split
  · rename_i hscan
    exact Tether.not_adrift_of_scanning (Bool.or_eq_true_iff.1 hscan)
  · split
    · exact Tether.not_adrift_of_timer rfl
    · rename_i hinvalid
      exact Tether.not_adrift_of_invalid ((Bool.not_eq_true _).mp hinvalid)

/-! ## Every event -/

/-- A step after which the receiver is adrift: its scan ran out, or it was adrift and nothing brought the
controller back. -/
def Drifts (p : Platform) (r : Receiver) (e : Event) (s : Receiver) : Prop :=
  s.tether.Adrift ↔ (r.tether.Loose ∧ e.runsOut r = true) ∨ (r.tether.Adrift ∧ e.reconnects p r = false)

theorem Drifts.of_tether {e : Event} (h : s.tether = r.tether) (hout : e.runsOut r = false)
    (hno : e.reconnects p r = false) : Drifts p r e s := by
  unfold Drifts
  rw [h, hout, hno]
  simp

theorem Drifts.of_moored {e : Event} (h : ¬ s.tether.Adrift) (hout : e.runsOut r = false)
    (hre : e.reconnects p r = true) : Drifts p r e s := by
  unfold Drifts
  rw [hout, hre]
  simp [h]

theorem Drifts.of_never {e : Event} (h : ¬ s.tether.Adrift) (hbefore : ¬ r.tether.Adrift) (hout : e.runsOut r = false) :
    Drifts p r e s := by
  unfold Drifts
  rw [hout]
  simp [h, hbefore]

theorem inquiryComplete_drifts : Drifts p r (.bluetooth .inquiryComplete) r.inquiryComplete := by
  obtain ⟨outputs, -, h⟩ := r.inquiryComplete_eq
  have hloose : ({ r with pairingScanActive := false, outputs := outputs } : Receiver).tether.Loose ↔ r.tether.Loose :=
    Tether.loose_congr rfl rfl rfl
  rw [h]
  unfold Drifts Tether.Adrift
  rw [hloose]
  simp only [Event.runsOut, Event.reconnects, Tether.Scanning, tether]
  cases r.pairingScanActive <;> cases r.pairingScanRequested <;> simp

theorem scanExpired_drifts (nowMs : UInt32) (status : UInt8) :
    Drifts p r (.bluetooth (.scanTimer nowMs status)) (r.scanExpired nowMs status) := by
  unfold scanExpired
  split
  · rename_i htimer
    unfold beginPairingScan
    split
    · rename_i hreq
      have hnot : r.pairingScanRequested = false := by simpa using hreq
      exact .of_tether rfl (by simp [Event.runsOut, hnot]) rfl
    · rename_i hreq
      have hon : r.pairingScanRequested = true := by simpa using hreq
      have hbefore : ¬ r.tether.Adrift := Tether.not_adrift_of_scanning (.inl hon)
      split
      · -- only an inquiry that runs at the same time would keep the receiver scanning
        rename_i hold
        have hlate : nowMs - r.pairingScanRequestedMs > 65000 := hold
        unfold Drifts
        rw [emitPairingState_tether]
        have hloose : ({ r with pairingScanTimer := none, pairingScanRequested := false } : Receiver).tether.Loose ↔
            r.tether.Loose := Tether.loose_congr rfl rfl rfl
        have hout : (Event.bluetooth (.scanTimer nowMs status)).runsOut r = !r.pairingScanActive := by
          simp [Event.runsOut, htimer, hon, hlate]
        rw [hout, or_iff_left fun h => hbefore h.1]
        unfold Tether.Adrift
        rw [hloose]
        simp [Tether.Scanning, tether]
      · rename_i hearly
        have hlate : ¬ nowMs - r.pairingScanRequestedMs > 65000 := hearly
        have hout : (Event.bluetooth (.scanTimer nowMs status)).runsOut r = false := by
          simp only [Event.runsOut, decide_eq_false hlate, Bool.and_false, Bool.false_and]
        dsimp only
        split
        · exact .of_never (Tether.not_adrift_of_scanning (.inr rfl)) hbefore hout
        · exact .of_never (Tether.not_adrift_of_scanning (.inl hon)) hbefore hout
  · rename_i htimer
    exact .of_tether rfl (by simp [Event.runsOut, htimer]) rfl

theorem incomingConnection_drifts (address : BdAddr) {cid : UInt16} (status acceptStatus : UInt8)
    (hcid : status = kSuccess → cid ≠ 0) :
    Drifts p r (.bluetooth (.incomingConnection address cid status acceptStatus))
      (r.incomingConnection address cid status acceptStatus) := by
  unfold incomingConnection
  split
  · rename_i h
    refine .of_tether rfl rfl ?_
    simp only [Event.reconnects, Bool.and_eq_false_iff, beq_eq_false_iff_ne]
    exact h
  · rename_i h
    push Not at h
    obtain ⟨rfl, rfl⟩ := h
    have hre : (Event.bluetooth (.incomingConnection r.controllerAddress cid kSuccess acceptStatus)).reconnects p r = true := by
      simp [Event.reconnects]
    dsimp only
    split
    · exact .of_moored (Tether.not_adrift_of_timer rfl) rfl hre
    · exact .of_moored (Tether.not_adrift_of_hidCid (hcid rfl)) rfl hre

theorem reconnectExpired_drifts {cid : UInt16} (status : UInt8) (hcid : status = kSuccess → cid ≠ 0) :
    Drifts p r (.bluetooth (.reconnectTimer status cid)) (r.reconnectExpired status cid) := by
  unfold reconnectExpired
  split
  · rename_i htimer
    obtain ⟨ms, hms⟩ := Option.isSome_iff_exists.1 htimer
    exact .of_never (connectController_moored hcid) (Tether.not_adrift_of_timer hms) rfl
  · exact .of_tether rfl rfl rfl

/-- A refused descriptor brings the controller back only through the cancellation of its candidate. -/
theorem descriptorAvailable_drifts (status : UInt8) (descriptor : Option (List UInt8)) (digest : Option Sha256Digest) :
    Drifts p r (.bluetooth (.descriptorAvailable status descriptor digest))
      (Receiver.descriptorAvailable p r status descriptor digest) := by
  rcases descriptorAvailable_eq (p := p) r status descriptor digest with
    ⟨profile, hprofile, h⟩ | ⟨hnone, outputs, -, ⟨hselected, h⟩ | ⟨hfree, h⟩⟩
  · rw [h]
    exact .of_tether rfl rfl (by simp [Event.reconnects, hprofile])
  · rw [h]
    exact .of_moored cancelPairing_moored rfl (by simp [Event.reconnects, hnone, hselected])
  · rw [h]
    exact .of_tether rfl rfl (by simp [Event.reconnects, hfree])

/-! ## The session -/

/-- A request leaves the tether and the offered candidate alone, or brings the controller back. -/
theorem handleCommand_tether (hp : p.Documented) (hk : Bond.Kept p r.bond) (c : SetupCommand) :
    (c.restarts r.candidateControllerAddress = false ∧ (handleCommand p r c).tether = r.tether ∧
        (handleCommand p r c).candidateControllerAddress = r.candidateControllerAddress) ∨
      (c.restarts r.candidateControllerAddress = true ∧ ¬ (handleCommand p r c).tether.Adrift) := by
  cases c with
  | setConfig mapping faults =>
    exact .inl ⟨rfl, setConfig_tether mapping faults,
      congrArg Bond.candidateControllerAddress (setConfig_bond (r := r) mapping faults)⟩
  | startScan nowMs => exact .inr ⟨rfl, startPairingScan_moored nowMs⟩
  | pairCandidate address =>
    rcases selectPairingCandidate_tether hp hk address with ⟨hno, h⟩ | h
    · exact .inl ⟨hno, congrArg tether h, congrArg candidateControllerAddress h⟩
    · exact .inr h
  | confirmPairing linkKey faults =>
    refine .inl ⟨rfl, confirmPairingCandidate_tether linkKey faults, ?_⟩
    rcases confirmPairingCandidate_bond (p := p) (r := r) linkKey faults with hb | ⟨a, -, -, hb⟩
    · exact congrArg Bond.candidateControllerAddress hb
    · exact congrArg Bond.candidateControllerAddress hb
  | cancelPairing => exact .inr ⟨rfl, cancelPairing_moored⟩
  | other => exact .inl ⟨rfl, rfl, rfl⟩

/-- Requests leave a receiver adrift that was, and of which none restarts. -/
theorem handleCommands_adrift (hp : p.Documented) (cs : List SetupCommand) (r : Receiver) (hk : Bond.Kept p r.bond) :
    (cs.foldl (handleCommand p) r).tether.Adrift ↔
      r.tether.Adrift ∧ cs.any (·.restarts r.candidateControllerAddress) = false := by
  induction cs generalizing r with
  | nil => simp
  | cons c cs ih =>
    rw [List.foldl_cons, ih _ (Bond.moves_kept hp hk (handleCommand_bond c)), List.any_cons]
    rcases handleCommand_tether hp hk c with ⟨hno, ht, htext⟩ | ⟨hre, hmoored⟩
    · rw [ht, htext, hno, Bool.false_or]
    · rw [hre, Bool.true_or]
      exact iff_of_false (fun h => hmoored h.1) fun h => Bool.noConfusion h.2

theorem setupSession_drifts (hp : p.Documented) (hk : Bond.Kept p r.bond) (cdc : Bool) (cs : List SetupCommand) :
    Drifts p r (.setupSession cdc cs) (setupSession p r cdc cs) := by
  cases hon : r.configConnected cdc with
  | true =>
    have hs := configService_connected (p := p) cs hon
    have ha : (configService p r cdc cs).configActive = true := by
      rw [hs]
      exact (handleCommands_session (p := p) cs { r with configActive := true }).configActive
    have hend : (setupSession p r cdc cs).tether = (configService p r cdc cs).tether := by
      unfold setupSession
      dsimp only
      rw [if_pos ha]
      rfl
    have hiff := handleCommands_adrift hp cs { r with configActive := true } hk
    unfold Drifts
    rw [hend, hs, hiff]
    simp [Event.runsOut, Event.reconnects, hon, tether]
  | false =>
    obtain ⟨s, hs, ⟨hwas, hleft, rfl⟩ | ⟨hno, rfl⟩⟩ := setupSession_disconnected (p := p) cs hon
    · rw [hs]
      exact .of_moored (s := { Receiver.cancelPairing p { r with configActive := false } with configWasActive := _ })
        cancelPairing_moored rfl (by simp [Event.reconnects, hon, hwas, hleft, or_assoc])
    · rw [hs]
      refine .of_tether rfl rfl (Bool.eq_false_iff.2 fun hre => hno ?_)
      simpa [Event.reconnects, hon, or_assoc] using hre

/-- What every event does to a receiver that is tied to its controller, or adrift. -/
theorem step_drifts (hp : p.Documented) (hk : Bond.Kept p r.bond) {e : Event} (hconnects : ∀ cid ∈ e.connects, cid ≠ 0)
    (hopens : ∀ cid ∈ e.opens, cid ≠ 0) : Drifts p r e (step p r e) := by
  cases e with
  | bluetooth b =>
    cases b with
    | inquiryResult result => exact .of_tether (inquiryResult_tether (r := r.silent) result) rfl rfl
    | inquiryComplete => exact inquiryComplete_drifts (p := p) (r := r.silent)
    | state working =>
      simp only [step, bluetooth]
      cases working with
      | false => exact .of_tether rfl rfl rfl
      | true =>
        split
        · exact .of_moored (Tether.not_adrift_of_timer rfl) rfl rfl
        · rename_i hinvalid
          have hnot : r.silent.controllerAddressValid = false := by simpa using hinvalid
          exact .of_moored (Tether.not_adrift_of_invalid hnot) rfl rfl
    | pinCodeRequest address => exact .of_tether rfl rfl rfl
    | userConfirmationRequest address => exact .of_tether (userConfirmationRequest_tether (r := r.silent) address) rfl rfl
    | incomingConnection address cid status acceptStatus =>
      refine incomingConnection_drifts (p := p) (r := r.silent) address status acceptStatus ?_
      rintro rfl
      exact hconnects cid rfl
    | connectionOpened status cid => exact .of_moored (connectionOpened_moored (hopens cid rfl)) rfl rfl
    | descriptorAvailable status descriptor digest =>
      exact descriptorAvailable_drifts (r := r.silent) status descriptor digest
    | report report nowMs => exact .of_tether (consumeControllerReport_tether (r := r.silent) report nowMs) rfl rfl
    | connectionClosed => exact .of_moored (connectionClosed_moored (r := r.silent)) rfl rfl
    | reconnectTimer status cid =>
      refine reconnectExpired_drifts (p := p) (r := r.silent) status ?_
      rintro rfl
      exact hconnects cid rfl
    | scanTimer nowMs status => exact scanExpired_drifts (p := p) (r := r.silent) nowMs status
  | usb cb => exact .of_tether rfl rfl rfl
  | setupSession cdc cs => exact setupSession_drifts (r := r.silent) hp hk cdc cs
  | serviceStaleInput nowMs => exact .of_tether (serviceStaleInput_tether (r := r.silent) nowMs) rfl rfl
  | serviceUsbKeyboard a => exact .of_tether (serviceUsbKeyboard_tether (r := r.silent) a) rfl rfl

/-! ## A scan belongs to a session -/

/-- No Bluetooth event starts a scan. -/
theorem bluetooth_scanning (b : BtEvent) (h : (bluetooth p r b).tether.Scanning) : r.tether.Scanning := by
  have hcongr : ∀ s : Receiver, s.tether = r.tether → s.tether.Scanning → r.tether.Scanning := fun s hs ht => hs ▸ ht
  cases b with
  | inquiryResult result => exact hcongr _ (inquiryResult_tether result) h
  | inquiryComplete =>
    obtain ⟨outputs, -, hcomplete⟩ := r.inquiryComplete_eq
    simp only [bluetooth, hcomplete] at h
    rcases h with hreq | hact
    · exact .inl hreq
    · cases hact
  | state working =>
    simp only [bluetooth] at h
    split at h
    · exact h
    · exact h
  | pinCodeRequest address => exact h
  | userConfirmationRequest address => exact hcongr _ (userConfirmationRequest_tether address) h
  | incomingConnection address cid status acceptStatus =>
    simp only [bluetooth, incomingConnection] at h
    split at h
    · exact h
    · split at h <;> exact h
  | connectionOpened status cid =>
    simp only [bluetooth, connectionOpened] at h
    split at h <;> exact h
  | descriptorAvailable status descriptor digest =>
    simp only [bluetooth, Receiver.descriptorAvailable] at h
    split at h
    · exact h
    · split at h
      · exact absurd h cancelPairing_not_scanning
      · split at h <;> exact h
  | report report nowMs => exact hcongr _ (consumeControllerReport_tether report nowMs) h
  | connectionClosed =>
    simp only [bluetooth, connectionClosed] at h
    split at h
    · exact h
    · split at h <;> exact h
  | reconnectTimer status cid =>
    obtain ⟨known, last, timer, outputs, -, heq⟩ := r.reconnectExpired_eq status cid
    simp only [bluetooth, heq] at h
    exact h
  | scanTimer nowMs status =>
    obtain ⟨requested, active, timer, outputs, hscan, -, heq⟩ := r.scanExpired_eq nowMs status
    simp only [bluetooth, heq] at h
    exact hscan h

/-- Between events, there is a scan only in an active session. -/
structure Attended (r : Receiver) : Prop where
  guarded : Guarded r
  scanning : r.tether.Scanning → r.configActive = true

theorem boot_attended (flash : Flash) (reads : Option Flash) : Attended (boot p flash reads) := by
  refine ⟨boot_guarded flash reads, ?_⟩
  rintro (h | h)
  · cases h
  · cases h

theorem step_attended (r : Receiver) (e : Event) (h : Attended r) : Attended (step p r e) := by
  refine ⟨step_guarded r e h.guarded, fun hscan => ?_⟩
  cases e with
  | bluetooth b =>
    have hs := (bluetooth_session (p := p) r.silent b).1.configActive
    exact hs.trans (h.scanning (bluetooth_scanning (r := r.silent) b hscan))
  | usb cb => exact h.scanning hscan
  | setupSession cdc cs =>
    cases hon : r.silent.configConnected cdc with
    | true => exact (setupSession_active (p := p) cs hon).2.1
    | false =>
      exfalso
      change (setupSession p r.silent cdc cs).tether.Scanning at hscan
      obtain ⟨s, hs, ⟨-, -, rfl⟩ | ⟨hno, rfl⟩⟩ := setupSession_disconnected (p := p) cs hon
      · rw [hs] at hscan
        exact cancelPairing_not_scanning hscan
      · -- the scan would be left from a session that was closed before
        rw [hs] at hscan
        have hbefore : r.tether.Scanning := hscan
        have hwas : r.configWasActive = true := h.guarded.wasActive.trans (h.scanning hbefore)
        exact hno ⟨hwas, hbefore.imp_right .inl⟩
  | serviceStaleInput nowMs =>
    have hs := (serviceStaleInput_session (r := r.silent) nowMs).configActive
    exact hs.trans (h.scanning (serviceStaleInput_tether (r := r.silent) nowMs ▸ hscan))
  | serviceUsbKeyboard a =>
    have hs := (serviceUsbKeyboard_session (r := r.silent) a).configActive
    exact hs.trans (h.scanning (serviceUsbKeyboard_tether (r := r.silent) a ▸ hscan))

end Receiver

namespace World

open Receiver

variable {p : Platform}

/-! ## The lost controller -/

/-- No disconnect that was requested waits for its closed event. -/
def NoneClosing (w : World) : Prop := ∀ l ∈ w.link, l.closing = false

instance (w : World) : Decidable (NoneClosing w) := inferInstanceAs (Decidable (∀ l ∈ w.link, _))

/-- The address is valid, and no connection, no timer, no closed event and no scan will lead to it. -/
def Lost (w : World) : Prop := w.receiver.tether.Adrift ∧ NoneClosing w

/-- A scan ends by itself with nothing else under way: no connection, no timer, no closed event. -/
def Abandons (w : World) (e : Event) : Prop :=
  e.runsOut w.receiver = true ∧ w.receiver.tether.Loose ∧ NoneClosing w

instance (w : World) (e : Event) : Decidable (Abandons w e) := inferInstanceAs (Decidable (_ ∧ _ ∧ _))

/-- The event brings the controller back. -/
def Reconnects (p : Platform) (w : World) (e : Event) : Prop := e.reconnects p w.receiver = true

instance (w : World) (e : Event) : Decidable (Reconnects p w e) := inferInstanceAs (Decidable (_ = true))

/-- What holds between events. -/
structure Tied (p : Platform) (w : World) : Prop where
  kept : Bond.Kept p w.receiver.bond
  attended : Attended w.receiver
  known : Known w

theorem boot_tied (hp : p.Documented) (flash : Flash) (reads : Option Flash) : Tied p (boot p flash reads) :=
  ⟨boot_kept hp flash reads, boot_attended flash reads, known_none _⟩

theorem step_tied (hp : p.Documented) (w : World) (e : Event) (h : Tied p w) (hen : Enabled w e) :
    Tied p (w.step p e) :=
  ⟨step_kept hp w.receiver e h.kept, step_attended w.receiver e h.attended, step_known w e h.known hen⟩

/-- A connection of a receiver that knows none is closing. -/
theorem Known.link_none {w : World} (h : Known w) (hcid : w.receiver.hidCid = 0) (hnone : NoneClosing w) :
    w.link = none := by
  cases hl : w.link with
  | none => rfl
  | some l =>
    have hknown := (h.peer l hl (hnone l hl)).1
    exact absurd (hknown.symm.trans hcid) (h.cid l hl)

/-- With no connection there is none that closes after a step that knows of none. -/
theorem step_noneClosing {w : World} {e : Event} (hen : Enabled w e) (hlink : w.link = none)
    (hcid : (w.step p e).receiver.hidCid = 0) : NoneClosing (w.step p e) := by
  have hstep := step_link (p := p) w e hen
  generalize w.step p e = w' at hcid hstep ⊢
  intro l hl
  cases hstep with
  | ended r => exact (Option.not_mem_none _ hl).elim
  | connected hne => exact absurd hcid hne
  | opened hopen =>
    rw [hlink] at hopen
    cases hopen
  | kept =>
    rw [hlink] at hl
    exact (Option.not_mem_none _ hl).elim

/-- A closing connection stays one until it ends. -/
theorem noneClosing_of_step {w : World} {e : Event} (hen : Enabled w e) (hends : ends e = false)
    (h : NoneClosing (w.step p e)) : NoneClosing w := by
  intro l hl
  have hclosed := h _ (link_kept hl hen hends)
  exact (Bool.or_eq_false_iff.1 hclosed).1

theorem ends_of_runsOut {r : Receiver} {e : Event} (h : e.runsOut r = true) : ends e = false := by
  cases e with
  | bluetooth b => cases b <;> first | rfl | cases h
  | _ => rfl

theorem ends_of_not_reconnects {r : Receiver} {e : Event} (h : e.reconnects p r = false) : ends e = false := by
  cases e with
  | bluetooth b => cases b <;> first | rfl | cases h
  | _ => rfl

/-- An event loses the controller exactly when a scan ends by itself with nothing else under way, and keeps
it lost exactly when it does not bring it back. -/
theorem step_lost (hp : p.Documented) (w : World) (e : Event) (h : Tied p w) (hen : Enabled w e) :
    Lost (w.step p e) ↔ Abandons w e ∨ Lost w ∧ ¬ Reconnects p w e := by
  have hdrifts : Drifts p w.receiver e (w.step p e).receiver :=
    step_drifts hp h.kept (fun cid hc => (hen.1 cid hc).2) fun cid hc => by
      obtain ⟨l, hl, rfl⟩ := Option.map_eq_some_iff.1 (hen.2.1 cid hc)
      exact h.known.cid l hl
  have hafter : w.receiver.hidCid = 0 → NoneClosing w → (w.step p e).receiver.tether.Adrift → NoneClosing (w.step p e) :=
    fun hcid hnone hadrift => step_noneClosing hen (h.known.link_none hcid hnone) hadrift.1.hidCid
  unfold Lost Abandons Reconnects
  rw [Bool.not_eq_true]
  constructor
  · rintro ⟨hadrift, hnone⟩
    rcases hdrifts.1 hadrift with ⟨hloose, hout⟩ | ⟨hbefore, hno⟩
    · exact .inl ⟨hout, hloose, noneClosing_of_step hen (ends_of_runsOut hout) hnone⟩
    · exact .inr ⟨⟨hbefore, noneClosing_of_step hen (ends_of_not_reconnects hno) hnone⟩, hno⟩
  · rintro (⟨hout, hloose, hnone⟩ | ⟨⟨hbefore, hnone⟩, hno⟩)
    · have hadrift := hdrifts.2 (.inl ⟨hloose, hout⟩)
      exact ⟨hadrift, hafter hloose.hidCid hnone hadrift⟩
    · have hadrift := hdrifts.2 (.inr ⟨hbefore, hno⟩)
      exact ⟨hadrift, hafter hbefore.1.hidCid hnone hadrift⟩

/-! ## After setup -/

/-- Without a session there is no scan and no candidate, and a valid address with no connection has a timer to
bring one, or waits for the closed event of a disconnect. -/
structure Restored (w : World) : Prop where
  requested : w.receiver.pairingScanRequested = false
  active : w.receiver.pairingScanActive = false
  candidate : w.receiver.pairingCandidateSelected = false
  reconnects : w.receiver.controllerAddressValid = true → w.receiver.hidCid = 0 →
    w.receiver.reconnectTimer.isSome = true ∨ ∃ l ∈ w.link, l.closing = true

theorem Tied.restored_iff {w : World} (h : Tied p w) (hoff : w.receiver.configActive = false) : Restored w ↔ ¬ Lost w := by
  have hscan : ¬ w.receiver.tether.Scanning := fun hs => Bool.noConfusion (hoff.symm.trans (h.attended.scanning hs))
  obtain ⟨hrequested, hactive⟩ := not_or.1 hscan
  constructor
  · rintro hr ⟨⟨hloose, -⟩, hnone⟩
    rcases hr.reconnects hloose.valid hloose.hidCid with ht | ⟨l, hl, hclosing⟩
    · have htimer : w.receiver.reconnectTimer = none := hloose.timer
      rw [htimer] at ht
      cases ht
    · rw [hnone l hl] at hclosing
      cases hclosing
  · intro hlost
    refine ⟨(Bool.not_eq_true _).mp hrequested, (Bool.not_eq_true _).mp hactive, ?_, fun hvalid hcid => ?_⟩
    · exact (h.attended.guarded.unattended hoff).2
    · by_contra hno
      push Not at hno
      obtain ⟨htimer, hclosing⟩ := hno
      have hnone : w.receiver.reconnectTimer = none := by simpa using htimer
      exact hlost ⟨⟨⟨hvalid, hcid, hnone⟩, hscan⟩, fun l hl => (Bool.not_eq_true _).mp (hclosing l hl)⟩

/-- In every run since Bluetooth started up, a pass that ends without a session leaves the receiver on the way
to its controller exactly when, since a scan last ended by itself with nothing else under way, an event
brought the controller back. -/
theorem closed_setup_restores_iff (hp : p.Documented) (flash : Flash) (reads : Option Flash) (passes : List Pass)
    (hen : Run.Always (step p) Enabled (boot p flash reads) (loop passes))
    (hstart : Event.bluetooth (.state true) ∈ loop passes)
    (hoff : (Run.exec (step p) (boot p flash reads) (loop passes)).receiver.configActive = false) :
    Restored (Run.exec (step p) (boot p flash reads) (loop passes)) ↔
      ¬ Run.Since (step p) (Reconnects p) Abandons (boot p flash reads) (loop passes) := by
  have htied := boot_tied hp flash reads
  have hend := Run.invariant (step_tied hp) hen htied
  have hlatch := Run.latch_iff_since_or (Tied p) Enabled Lost (step_tied hp) (step_lost hp) hen htied
  have hstarted : ¬ Run.Always (step p) (fun w e => ¬ Reconnects p w e) (boot p flash reads) (loop passes) := by
    intro hno
    obtain ⟨before, after, hsplit⟩ := List.append_of_mem hstart
    exact (Run.always_iff_split _ _ _).1 hno before _ after hsplit rfl
  rw [hend.restored_iff hoff, hlatch, or_iff_left fun h => hstarted h.2]

/-- The flash of a receiver with a stored controller. -/
def bondedFlash : Flash :=
  (({} : PersistentConfig).storeControllerAddress (fun _ => none) {} {} (some (formatAddress candidate))).flash

/-- The stored controller connects, and a session starts a scan, which disconnects it. -/
def scanStarts : List Pass :=
  [{ poll := [.state true] }, { poll := [.reconnectTimer kSuccess 7, .connectionOpened kSuccess 7] },
    { cdcConnected := true, commands := [.startScan 1000] },
    { poll := [.connectionClosed, .scanTimer 1750 kSuccess], cdcConnected := true }]

/-- The session closes during its scan, and the stored controller is scheduled again. -/
theorem closed_setup_restores_scanning :
    Restored (Run.exec (step (Platform.plain [])) (boot (Platform.plain []) bondedFlash (some bondedFlash))
      (loop (scanStarts ++ [{ cdcConnected := false }]))) :=
  (closed_setup_restores_iff (Platform.plain_documented _) bondedFlash (some bondedFlash) _
    (by decide +kernel) (List.mem_cons_self ..) (by decide +kernel)).2 (by decide +kernel)

/-- The scan completes before the session closes: the stored controller has a valid address, and nothing that
leads to it. -/
theorem closed_setup_strands :
    ¬ ∀ (flash : Flash) (reads : Option Flash) (passes : List Pass),
      Run.Always (step (Platform.plain [])) Enabled (boot (Platform.plain []) flash reads) (loop passes) →
      Event.bluetooth (.state true) ∈ loop passes →
      (Run.exec (step (Platform.plain [])) (boot (Platform.plain []) flash reads) (loop passes)).receiver.configActive = false →
      Restored (Run.exec (step (Platform.plain [])) (boot (Platform.plain []) flash reads) (loop passes)) := by
  intro h
  have hrestored := h bondedFlash (some bondedFlash)
    (scanStarts ++ [{ poll := [.inquiryComplete], cdcConnected := true }, { cdcConnected := false }])
    (by decide +kernel) (.head _) (by decide +kernel)
  have hway := hrestored.reconnects (by decide +kernel) (by decide +kernel)
  revert hway
  decide +kernel

end World

end RedMonkeyMpg.Gamepad
