/-
The bond: the addresses the gamepad receiver accepts, offers and stores, as a small machine of its
own. It moves when an inquiry finds a candidate, when a candidate is selected or committed, when
the committed address is restored, and when a new scan drops the candidate's text; every event of
the receiver is a sequence of such moves.
-/
import RedMonkeyMpg.Gamepad.Loop
import RedMonkeyMpg.Store.History
import Mathlib.Logic.Relation

namespace RedMonkeyMpg.Gamepad

/-- The addresses of a receiver. `addressText` is the committed one, empty when there is none. -/
structure Bond where
  controllerAddress : BdAddr
  controllerAddressValid : Bool
  pairingCandidateSelected : Bool
  activeControllerAddress : CStr
  candidateControllerAddress : CStr
  addressText : CStr

namespace Bond

variable (p : Platform)

/-- The committed address text, or the compiled default. -/
def fallback (b : Bond) : CStr :=
  Receiver.addressBuffer ((if b.addressText = [] then none else some b.addressText).getD p.controllerAddress)

/-- The bond after a rollback. A text that does not parse leaves the address as it was. -/
def restored (b : Bond) : Bond :=
  { b with
    controllerAddress := (p.sscanfBdAddr (b.fallback p)).getD b.controllerAddress
    controllerAddressValid := (p.sscanfBdAddr (b.fallback p)).isSome
    pairingCandidateSelected := false
    activeControllerAddress := b.fallback p }

/-- One move of the bond. -/
inductive Move (b : Bond) : Bond → Prop where
  | found (a : BdAddr) : Move b { b with candidateControllerAddress := Receiver.addressBuffer (p.bdAddrToStr a) }
  | restored : Move b (b.restored p)
  | dropped (h : b.pairingCandidateSelected = false) : Move b { b with candidateControllerAddress := [] }
  | selected (parsed : BdAddr) (h : b.candidateControllerAddress ≠ [])
      (hp : p.sscanfBdAddr b.candidateControllerAddress = some parsed) :
      Move b
        { b with
          controllerAddress := parsed
          controllerAddressValid := true
          pairingCandidateSelected := true
          activeControllerAddress := Receiver.addressBuffer b.candidateControllerAddress }
  | committed (a : BdAddr) (h : b.pairingCandidateSelected = true)
      (hp : parseAddress (some b.activeControllerAddress) = some a) :
      Move b { b with addressText := formatAddress a, pairingCandidateSelected := false }

/-- Any number of moves. -/
abbrev Moves : Bond → Bond → Prop := Relation.ReflTransGen (Move p)

end Bond

namespace Receiver

variable {p : Platform} {r : Receiver}

def bond (r : Receiver) : Bond :=
  { controllerAddress := r.controllerAddress
    controllerAddressValid := r.controllerAddressValid
    pairingCandidateSelected := r.pairingCandidateSelected
    activeControllerAddress := r.activeControllerAddress
    candidateControllerAddress := r.candidateControllerAddress
    addressText := r.persistentConfig.addressText }

/-- The flash and the RAM over it, and the live mapping. -/
structure Memory where
  device : Device
  productionMapping : ProductionMapping

def memory (r : Receiver) : Memory where
  device := ⟨r.flash, r.persistentConfig⟩
  productionMapping := r.productionMapping

/-- What most events leave alone. -/
def kept (r : Receiver) : Bond × Memory := (r.bond, r.memory)

/-! ## What leaves the bond and the memory alone -/

theorem reconnectExpired_kept (status : UInt8) (cid : UInt16) : (r.reconnectExpired status cid).kept = r.kept := by
  obtain ⟨known, last, timer, outputs, -, h⟩ := r.reconnectExpired_eq status cid
  rw [h]
  rfl

theorem reconnectExpired_bond (status : UInt8) (cid : UInt16) : (r.reconnectExpired status cid).bond = r.bond :=
  congrArg Prod.fst (reconnectExpired_kept status cid)

theorem incomingConnection_kept (address : BdAddr) (cid : UInt16) (status acceptStatus : UInt8) :
    (r.incomingConnection address cid status acceptStatus).kept = r.kept := by
  obtain ⟨s, known, last, timer, outputs, hs, -, h⟩ := r.incomingConnection_eq address cid status acceptStatus
  rw [h]
  rcases hs with rfl | rfl
  · rfl
  · rfl

theorem incomingConnection_bond (address : BdAddr) (cid : UInt16) (status acceptStatus : UInt8) :
    (r.incomingConnection address cid status acceptStatus).bond = r.bond :=
  congrArg Prod.fst (incomingConnection_kept address cid status acceptStatus)

theorem connectionOpened_kept (status : UInt8) (cid : UInt16) : (r.connectionOpened status cid).kept = r.kept := by
  obtain ⟨connected, known, last, timer, outputs, -, h⟩ := r.connectionOpened_eq status cid
  rw [h]
  rfl

theorem connectionOpened_bond (status : UInt8) (cid : UInt16) : (r.connectionOpened status cid).bond = r.bond :=
  congrArg Prod.fst (connectionOpened_kept status cid)

theorem connectionClosed_kept : r.connectionClosed.kept = r.kept := by
  obtain ⟨timer, h⟩ := r.connectionClosed_eq
  rw [h]
  rfl

theorem connectionClosed_bond : r.connectionClosed.bond = r.bond :=
  congrArg Prod.fst connectionClosed_kept

theorem userConfirmationRequest_kept (address : BdAddr) : (r.userConfirmationRequest address).kept = r.kept := by
  unfold userConfirmationRequest
  split <;> rfl

theorem userConfirmationRequest_bond (address : BdAddr) : (r.userConfirmationRequest address).bond = r.bond :=
  congrArg Prod.fst (userConfirmationRequest_kept address)

theorem inquiryComplete_kept : r.inquiryComplete.kept = r.kept := by
  obtain ⟨outputs, -, h⟩ := r.inquiryComplete_eq
  rw [h]
  rfl

theorem inquiryComplete_bond : r.inquiryComplete.bond = r.bond :=
  congrArg Prod.fst inquiryComplete_kept

theorem scanExpired_kept (nowMs : UInt32) (status : UInt8) : (r.scanExpired nowMs status).kept = r.kept := by
  obtain ⟨requested, active, timer, outputs, -, -, h⟩ := r.scanExpired_eq nowMs status
  rw [h]
  rfl

theorem scanExpired_bond (nowMs : UInt32) (status : UInt8) : (r.scanExpired nowMs status).bond = r.bond :=
  congrArg Prod.fst (scanExpired_kept nowMs status)

theorem consumeControllerReport_kept (report : List UInt8) (nowMs : UInt32) :
    (r.consumeControllerReport report nowMs).kept = r.kept := by
  obtain ⟨rearm, last, mapper, wanted, started, confirmed, outputs, -, h⟩ := r.consumeControllerReport_eq report nowMs
  rw [h]
  rfl

theorem consumeControllerReport_bond (report : List UInt8) (nowMs : UInt32) :
    (r.consumeControllerReport report nowMs).bond = r.bond :=
  congrArg Prod.fst (consumeControllerReport_kept report nowMs)

theorem serviceStaleInput_kept (nowMs : UInt32) : (r.serviceStaleInput nowMs).kept = r.kept := by
  unfold serviceStaleInput
  split <;> rfl

theorem serviceStaleInput_bond (nowMs : UInt32) : (r.serviceStaleInput nowMs).bond = r.bond :=
  congrArg Prod.fst (serviceStaleInput_kept nowMs)

theorem serviceUsbKeyboard_kept (a : UsbAnswer) : (r.serviceUsbKeyboard a).kept = r.kept := by
  unfold serviceUsbKeyboard
  dsimp only
  split <;> rfl

theorem serviceUsbKeyboard_bond (a : UsbAnswer) : (r.serviceUsbKeyboard a).bond = r.bond :=
  congrArg Prod.fst (serviceUsbKeyboard_kept a)

/-! ## What moves the bond -/

theorem cancelPairing_bond : (Receiver.cancelPairing p r).bond = r.bond.restored p := by
  obtain ⟨outputs, -, -, h⟩ := cancelPairing_eq (p := p) r
  rw [h]
  rfl

theorem inquiryResult_bond (result : InquiryResult) :
    (Receiver.inquiryResult p r result).bond = r.bond ∨
      (Receiver.inquiryResult p r result).bond =
        { r.bond with candidateControllerAddress := addressBuffer (p.bdAddrToStr result.address) } := by
  rcases inquiryResult_eq (p := p) r result with h | ⟨outputs, -, h⟩
  · exact .inl (by rw [h])
  · exact .inr (by rw [h]; rfl)

theorem descriptorAvailable_bond (status : UInt8) (descriptor : Option (List UInt8))
    (digest : Option Sha256Digest) :
    (Receiver.descriptorAvailable p r status descriptor digest).bond = r.bond ∨
      (Receiver.descriptorAvailable p r status descriptor digest).bond = r.bond.restored p := by
  rcases descriptorAvailable_eq (p := p) r status descriptor digest with
    ⟨profile, -, h⟩ | ⟨-, outputs, -, ⟨-, h⟩ | ⟨-, h⟩⟩
  · rw [h]
    exact .inl rfl
  · rw [h, cancelPairing_bond]
    exact .inr rfl
  · rw [h]
    exact .inl rfl

theorem startPairingScan_bond (nowMs : UInt32) : Bond.Moves p r.bond (startPairingScan p r nowMs).bond := by
  obtain ⟨s, outputs, hs, -, -, h⟩ := startPairingScan_eq (p := p) r nowMs
  have hscan : s.pairingCandidateSelected = false → Bond.Move p s.bond (startPairingScan p r nowMs).bond := by
    intro hfree
    have hb : (startPairingScan p r nowMs).bond = { s.bond with candidateControllerAddress := [] } := by
      calc (startPairingScan p r nowMs).bond
          = { s.bond with pairingCandidateSelected := false, candidateControllerAddress := [] } := by rw [h]; rfl
        _ = { s.bond with candidateControllerAddress := [] } := by rw [← hfree]; rfl
    rw [hb]
    exact .dropped hfree
  cases hc : r.pairingCandidateSelected with
  | false =>
    rw [hc, if_neg Bool.false_ne_true] at hs
    subst hs
    exact .single (hscan hc)
  | true =>
    rw [hc, if_pos rfl] at hs
    have hb : s.bond = r.bond.restored p := hs ▸ cancelPairing_bond
    refine .head .restored ?_
    rw [← hb]
    exact .single (hscan (congrArg Bond.pairingCandidateSelected hb))

theorem selectPairingCandidate_bond (address : CStr) :
    Bond.Moves p r.bond (selectPairingCandidate p r address).2.bond := by
  rcases selectPairingCandidate_eq (p := p) r address with ⟨-, h⟩ | ⟨hne, rfl, ⟨-, h⟩ | ⟨parsed, outputs, hp, -, -, h⟩⟩
  · rw [h]
  · rw [h]
    exact .refl
  · rw [h]
    exact .single (.selected parsed hne hp)

/-- A store of the mapping keeps the address. -/
theorem setConfig_bond (mapping : ProductionMapping) (faults : StoreFaults) : (r.setConfig mapping faults).bond = r.bond := by
  rcases r.setConfig_eq mapping faults with h | ⟨-, stored, rfl, h⟩
  · rw [h]
  · have ht : (r.persistentConfig.store r.flash faults mapping).config.addressText = r.persistentConfig.addressText := by
      rcases store_cases r.persistentConfig r.flash faults mapping with ⟨-, hc, -⟩ | ⟨-, -, hc, -⟩ <;> rw [hc]
    rw [h]
    simp only [bond, ht]

/-- A confirmation commits the selected address, or fails and leaves the bond as it was. -/
theorem confirmPairingCandidate_bond (linkKey : Bool) (faults : StoreFaults) :
    (confirmPairingCandidate p r linkKey faults).2.bond = r.bond ∨
      ∃ a, r.bond.pairingCandidateSelected = true ∧
        parseAddress (some r.bond.activeControllerAddress) = some a ∧
        (confirmPairingCandidate p r linkKey faults).2.bond =
          { r.bond with addressText := formatAddress a, pairingCandidateSelected := false } := by
  rcases confirmPairingCandidate_eq (p := p) r linkKey faults with
    h | ⟨stored, rfl, ⟨hok, h⟩ | ⟨hok, ⟨hselected, -, -⟩, controller, outputs, -, h⟩⟩
  · exact .inl (by rw [h])
  · let save : Save := .address r.productionMapping (some r.activeControllerAddress)
    have hfail : (save.run r.persistentConfig r.flash faults).ok = false := hok
    obtain ⟨hc, -⟩ := Save.run_failed hfail
    refine .inl ?_
    rw [h]
    exact congrArg (fun config : PersistentConfig => { r.bond with addressText := config.addressText }) hc
  · let save : Save := .address r.productionMapping (some r.activeControllerAddress)
    have hsaved : (save.run r.persistentConfig r.flash faults).ok = true := hok
    obtain ⟨during, hd, -, hc, -⟩ := Save.run_ok hsaved
    obtain ⟨a, ha, rfl⟩ := Option.map_eq_some_iff.1 hd
    refine .inr ⟨a, hselected, ha, ?_⟩
    rw [h]
    exact congrArg (fun config : PersistentConfig =>
      { r.bond with addressText := config.addressText, pairingCandidateSelected := false }) hc

theorem handleCommand_bond (c : SetupCommand) : Bond.Moves p r.bond (handleCommand p r c).bond := by
  cases c with
  | setConfig mapping faults => exact setConfig_bond (r := r) mapping faults ▸ .refl
  | startScan nowMs => exact startPairingScan_bond nowMs
  | pairCandidate address => exact selectPairingCandidate_bond address
  | confirmPairing linkKey faults =>
    simp only [handleCommand]
    rcases confirmPairingCandidate_bond (p := p) (r := r) linkKey faults with h | ⟨a, hc, ha, h⟩
    · rw [h]
    · rw [h]
      exact .single (.committed a hc ha)
  | cancelPairing => exact cancelPairing_bond (p := p) (r := r) ▸ .single .restored
  | other => exact .refl

theorem setupSession_bond (cdc : Bool) (cs : List SetupCommand) :
    Bond.Moves p r.bond (setupSession p r cdc cs).bond := by
  refine setupSession_keeps (I := fun s => Bond.Moves p r.bond s.bond) (fun _ _ _ h => h)
    (fun s c h => h.trans (handleCommand_bond c)) (fun _ h => h) (fun s h => ?_) cs .refl
  rw [cancelPairing_bond]
  exact h.tail .restored

theorem bluetooth_bond (b : BtEvent) : Bond.Moves p r.bond (bluetooth p r b).bond := by
  cases b with
  | inquiryResult result =>
    simp only [bluetooth]
    rcases inquiryResult_bond (p := p) (r := r) result with h | h
    · rw [h]
    · rw [h]
      exact .single (.found result.address)
  | inquiryComplete => exact inquiryComplete_bond (r := r) ▸ .refl
  | state working =>
    simp only [bluetooth]
    split <;> exact .refl
  | pinCodeRequest address => exact .refl
  | userConfirmationRequest address => exact userConfirmationRequest_bond (r := r) address ▸ .refl
  | incomingConnection address cid status acceptStatus =>
    exact incomingConnection_bond (r := r) address cid status acceptStatus ▸ .refl
  | connectionOpened status cid => exact connectionOpened_bond (r := r) status cid ▸ .refl
  | descriptorAvailable status descriptor digest =>
    simp only [bluetooth]
    rcases descriptorAvailable_bond (p := p) (r := r) status descriptor digest with h | h
    · rw [h]
    · rw [h]
      exact .single .restored
  | report report nowMs => exact consumeControllerReport_bond (r := r) report nowMs ▸ .refl
  | connectionClosed => exact connectionClosed_bond (r := r) ▸ .refl
  | reconnectTimer status cid => exact reconnectExpired_bond (r := r) status cid ▸ .refl
  | scanTimer nowMs status => exact scanExpired_bond (r := r) nowMs status ▸ .refl

/-- Every event is a sequence of moves of the bond. -/
theorem step_bond (r : Receiver) (e : Event) : Bond.Moves p r.bond (step p r e).bond := by
  cases e with
  | bluetooth b => exact bluetooth_bond (r := r.silent) b
  | usb cb => exact .refl
  | setupSession cdc cs => exact setupSession_bond (r := r.silent) cdc cs
  | serviceStaleInput nowMs => exact serviceStaleInput_bond (r := r.silent) nowMs ▸ .refl
  | serviceUsbKeyboard a => exact serviceUsbKeyboard_bond (r := r.silent) a ▸ .refl

end Receiver

end RedMonkeyMpg.Gamepad
