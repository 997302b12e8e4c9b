/-
What the gamepad receiver hands to its mapper, and the chord of a candidate. Only a report writes the
mapper; outside the reports the chord changes only in the pairing transaction, which clears it. The
profile that parses reports is a built-in one, so that every parsed sample is connected and dated now;
and the live mapping always passes its own check. All of this holds of every run from the boot.
-/
import RedMonkeyMpg.Core.Selection
import RedMonkeyMpg.Gamepad.Confirm

namespace RedMonkeyMpg.Gamepad.Receiver

variable {p : Platform} {r : Receiver}

/-! ## Outside the reports -/

/-- The mapper, and the profile of the connected controller. -/
def controls (r : Receiver) : ControlMapper × Option ControllerProfile := (r.mapper, r.activeProfile)

/-- Whether the chord of the selected candidate is confirmed, and when it started. -/
def chord (r : Receiver) : Bool × UInt32 := (r.pairingChordConfirmed, r.pairingChordStartedMs)

/-- What only reports and the pairing transaction write. -/
def aside (r : Receiver) : (ControlMapper × Option ControllerProfile) × Bool × UInt32 := (r.controls, r.chord)

theorem reconnectExpired_aside (status : UInt8) (cid : UInt16) : (r.reconnectExpired status cid).aside = r.aside := by
  obtain ⟨known, last, timer, outputs, -, h⟩ := r.reconnectExpired_eq status cid
  rw [h]
  rfl

theorem inquiryResult_aside (result : InquiryResult) : (Receiver.inquiryResult p r result).aside = r.aside := by
  rcases inquiryResult_eq (p := p) r result with h | ⟨outputs, -, h⟩
  · rw [h]
  · rw [h]
    rfl

theorem inquiryComplete_aside : r.inquiryComplete.aside = r.aside := by
  obtain ⟨outputs, -, h⟩ := r.inquiryComplete_eq
  rw [h]
  rfl

theorem scanExpired_aside (nowMs : UInt32) (status : UInt8) : (r.scanExpired nowMs status).aside = r.aside := by
  obtain ⟨requested, active, timer, outputs, -, -, h⟩ := r.scanExpired_eq nowMs status
  rw [h]
  rfl

theorem userConfirmationRequest_aside (address : BdAddr) : (r.userConfirmationRequest address).aside = r.aside := by
  unfold userConfirmationRequest
  split <;> rfl

theorem serviceStaleInput_aside (nowMs : UInt32) : (r.serviceStaleInput nowMs).aside = r.aside := by
  unfold serviceStaleInput
  split <;> rfl

theorem serviceUsbKeyboard_aside (a : UsbAnswer) : (r.serviceUsbKeyboard a).aside = r.aside := by
  unfold serviceUsbKeyboard
  dsimp only
  split <;> rfl

theorem setConfig_aside (mapping : ProductionMapping) (faults : StoreFaults) :
    (r.setConfig mapping faults).aside = r.aside := by
  rcases r.setConfig_eq mapping faults with h | ⟨-, stored, -, h⟩
  · rw [h]
  · rw [h]
    rfl

/-! ## The pairing transaction -/

/-- The chord neither confirmed nor started. -/
def cleared (r : Receiver) : (ControlMapper × Option ControllerProfile) × Bool × UInt32 := (r.controls, false, 0)

theorem cancelPairing_aside : (Receiver.cancelPairing p r).aside = r.cleared := by
  obtain ⟨outputs, -, -, h⟩ := cancelPairing_eq (p := p) r
  rw [h]
  rfl

theorem startPairingScan_aside (nowMs : UInt32) : (startPairingScan p r nowMs).aside = r.cleared := by
  obtain ⟨s, outputs, hs, -, -, h⟩ := startPairingScan_eq (p := p) r nowMs
  have hsame : s.controls = r.controls := by
    rw [hs]
    split
    · exact congrArg Prod.fst cancelPairing_aside
    · rfl
  rw [h]
  exact congrArg (fun c => (c, false, (0 : UInt32))) hsame

/-- A selection that fails leaves the trial of the candidate there was; one that succeeds starts its own. -/
theorem selectPairingCandidate_aside (address : CStr) :
    ((selectPairingCandidate p r address).1 = false ∧ (selectPairingCandidate p r address).2.aside = r.aside ∧
        (selectPairingCandidate p r address).2.bond = r.bond) ∨
      ((selectPairingCandidate p r address).1 = true ∧ (selectPairingCandidate p r address).2.aside = r.cleared) := by
  rcases selectPairingCandidate_eq (p := p) r address with ⟨-, h⟩ | ⟨-, -, ⟨-, h⟩ | ⟨parsed, outputs, -, -, -, h⟩⟩
  · rw [h]
    exact .inl ⟨rfl, rfl, rfl⟩
  · rw [h]
    exact .inl ⟨rfl, rfl, rfl⟩
  · rw [h]
    exact .inr ⟨rfl, rfl⟩

theorem confirmPairingCandidate_aside (linkKey : Bool) (faults : StoreFaults) :
    ((confirmPairingCandidate p r linkKey faults).1 = false ∧
        (confirmPairingCandidate p r linkKey faults).2.aside = r.aside ∧
        (confirmPairingCandidate p r linkKey faults).2.bond = r.bond) ∨
      (confirmPairingCandidate p r linkKey faults).2.aside = r.cleared := by
  rcases confirmPairingCandidate_eq (p := p) r linkKey faults with
    h | ⟨stored, rfl, ⟨hok, h⟩ | ⟨-, -, controller, outputs, -, h⟩⟩
  · rw [h]
    exact .inl ⟨rfl, rfl, rfl⟩
  · have hf : (confirmPairingCandidate p r linkKey faults).1 = false := congrArg Prod.fst h
    rw [(confirmPairingCandidate_failed hf).1]
    exact .inl ⟨hf, rfl, rfl⟩
  · rw [h]
    exact .inr rfl

/-- The request is a selection that succeeds. -/
def SetupCommand.reselects (p : Platform) (r : Receiver) : SetupCommand → Bool
  | .pairCandidate address => (selectPairingCandidate p r address).1
  | _ => false

/-- A request leaves the candidate's trial alone, or clears the chord. -/
theorem handleCommand_aside (r : Receiver) (c : SetupCommand) :
    (c.reselects p r = false ∧ (handleCommand p r c).aside = r.aside ∧ (handleCommand p r c).bond = r.bond) ∨
      (handleCommand p r c).aside = r.cleared := by
  cases c with
  | setConfig mapping faults => exact .inl ⟨rfl, setConfig_aside mapping faults, setConfig_bond mapping faults⟩
  | startScan nowMs => exact .inr (startPairingScan_aside nowMs)
  | pairCandidate address =>
    rcases selectPairingCandidate_aside (p := p) (r := r) address with h | ⟨-, h⟩
    · exact .inl h
    · exact .inr h
  | confirmPairing linkKey faults =>
    rcases confirmPairingCandidate_aside (p := p) (r := r) linkKey faults with ⟨-, h⟩ | h
    · exact .inl ⟨rfl, h⟩
    · exact .inr h
  | cancelPairing => exact .inr cancelPairing_aside
  | other => exact .inl ⟨rfl, rfl, rfl⟩

theorem handleCommand_controls (r : Receiver) (c : SetupCommand) : (handleCommand p r c).controls = r.controls := by
  rcases handleCommand_aside (p := p) r c with ⟨-, h, -⟩ | h
  · exact congrArg Prod.fst h
  · exact congrArg Prod.fst h

theorem setupSession_controls (cdc : Bool) (cs : List SetupCommand) :
    (setupSession p r cdc cs).controls = r.controls := by
  exact setupSession_keeps (I := fun s => s.controls = r.controls) (fun _ _ _ h => h)
    (fun s c h => (handleCommand_controls s c).trans h) (fun _ h => h)
    (fun s h => (congrArg Prod.fst cancelPairing_aside).trans h) cs rfl

/-! ## The profile -/

theorem connectionOpened_aside (status : UInt8) (cid : UInt16) :
    (r.connectionOpened status cid).aside = ((r.mapper, none), r.chord) := by
  unfold connectionOpened
  split <;> rfl

theorem connectionClosed_aside : r.connectionClosed.aside = ((r.mapper, none), r.chord) := by
  unfold connectionClosed
  dsimp only
  split
  · rfl
  · split <;> rfl

theorem incomingConnection_aside (address : BdAddr) (cid : UInt16) (status acceptStatus : UInt8) :
    (r.incomingConnection address cid status acceptStatus).aside = r.aside ∨
      (r.incomingConnection address cid status acceptStatus).aside = ((r.mapper, none), r.chord) := by
  unfold incomingConnection
  split
  · exact .inl rfl
  · dsimp only
    split
    · exact .inr rfl
    · exact .inl rfl

theorem supportedProfile_builtin {status : UInt8} {descriptor : Option (List UInt8)} {digest : Option Sha256Digest}
    {profile : ControllerProfile} (h : supportedProfile p r status descriptor digest = some profile) :
    profile = Lite2.profile := by
  unfold supportedProfile at h
  split at h
  · cases h
  · split at h
    · split at h
      · cases h
      · have hmem := selectProfile_mem h
        simpa [builtinControllerProfiles] using hmem
    · cases h

/-- The profile is a built-in one. -/
def Builtin (profile : Option ControllerProfile) : Prop := ∀ x ∈ profile, x = Lite2.profile

theorem builtin_none : Builtin none := fun _ hx => (Option.not_mem_none _ hx).elim

/-- A descriptor leaves a built-in profile, and the candidate's trial alone unless it cancels it. -/
theorem descriptorAvailable_aside (status : UInt8) (descriptor : Option (List UInt8)) (digest : Option Sha256Digest) :
    ∃ profile, Builtin profile ∧
      (((Receiver.descriptorAvailable p r status descriptor digest).aside = ((r.mapper, profile), r.chord) ∧
          (Receiver.descriptorAvailable p r status descriptor digest).bond = r.bond) ∨
        (Receiver.descriptorAvailable p r status descriptor digest).aside = ((r.mapper, profile), false, 0)) := by
  rcases descriptorAvailable_eq (p := p) r status descriptor digest with
    ⟨profile, hp, h⟩ | ⟨-, outputs, -, ⟨-, h⟩ | ⟨-, h⟩⟩
  · refine ⟨some profile, fun x hx => ?_, .inl (by rw [h]; exact ⟨rfl, rfl⟩)⟩
    cases hx
    exact supportedProfile_builtin hp
  · refine ⟨none, builtin_none, .inr ?_⟩
    rw [h]
    exact cancelPairing_aside
  · exact ⟨none, builtin_none, .inl (by rw [h]; exact ⟨rfl, rfl⟩)⟩

/-- A Bluetooth event that is no report leaves the mapper alone and keeps a built-in profile, and leaves the
candidate's trial alone or clears its chord. -/
theorem bluetooth_aside (r : Receiver) {b : BtEvent} (h : (Event.bluetooth b).reportMs = none) :
    ∃ profile, (Builtin r.activeProfile → Builtin profile) ∧
      (((bluetooth p r b).aside = ((r.mapper, profile), r.chord) ∧
          (bluetooth p r b).pairingCandidateSelected = r.pairingCandidateSelected ∧
          (bluetooth p r b).controllerAddress = r.controllerAddress) ∨
        (bluetooth p r b).aside = ((r.mapper, profile), false, 0)) := by
  have hkept : ∀ {r' : Receiver} (profile : Option ControllerProfile), (Builtin r.activeProfile → Builtin profile) →
      r'.aside = ((r.mapper, profile), r.chord) → r'.bond = r.bond →
      ∃ profile, (Builtin r.activeProfile → Builtin profile) ∧
        ((r'.aside = ((r.mapper, profile), r.chord) ∧ r'.pairingCandidateSelected = r.pairingCandidateSelected ∧
            r'.controllerAddress = r.controllerAddress) ∨
          r'.aside = ((r.mapper, profile), false, 0)) := fun profile hb ha hbond =>
    ⟨profile, hb, .inl ⟨ha, congrArg Bond.pairingCandidateSelected hbond, congrArg Bond.controllerAddress hbond⟩⟩
  cases b with
  | inquiryResult result =>
    refine ⟨r.activeProfile, id, .inl ⟨inquiryResult_aside result, ?_⟩⟩
    rcases inquiryResult_bond (p := p) (r := r) result with hb | hb
    · exact ⟨congrArg Bond.pairingCandidateSelected hb, congrArg Bond.controllerAddress hb⟩
    · exact ⟨congrArg Bond.pairingCandidateSelected hb, congrArg Bond.controllerAddress hb⟩
  | inquiryComplete => exact hkept _ id inquiryComplete_aside inquiryComplete_bond
  | state working =>
    simp only [bluetooth]
    split <;> exact hkept _ id rfl rfl
  | pinCodeRequest address => exact hkept _ id rfl rfl
  | userConfirmationRequest address =>
    exact hkept _ id (userConfirmationRequest_aside address) (userConfirmationRequest_bond address)
  | incomingConnection address cid status acceptStatus =>
    have hbond := incomingConnection_bond (r := r) address cid status acceptStatus
    rcases r.incomingConnection_aside address cid status acceptStatus with ha | ha
    · exact hkept _ id ha hbond
    · exact hkept none (fun _ => builtin_none) ha hbond
  | connectionOpened status cid =>
    exact hkept none (fun _ => builtin_none) (connectionOpened_aside status cid) (connectionOpened_bond status cid)
  | descriptorAvailable status descriptor digest =>
    obtain ⟨profile, hprofile, ⟨ha, hbond⟩ | ha⟩ := descriptorAvailable_aside (p := p) (r := r) status descriptor digest
    · exact hkept profile (fun _ => hprofile) ha hbond
    · exact ⟨profile, fun _ => hprofile, .inr ha⟩
  | report report nowMs => cases h
  | connectionClosed => exact hkept none (fun _ => builtin_none) connectionClosed_aside connectionClosed_bond
  | reconnectTimer status cid => exact hkept _ id (reconnectExpired_aside status cid) (reconnectExpired_bond status cid)
  | scanTimer nowMs status => exact hkept _ id (scanExpired_aside nowMs status) (scanExpired_bond nowMs status)

/-- An event that is no report leaves the mapper alone, and the profile a built-in one. -/
theorem step_controls (r : Receiver) {e : Event} (h : e.reportMs = none) (hb : Builtin r.activeProfile) :
    ∃ profile, (step p r e).controls = (r.mapper, profile) ∧ Builtin profile := by
  cases e with
  | bluetooth b =>
    obtain ⟨profile, hprofile, ⟨ha, -⟩ | ha⟩ := bluetooth_aside (p := p) r.silent h
    · exact ⟨profile, congrArg Prod.fst ha, hprofile hb⟩
    · exact ⟨profile, congrArg Prod.fst ha, hprofile hb⟩
  | usb cb => exact ⟨r.activeProfile, rfl, hb⟩
  | setupSession cdc cs => exact ⟨r.activeProfile, setupSession_controls (r := r.silent) cdc cs, hb⟩
  | serviceStaleInput nowMs =>
    exact ⟨r.activeProfile, congrArg Prod.fst (serviceStaleInput_aside (r := r.silent) nowMs), hb⟩
  | serviceUsbKeyboard a =>
    exact ⟨r.activeProfile, congrArg Prod.fst (serviceUsbKeyboard_aside (r := r.silent) a), hb⟩

/-! ## The live mapping -/

theorem moment_valid (r : Receiver) (m : Moment) (h : validateProductionMapping r.productionMapping = .valid) :
    validateProductionMapping (moment p r m).productionMapping = .valid := by
  have hsame : ∀ {r' : Receiver}, r'.productionMapping = r.productionMapping →
      validateProductionMapping r'.productionMapping = .valid := fun hr => by rw [hr, h]
  rcases moment_cases (p := p) r m with ⟨hr, -⟩ | ⟨text, rfl, -⟩ | ⟨mapping, faults, rfl⟩ | ⟨linkKey, faults, rfl⟩
  · exact hsame (congrArg Memory.productionMapping hr.memory)
  · exact hsame (congrArg Memory.productionMapping (selectPairingCandidate_memory text))
  · show validateProductionMapping (r.setConfig mapping faults).productionMapping = .valid
    rcases r.setConfig_eq mapping faults with hr | ⟨hvalid, stored, -, hr⟩
    · rw [hr]
      exact h
    · rw [hr]
      dsimp only
      split
      · exact hvalid
      · exact h
  · obtain ⟨config, rearm, ho⟩ := confirmPairingCandidate_outside (p := p) (r := r) linkKey faults
    exact hsame (congrArg Outside.productionMapping ho)

/-- Every event keeps the live mapping valid. -/
theorem step_valid (r : Receiver) (e : Event) (h : validateProductionMapping r.productionMapping = .valid) :
    validateProductionMapping (step p r e).productionMapping = .valid := by
  rw [← step_moments]
  exact Run.invariant_all moment_valid _ h

/-! ## Reports -/

/-- The mapper as a report meets it: one that must re-arm resets it first. -/
def entering (r : Receiver) : ControlMapper := if r.rearmRequired then r.mapper.reset else r.mapper

/-- What a report does with the mapper. -/
inductive Consumed (r : Receiver) (report : List UInt8) (nowMs : UInt32) (r' : Receiver) : Prop where
  | refused (h : r.parseReport report nowMs = none) (mapper : r'.mapper = r.mapper.reset)
      (rearm : r'.rearmRequired = true)
  | withheld (raw : GamepadState) (h : r.parseReport report nowMs = some raw) (attended : ¬ r.Unattended)
      (mapper : r'.mapper = r.mapper) (rearm : r'.rearmRequired = r.rearmRequired)
  | processed (raw : GamepadState) (h : r.parseReport report nowMs = some raw) (unattended : r.Unattended)
      (mapper : r'.mapper = ControlMapper.step r.entering (r.mapped raw, nowMs))

theorem resetMapper_mapper (nowMs : UInt32) : (r.resetMapper nowMs).mapper = r.mapper.reset := by
  show (r.mapper.update { sampleMs := nowMs } nowMs).1 = _
  rw [ControlMapper.update_reset (.inl rfl)]

theorem rearm_mapper (input : GamepadState) (nowMs : UInt32) :
    (r.rearm input nowMs).mapper = ControlMapper.step r.mapper.reset (input, nowMs) := by
  have hreset : (r.resetMapper nowMs).mapper = r.mapper.reset := resetMapper_mapper nowMs
  unfold rearm
  dsimp only
  split <;> exact congrArg (fun m : ControlMapper => (m.update input nowMs).1) hreset

theorem consumeControllerReport_consumed (r : Receiver) (report : List UInt8) (nowMs : UInt32) :
    Consumed r report nowMs (r.consumeControllerReport report nowMs) := by
  unfold consumeControllerReport
  cases hp : r.parseReport report nowMs with
  | none => exact .refused hp (resetMapper_mapper (r := { r with rearmRequired := true, lastValidReportMs := 0 }) nowMs) rfl
  | some raw =>
    dsimp only
    unfold consumeInput
    split
    · rename_i hc
      obtain ⟨started, confirmed, outputs, -, h⟩ :=
        r.confirmationChord_eq (applyProductionMapping raw r.productionMapping) nowMs
      rw [h]
      exact .withheld raw hp (fun hu => Bool.noConfusion (hu.2.symm.trans hc)) rfl rfl
    · rename_i hc
      split
      · rename_i ha
        exact .withheld raw hp (fun hu => Bool.noConfusion (hu.1.symm.trans ha)) rfl rfl
      · rename_i ha
        refine .processed raw hp ⟨by simpa using ha, by simpa using hc⟩ ?_
        dsimp only
        unfold entering
        split
        · exact rearm_mapper (r := { r with lastValidReportMs := nowMs }) _ _
        · rfl

/-- A step of a report, by what it does with the mapper. -/
theorem step_consumed (r : Receiver) (report : List UInt8) (nowMs : UInt32) :
    Consumed r report nowMs (step p r (.bluetooth (.report report nowMs))) := by
  cases r.silent.consumeControllerReport_consumed report nowMs with
  | refused h hm hr => exact .refused h hm hr
  | withheld raw h ha hm hr => exact .withheld raw h ha hm hr
  | processed raw h hu hm => exact .processed raw h hu hm

/-! ## What holds between events -/

/-- The profile is a built-in one, the live mapping valid, and the mapper's own configuration the compiled
one. -/
structure Wired (r : Receiver) : Prop where
  profile : Builtin r.activeProfile
  mapping : validateProductionMapping r.productionMapping = .valid
  config : r.mapper.config = {}

theorem boot_wired (flash : Flash) (reads : Option Flash) : Wired (boot p flash reads) :=
  ⟨builtin_none, load_valid reads, rfl⟩

theorem Consumed.config {report : List UInt8} {nowMs : UInt32} {r' : Receiver} (h : Consumed r report nowMs r') :
    r'.mapper.config = r.mapper.config := by
  cases h with
  | refused h hm hr => rw [hm, ControlMapper.reset_config]
  | withheld raw h ha hm hr => rw [hm]
  | processed raw h hu hm =>
    rw [hm, ControlMapper.step, ControlMapper.update_config, entering]
    split <;> rfl

theorem step_wired (r : Receiver) (e : Event) (h : Wired r) : Wired (step p r e) := by
  have hcontrols : Builtin (step p r e).activeProfile ∧ (step p r e).mapper.config = {} := by
    cases he : e.reportMs with
    | none =>
      obtain ⟨profile, hc, hb⟩ := step_controls (p := p) r he h.profile
      rw [show (step p r e).activeProfile = profile from congrArg Prod.snd hc,
        show (step p r e).mapper = r.mapper from congrArg Prod.fst hc]
      exact ⟨hb, h.config⟩
    | some nowMs =>
      obtain ⟨report, rfl⟩ := Event.eq_report he
      refine ⟨?_, (step_consumed (p := p) r report nowMs).config.trans h.config⟩
      obtain ⟨rearm, last, mapper, wanted, started, confirmed, outputs, -, hr⟩ :=
        r.silent.consumeControllerReport_eq report nowMs
      show Builtin (r.silent.consumeControllerReport report nowMs).activeProfile
      rw [hr]
      exact h.profile
  exact ⟨hcontrols.1, step_valid r e h.mapping, hcontrols.2⟩

/-- A parsed sample, mapped, is connected and dated now, so that the mapper takes it for live. -/
theorem Wired.live (h : Wired r) {report : List UInt8} {nowMs : UInt32} {raw : GamepadState}
    (hp : r.parseReport report nowMs = some raw) (m : ControlMapper) :
    ControlMapper.Live m (r.mapped raw, nowMs) := by
  have hraw : raw.connected = true ∧ raw.sampleMs = nowMs := by
    unfold parseReport at hp
    split at hp
    · cases hp
    · obtain ⟨profile, hprofile, hp⟩ := Option.bind_eq_some_iff.1 hp
      rw [h.profile profile hprofile] at hp
      exact Lite2.parse_some hp
  have hm := applyProductionMapping_mapped raw r.productionMapping
  refine ⟨hm.connected.trans hraw.1, ?_⟩
  have hsample : (r.mapped raw).sampleMs = nowMs := hm.sampleMs.trans hraw.2
  rw [MapperConfig.stale, hsample, sub_self]
  exact decide_eq_false (by simp)

end RedMonkeyMpg.Gamepad.Receiver
