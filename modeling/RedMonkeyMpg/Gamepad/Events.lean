/-
Every event of the gamepad receiver, by what it does to the motion state: a report is refused,
withheld from publishing, consumed to re-arm, or driven to the keyboard; any other event leaves the
motion state alone or closes it, and closes it when it is a fault. A candidate is selected only
while the setup session is active, and an active session keeps the receiver closed.
-/
import RedMonkeyMpg.Gamepad.Steps

namespace RedMonkeyMpg.Gamepad.Receiver

variable {p : Platform} {r : Receiver}

/-! ## Reports -/

/-- The mapped sample of a parsed report. -/
def mapped (r : Receiver) (raw : GamepadState) : GamepadState := applyProductionMapping raw r.productionMapping

/-- The keyboard report of a parsed report, through the mapper and the CNC profile. -/
def keyboardReport (r : Receiver) (raw : GamepadState) (nowMs : UInt32) : KeyboardReport :=
  cncControllerKeyboardReport r.productionMapping.cncProfile (r.mapper.update (r.mapped raw) nowMs).2

/-- No session is active and no candidate selected. -/
def Unattended (r : Receiver) : Prop := r.configActive = false ∧ r.pairingCandidateSelected = false

instance (r : Receiver) : Decidable r.Unattended := inferInstanceAs (Decidable (_ ∧ _))

/-- What a report does. -/
inductive Reported (r : Receiver) (report : List UInt8) (nowMs : UInt32) (r' : Receiver) : Prop where
  | refused (h : r.parseReport report nowMs = none) (closed : Closed r')
  | withheld (raw : GamepadState) (h : r.parseReport report nowMs = some raw)
      (attended : ¬ r.Unattended) (desired : r'.usb.desired = .release)
      (rearm : r'.rearmRequired = r.rearmRequired)
  | rearmed (raw : GamepadState) (h : r.parseReport report nowMs = some raw) (unattended : r.Unattended)
      (before : r.rearmRequired = true) (desired : r'.usb.desired = .release)
      (rearm : r'.rearmRequired = !controlsAreSafeToArm (r.mapped raw))
  | driven (raw : GamepadState) (h : r.parseReport report nowMs = some raw) (unattended : r.Unattended)
      (before : r.rearmRequired = false) (desired : r'.usb.desired = r.keyboardReport raw nowMs)
      (rearm : r'.rearmRequired = false) (time : r'.lastValidReportMs = nowMs)

theorem rearm_desired (input : GamepadState) (nowMs : UInt32) : (r.rearm input nowMs).usb.desired = .release := by
  unfold rearm
  dsimp only
  split <;> rfl

theorem rearm_rearmRequired (input : GamepadState) (nowMs : UInt32) :
    (r.rearm input nowMs).rearmRequired = (r.rearmRequired && !controlsAreSafeToArm input) := by
  unfold rearm
  dsimp only
  split
  · rename_i h
    rw [h, Bool.not_true, Bool.and_false]
  · rename_i h
    rw [Bool.not_eq_true] at h
    rw [h, Bool.not_false, Bool.and_true]
    rfl

/-- Everything a report can do. -/
theorem consumeControllerReport_reported (r : Receiver) (report : List UInt8) (nowMs : UInt32) :
    Reported r report nowMs (r.consumeControllerReport report nowMs) := by
  unfold consumeControllerReport
  cases hp : r.parseReport report nowMs with
  | none => exact .refused hp (refuseReport_closed r nowMs)
  | some raw =>
    dsimp only
    unfold consumeInput
    split
    · rename_i hc
      refine .withheld raw hp (fun hu => ?_) rfl ?_
      · rw [hu.2] at hc
        cases hc
      · obtain ⟨started, confirmed, outputs, -, h⟩ :=
          r.confirmationChord_eq (applyProductionMapping raw r.productionMapping) nowMs
        rw [h]
        rfl
    · rename_i hc
      split
      · rename_i ha
        refine .withheld raw hp (fun hu => ?_) rfl rfl
        rw [hu.1] at ha
        cases ha
      · rename_i ha
        have hu : r.Unattended := ⟨by simpa using ha, by simpa using hc⟩
        dsimp only
        split
        · rename_i hr
          have hr' : r.rearmRequired = true := hr
          refine .rearmed raw hp hu hr' (rearm_desired _ _) ?_
          rw [rearm_rearmRequired]
          show (r.rearmRequired && _) = _
          rw [hr', Bool.true_and]
          rfl
        · rename_i hr
          have hr' : r.rearmRequired = false := (Bool.not_eq_true _).mp hr
          exact .driven raw hp hu hr' rfl hr' rfl

/-! ## Faults -/

/-- When the event is a report: the millisecond it is consumed at. -/
def Event.reportMs : Event → Option UInt32
  | .bluetooth (.report _ nowMs) => some nowMs
  | _ => none

theorem Event.eq_report {e : Event} {nowMs : UInt32} (h : e.reportMs = some nowMs) :
    ∃ report, e = .bluetooth (.report report nowMs) := by
  cases e with
  | bluetooth b =>
    cases b with
    | report report ms =>
      obtain rfl : ms = nowMs := Option.some.inj h
      exact ⟨report, rfl⟩
    | _ => cases h
  | _ => cases h

/-- A connection opened or closed, an unparsable report, a stale release, a mount change or a
refused report seen by the USB pass, a pass with an active setup session. -/
def Fault (r : Receiver) : Event → Prop
  | .bluetooth (.connectionOpened _ _) => True
  | .bluetooth .connectionClosed => True
  | .bluetooth (.report report nowMs) => r.parseReport report nowMs = none
  | .setupSession cdcConnected _ => r.configConnected cdcConnected = true
  | .serviceStaleInput nowMs => r.staleKey nowMs = true
  | .serviceUsbKeyboard a => (r.usb.service a).fault = true
  | _ => False

instance (r : Receiver) : ∀ e : Event, Decidable (Fault r e)
  | .bluetooth (.connectionOpened _ _) => .isTrue trivial
  | .bluetooth .connectionClosed => .isTrue trivial
  | .bluetooth (.report report nowMs) => inferInstanceAs (Decidable (r.parseReport report nowMs = none))
  | .setupSession cdcConnected _ => inferInstanceAs (Decidable (r.configConnected cdcConnected = true))
  | .serviceStaleInput nowMs => inferInstanceAs (Decidable (r.staleKey nowMs = true))
  | .serviceUsbKeyboard a => inferInstanceAs (Decidable ((r.usb.service a).fault = true))
  | .usb _ => .isFalse id
  | .bluetooth (.inquiryResult _) => .isFalse id
  | .bluetooth .inquiryComplete => .isFalse id
  | .bluetooth (.state _) => .isFalse id
  | .bluetooth (.pinCodeRequest _) => .isFalse id
  | .bluetooth (.userConfirmationRequest _) => .isFalse id
  | .bluetooth (.incomingConnection ..) => .isFalse id
  | .bluetooth (.descriptorAvailable ..) => .isFalse id
  | .bluetooth (.reconnectTimer ..) => .isFalse id
  | .bluetooth (.scanTimer ..) => .isFalse id

theorem setupSession_cases (r : Receiver) (cdc : Bool) (cs : List SetupCommand) :
    (r.configConnected cdc = false ∧ Quiet r (setupSession p r cdc cs)) ∨
      (r.configConnected cdc = true ∧ Closed (setupSession p r cdc cs)) := by
  cases h : r.configConnected cdc with
  | false =>
    have ho := (setupSession_inactive (p := p) cs h).1
    exact .inl ⟨rfl, congrArg (·.usb.desired) ho, congrArg Outside.rearmRequired ho,
      congrArg Outside.lastValidReportMs ho⟩
  | true => exact .inr ⟨rfl, (setupSession_active cs h).1⟩

/-- A Bluetooth event that is no report. -/
theorem bluetooth_cases (r : Receiver) {b : BtEvent} (h : (Event.bluetooth b).reportMs = none) :
    (¬ Fault r (.bluetooth b) ∧ Quiet r (bluetooth p r b)) ∨ Closed (bluetooth p r b) := by
  cases b with
  | inquiryResult result => exact .inl ⟨id, .of_outside (inquiryResult_outside result)⟩
  | inquiryComplete => exact .inl ⟨id, .of_outside inquiryComplete_outside⟩
  | state working =>
    refine .inl ⟨id, ?_⟩
    simp only [bluetooth]
    split <;> exact ⟨rfl, rfl, rfl⟩
  | pinCodeRequest address => exact .inl ⟨id, rfl, rfl, rfl⟩
  | userConfirmationRequest address => exact .inl ⟨id, .of_outside (userConfirmationRequest_outside address)⟩
  | incomingConnection address cid status acceptStatus =>
    rcases r.incomingConnection_cases address cid status acceptStatus with hq | hc
    · exact .inl ⟨id, hq⟩
    · exact .inr hc
  | connectionOpened status cid => exact .inr (r.connectionOpened_closed status cid)
  | descriptorAvailable status descriptor digest =>
    rcases r.descriptorAvailable_cases (p := p) status descriptor digest with hq | hc
    · exact .inl ⟨id, hq⟩
    · exact .inr hc
  | report report nowMs => cases h
  | connectionClosed => exact .inr r.connectionClosed_closed
  | reconnectTimer status cid => exact .inl ⟨id, .of_outside (reconnectExpired_outside status cid)⟩
  | scanTimer nowMs status => exact .inl ⟨id, .of_outside (scanExpired_outside nowMs status)⟩

theorem Quiet.of_silent {r' : Receiver} (h : Quiet r.silent r') : Quiet r r' :=
  ⟨h.desired, h.rearmRequired, h.lastValidReportMs⟩

/-- An event that is no report leaves the motion state alone and is no fault, or closes it. -/
theorem step_other (r : Receiver) {e : Event} (h : e.reportMs = none) :
    (¬ Fault r e ∧ Quiet r (step p r e)) ∨ Closed (step p r e) := by
  cases e with
  | bluetooth b =>
    rcases bluetooth_cases (p := p) r.silent h with ⟨hf, hq⟩ | hc
    · refine .inl ⟨fun hfault => hf ?_, hq.of_silent⟩
      cases b <;> exact hfault
    · exact .inr hc
  | usb cb =>
    refine .inl ⟨id, ?_, rfl, rfl⟩
    cases cb <;> rfl
  | setupSession cdc cs =>
    rcases r.silent.setupSession_cases (p := p) cdc cs with ⟨hf, hq⟩ | ⟨-, hc⟩
    · refine .inl ⟨fun hfault => ?_, hq.of_silent⟩
      have hon : r.silent.configConnected cdc = true := hfault
      rw [hf] at hon
      cases hon
    · exact .inr hc
  | serviceStaleInput nowMs =>
    rcases r.silent.serviceStaleInput_cases nowMs with ⟨hf, hq⟩ | ⟨-, hc⟩
    · refine .inl ⟨fun hfault => ?_, ?_⟩
      · have hon : r.silent.staleKey nowMs = true := hfault
        rw [hf] at hon
        cases hon
      · show Quiet r (r.silent.serviceStaleInput nowMs)
        rw [hq]
        exact ⟨rfl, rfl, rfl⟩
    · exact .inr hc
  | serviceUsbKeyboard a =>
    rcases r.silent.serviceUsbKeyboard_cases a with ⟨hf, hq⟩ | ⟨-, hc⟩
    · refine .inl ⟨fun hfault => ?_, hq.of_silent⟩
      have hon : (r.silent.usb.service a).fault = true := hfault
      rw [hf] at hon
      cases hon
    · exact .inr hc

/-- A step of a report. -/
theorem step_report (r : Receiver) (report : List UInt8) (nowMs : UInt32) :
    Reported r report nowMs (step p r (.bluetooth (.report report nowMs))) := by
  have h := r.silent.consumeControllerReport_reported report nowMs
  cases h with
  | refused hp hc => exact .refused hp hc
  | withheld raw hp ha hd hr => exact .withheld raw hp ha hd hr
  | rearmed raw hp hu hb hd hr => exact .rearmed raw hp hu hb hd hr
  | driven raw hp hu hb hd hr ht => exact .driven raw hp hu hb hd hr ht

/-! ## The session between events -/

/-- A candidate is selected only in an active session, and an active session keeps the receiver
closed. -/
structure Guarded (r : Receiver) : Prop where
  wasActive : r.configWasActive = r.configActive
  candidate : r.pairingCandidateSelected = true → r.configActive = true
  closed : r.configActive = true → Closed r

theorem Guarded.unattended (h : Guarded r) (ha : r.configActive = false) : r.Unattended := by
  refine ⟨ha, (Bool.not_eq_true _).mp fun hc => ?_⟩
  rw [h.candidate hc] at ha
  cases ha

theorem boot_guarded (flash : Flash) (reads : Option Flash) : Guarded (boot p flash reads) :=
  ⟨rfl, fun h => (Bool.false_ne_true h).elim, fun h => (Bool.false_ne_true h).elim⟩

theorem SessionKept.refl_outside {s : Receiver} (h : s.outside = r.outside) : SessionKept r s :=
  ⟨congrArg Outside.configActive h, congrArg Outside.configWasActive h⟩

theorem consumeControllerReport_session (report : List UInt8) (nowMs : UInt32) :
    SessionKept r (r.consumeControllerReport report nowMs) := by
  obtain ⟨rearm, last, mapper, wanted, started, confirmed, outputs, -, h⟩ := r.consumeControllerReport_eq report nowMs
  rw [h]
  exact ⟨rfl, rfl⟩

/-- No Bluetooth event opens or closes the session, or selects a candidate. -/
theorem bluetooth_session (r : Receiver) (b : BtEvent) :
    SessionKept r (bluetooth p r b) ∧
      ((bluetooth p r b).pairingCandidateSelected = true → r.pairingCandidateSelected = true) := by
  have hbond : ∀ r' : Receiver, r'.bond = r.bond →
      (r'.pairingCandidateSelected = true → r.pairingCandidateSelected = true) := by
    intro r' h hc
    rw [← show r'.pairingCandidateSelected = r.pairingCandidateSelected from congrArg Bond.pairingCandidateSelected h]
    exact hc
  cases b with
  | inquiryResult result =>
    refine ⟨.refl_outside (inquiryResult_outside result), ?_⟩
    simp only [bluetooth, Receiver.inquiryResult]
    split
    · exact id
    · split
      · exact id
      · split <;> exact id
  | inquiryComplete => exact ⟨.refl_outside inquiryComplete_outside, hbond _ inquiryComplete_bond⟩
  | state working =>
    simp only [bluetooth]
    split <;> exact ⟨⟨rfl, rfl⟩, id⟩
  | pinCodeRequest address => exact ⟨⟨rfl, rfl⟩, id⟩
  | userConfirmationRequest address =>
    exact ⟨.refl_outside (userConfirmationRequest_outside address), hbond _ (userConfirmationRequest_bond address)⟩
  | incomingConnection address cid status acceptStatus =>
    refine ⟨?_, hbond _ (incomingConnection_bond address cid status acceptStatus)⟩
    obtain ⟨s, known, last, timer, outputs, hs, -, h⟩ := r.incomingConnection_eq address cid status acceptStatus
    simp only [bluetooth, h]
    rcases hs with rfl | rfl
    · exact ⟨rfl, rfl⟩
    · exact ⟨rfl, rfl⟩
  | connectionOpened status cid =>
    refine ⟨?_, hbond _ (connectionOpened_bond status cid)⟩
    obtain ⟨connected, known, last, timer, outputs, -, h⟩ := r.connectionOpened_eq status cid
    simp only [bluetooth, h]
    exact ⟨rfl, rfl⟩
  | descriptorAvailable status descriptor digest =>
    simp only [bluetooth]
    rcases descriptorAvailable_eq (p := p) r status descriptor digest with
      ⟨profile, -, h⟩ | ⟨-, outputs, -, ⟨hc, h⟩ | ⟨-, h⟩⟩
    · rw [h]
      exact ⟨⟨rfl, rfl⟩, id⟩
    · obtain ⟨ha, hw⟩ := SessionKept.refl_outside
        (r := { r.failClosed with outputs := outputs }) (cancelPairing_outside (p := p))
      rw [h]
      exact ⟨⟨ha, hw⟩, fun _ => hc⟩
    · rw [h]
      exact ⟨⟨rfl, rfl⟩, id⟩
  | report report nowMs =>
    exact ⟨consumeControllerReport_session report nowMs, hbond _ (consumeControllerReport_bond report nowMs)⟩
  | connectionClosed =>
    refine ⟨?_, hbond _ connectionClosed_bond⟩
    obtain ⟨timer, h⟩ := r.connectionClosed_eq
    simp only [bluetooth, h]
    exact ⟨rfl, rfl⟩
  | reconnectTimer status cid => exact ⟨.refl_outside (reconnectExpired_outside status cid), hbond _ (reconnectExpired_bond status cid)⟩
  | scanTimer nowMs status => exact ⟨.refl_outside (scanExpired_outside nowMs status), hbond _ (scanExpired_bond nowMs status)⟩

theorem serviceStaleInput_session (nowMs : UInt32) : SessionKept r (r.serviceStaleInput nowMs) := by
  unfold serviceStaleInput
  split <;> exact ⟨rfl, rfl⟩

theorem serviceUsbKeyboard_session (a : UsbAnswer) : SessionKept r (r.serviceUsbKeyboard a) := by
  unfold serviceUsbKeyboard
  dsimp only
  split <;> exact ⟨rfl, rfl⟩

theorem Closed.of_quiet {s : Receiver} (h : Closed r) (hq : Quiet r s) : Closed s :=
  ⟨hq.desired.trans h.desired, hq.rearmRequired.trans h.rearmRequired⟩

/-- A receiver that was closed under a session stays closed through any Bluetooth event. -/
theorem step_closed {b : BtEvent} (ha : r.configActive = true) (hc : Closed r) :
    Closed (step p r (.bluetooth b)) := by
  cases hb : (Event.bluetooth b).reportMs with
  | none =>
    rcases step_other (p := p) r hb with ⟨-, hq⟩ | h
    · exact hc.of_quiet hq
    · exact h
  | some t =>
    cases b with
    | report report nowMs =>
      have hno : ¬ r.Unattended := fun hu => by
        rw [hu.1] at ha
        cases ha
      cases step_report (p := p) r report nowMs with
      | refused hp h => exact h
      | withheld raw hp hatt hd hr => exact ⟨hd, by rw [hr, hc.rearmRequired]⟩
      | rearmed raw hp hu hb hd hr => exact absurd hu hno
      | driven raw hp hu hb hd hr ht => exact absurd hu hno
    | _ => cases hb

theorem Guarded.of_kept {s : Receiver} (h : Guarded r) (hs : SessionKept r s)
    (hc : s.pairingCandidateSelected = true → r.pairingCandidateSelected = true)
    (hclosed : r.configActive = true → Closed r → Closed s) : Guarded s := by
  refine ⟨?_, fun hcand => ?_, fun hact => ?_⟩
  · rw [hs.configWasActive, h.wasActive, hs.configActive]
  · rw [hs.configActive]
    exact h.candidate (hc hcand)
  · rw [hs.configActive] at hact
    exact hclosed hact (h.closed hact)

/-- What holds between events: no candidate without a session, and nothing wanted under one. -/
theorem step_guarded (r : Receiver) (e : Event) (h : Guarded r) : Guarded (step p r e) := by
  have hsilent : Guarded r.silent :=
    ⟨h.wasActive, h.candidate, fun ha => ⟨(h.closed ha).desired, (h.closed ha).rearmRequired⟩⟩
  cases e with
  | bluetooth b =>
    obtain ⟨hs, hc⟩ := bluetooth_session (p := p) r.silent b
    exact hsilent.of_kept hs hc fun ha _ => step_closed ha (h.closed ha)
  | usb cb =>
    refine hsilent.of_kept ⟨rfl, rfl⟩ id fun _ hc => ⟨?_, hc.rearmRequired⟩
    cases cb <;> exact hc.desired
  | setupSession cdc cs =>
    cases hon : r.silent.configConnected cdc with
    | true =>
      obtain ⟨hclosed, ha, hw⟩ := setupSession_active (p := p) cs hon
      exact ⟨hw.trans ha.symm, fun _ => ha, fun _ => hclosed⟩
    | false =>
      obtain ⟨ho, hcancel⟩ := setupSession_inactive (p := p) cs hon
      have ha : (step p r (.setupSession cdc cs)).configActive = false := congrArg Outside.configActive ho
      refine ⟨(congrArg Outside.configWasActive ho).trans ha.symm, fun hcand => ?_, fun hact => ?_⟩
      · obtain ⟨hsel, hw⟩ := hcancel hcand
        have hoff : r.configActive = false := h.wasActive.symm.trans hw
        rw [h.candidate hsel] at hoff
        cases hoff
      · rw [ha] at hact
        cases hact
  | serviceStaleInput nowMs =>
    have hb := congrArg Bond.pairingCandidateSelected (serviceStaleInput_bond (r := r.silent) nowMs)
    refine hsilent.of_kept (serviceStaleInput_session nowMs) (fun hc => hb.symm.trans hc) fun _ hc => ?_
    rcases r.silent.serviceStaleInput_cases nowMs with ⟨-, hs⟩ | ⟨-, hclosed⟩
    · show Closed (r.silent.serviceStaleInput nowMs)
      rw [hs]
      exact hc
    · exact hclosed
  | serviceUsbKeyboard a =>
    have hb := congrArg Bond.pairingCandidateSelected (serviceUsbKeyboard_bond (r := r.silent) a)
    refine hsilent.of_kept (serviceUsbKeyboard_session a) (fun hc => hb.symm.trans hc) fun _ hc => ?_
    rcases r.silent.serviceUsbKeyboard_cases a with ⟨-, hq⟩ | ⟨-, hclosed⟩
    · exact hc.of_quiet hq
    · exact hclosed

end RedMonkeyMpg.Gamepad.Receiver
