/-
The motion gate of the gamepad receiver, over every run of passes from the boot. A key handed to
USB was driven by the most recently delivered report; no session and no candidate was there in the
pass; and a neutral report was consumed after the latest fault. Two latches carry this, the wanted
report and the re-arm flag, and the session between events carries the pass.
-/
import RedMonkeyMpg.Gamepad.Events

namespace RedMonkeyMpg.Gamepad.Receiver

variable {p : Platform} {r : Receiver}

/-! ## The two kinds of report -/

/-- The event is a report that drives this keyboard report: it parses under the active profile, is
mapped with cancel released and, for a jog key, with the dead-man held, and the receiver is armed
and unattended. -/
def Drives (report : KeyboardReport) (r : Receiver) (e : Event) : Prop :=
  ∃ bytes nowMs raw, e = .bluetooth (.report bytes nowMs) ∧ r.parseReport bytes nowMs = some raw ∧
    report = r.keyboardReport raw nowMs ∧ (r.mapped raw).cancel = false ∧
    (report.isJog = true →
      (r.mapped raw).deadman = true ∧ raw.buttons &&& r.productionMapping.deadmanMask ≠ 0) ∧
    r.Unattended ∧ r.rearmRequired = false

/-- The event is a report that parses, with the dead-man released and every stick near its centre,
consumed by an unattended receiver. -/
def Neutral (r : Receiver) (e : Event) : Prop :=
  ∃ bytes nowMs raw, e = .bluetooth (.report bytes nowMs) ∧ r.parseReport bytes nowMs = some raw ∧
    (r.mapped raw).deadman = false ∧ magnitude raw.leftX ≤ kCenterLimit ∧
    magnitude raw.leftY ≤ kCenterLimit ∧ magnitude raw.rightY ≤ kCenterLimit ∧ r.Unattended

/-- A key comes from a sample with cancel released. -/
theorem keyboardReport_cancel {raw : GamepadState} {nowMs : UInt32}
    (h : reportHasKey (r.keyboardReport raw nowMs) = true) : (r.mapped raw).cancel = false := by
  obtain ⟨-, hrel, -⟩ := cncReport_key h
  refine (Bool.not_eq_true _).mp fun hc => ?_
  rw [ControlMapper.update_cancel hc] at hrel
  cases hrel

/-- A jog key comes from a sample with the mapped dead-man bit set. -/
theorem keyboardReport_deadman {raw : GamepadState} {nowMs : UInt32}
    (h : reportHasKey (r.keyboardReport raw nowMs) = true) (hj : (r.keyboardReport raw nowMs).isJog = true) :
    (r.mapped raw).deadman = true ∧ raw.buttons &&& r.productionMapping.deadmanMask ≠ 0 := by
  obtain ⟨hm, -, -⟩ := cncReport_key h
  have hjog : (massoG3KeyboardReport (r.mapper.update (r.mapped raw) nowMs).2).isJog = true := hm ▸ hj
  obtain ⟨-, -, hframe⟩ := (masso_isJog _).1 hjog
  obtain ⟨-, -, -, hd, -, -⟩ := ControlMapper.update_jog hframe
  have hvalid := applyProductionMapping_cancel (keyboardReport_cancel h)
  refine ⟨hd, ?_⟩
  have hmask := (applyProductionMapping_mapped raw r.productionMapping).deadman hvalid
  rw [show (applyProductionMapping raw r.productionMapping).deadman = true from hd] at hmask
  simpa using hmask.symm

/-- A report that is safe to arm on has its own sticks near the centre. -/
theorem mapped_safe {raw : GamepadState} (h : controlsAreSafeToArm (r.mapped raw) = true) :
    (r.mapped raw).deadman = false ∧ magnitude raw.leftX ≤ kCenterLimit ∧
      magnitude raw.leftY ≤ kCenterLimit ∧ magnitude raw.rightY ≤ kCenterLimit := by
  have hm := applyProductionMapping_mapped raw r.productionMapping
  simp only [controlsAreSafeToArm, mapped, hm.leftX, hm.leftY, hm.rightY, Bool.and_eq_true,
    Bool.not_eq_true', decide_eq_true_eq] at h
  exact ⟨h.1.1.1, h.1.1.2, h.1.2, h.2⟩

/-! ## The latches -/

/-- The event is a report, or a fault. -/
def Disturbs (r : Receiver) (e : Event) : Prop := e.reportMs ≠ none ∨ Fault r e

/-- A step after which a key is wanted drove it, or kept it and disturbed nothing. -/
theorem step_key {report : KeyboardReport} (hkey : reportHasKey report = true) (r : Receiver) (e : Event)
    (h : (step p r e).usb.desired = report) :
    Drives report r e ∨ (r.usb.desired = report ∧ ¬ Disturbs r e) := by
  have hrelease : (step p r e).usb.desired ≠ .release := by
    intro hr
    rw [← h, hr] at hkey
    cases hkey
  cases he : e.reportMs with
  | none =>
    rcases step_other (p := p) r he with ⟨hf, hq⟩ | hc
    · refine .inr ⟨hq.desired.symm.trans h, ?_⟩
      rintro (hd | hd)
      · exact hd he
      · exact hf hd
    · exact absurd hc.desired hrelease
  | some nowMs =>
    obtain ⟨bytes, rfl⟩ := Event.eq_report he
    cases step_report (p := p) r bytes nowMs with
    | refused hp hc => exact absurd hc.desired hrelease
    | withheld raw hp ha hd hr => exact absurd hd hrelease
    | rearmed raw hp hu hb hd hr => exact absurd hd hrelease
    -- the one outcome that leaves a key wanted
    | driven raw hp hu hb hd hr ht =>
      have hrep : report = r.keyboardReport raw nowMs := h.symm.trans hd
      subst hrep
      exact .inl ⟨bytes, nowMs, raw, rfl, hp, rfl, keyboardReport_cancel hkey,
        keyboardReport_deadman hkey, hu, hb⟩

/-- A step after which the receiver is armed consumed a neutral report, or found it armed and is no
fault. -/
theorem step_armed (r : Receiver) (e : Event) (h : (step p r e).rearmRequired = false) :
    Neutral r e ∨ (r.rearmRequired = false ∧ ¬ Fault r e) := by
  have hclosed : ¬ Closed (step p r e) := by
    intro hc
    rw [hc.rearmRequired] at h
    cases h
  cases he : e.reportMs with
  | none =>
    rcases step_other (p := p) r he with ⟨hf, hq⟩ | hc
    · exact .inr ⟨hq.rearmRequired.symm.trans h, hf⟩
    · exact absurd hc hclosed
  | some nowMs =>
    obtain ⟨bytes, rfl⟩ := Event.eq_report he
    have hparsed : ∀ raw, r.parseReport bytes nowMs = some raw →
        ¬ Fault r (.bluetooth (.report bytes nowMs)) := by
      intro raw hp hf
      have hnone : r.parseReport bytes nowMs = none := hf
      rw [hp] at hnone
      cases hnone
    cases step_report (p := p) r bytes nowMs with
    | refused hp hc => exact absurd hc hclosed
    | withheld raw hp ha hd hr => exact .inr ⟨hr.symm.trans h, hparsed raw hp⟩
    | rearmed raw hp hu hb hd hr =>
      rw [h] at hr
      obtain ⟨hdead, hx, hy, hz⟩ := mapped_safe (r := r) (by simpa using hr.symm)
      exact .inl ⟨bytes, nowMs, raw, rfl, hp, hdead, hx, hy, hz, hu⟩
    | driven raw hp hu hb hd hr ht => exact .inr ⟨hb, hparsed raw hp⟩

/-- A wanted key needs an armed receiver. -/
def Armed (r : Receiver) : Prop := reportHasKey r.usb.desired = true → r.rearmRequired = false

theorem step_keepsArmed (r : Receiver) (e : Event) (h : Armed r) : Armed (step p r e) := by
  intro hkey
  rcases step_key (p := p) hkey r e rfl with hd | ⟨hd, hno⟩
  · obtain ⟨bytes, nowMs, raw, rfl, hp, -, -, -, hu, hb⟩ := hd
    cases step_report (p := p) r bytes nowMs with
    | refused hp' hc =>
      rw [hc.desired] at hkey
      cases hkey
    | withheld raw' hp' ha hd hr => exact absurd hu ha
    | rearmed raw' hp' hu' hb' hd hr =>
      rw [hb] at hb'
      cases hb'
    | driven raw' hp' hu' hb' hd hr ht => exact hr
  · have he : e.reportMs = none := by
      by_contra hne
      exact hno (.inl hne)
    rcases step_other (p := p) r he with ⟨-, hq⟩ | hc
    · rw [hq.rearmRequired]
      exact h (hd ▸ hkey)
    · rw [hc.desired] at hkey
      cases hkey

/-! ## One pass -/

/-- What the Bluetooth poll and the USB task handle. -/
def Event.polled : Event → Prop
  | .bluetooth _ | .usb _ => True
  | _ => False

theorem step_polled {e : Event} (h : e.polled) (r : Receiver) : (step p r e).configActive = r.configActive := by
  cases e with
  | bluetooth b => exact (bluetooth_session (p := p) r.silent b).1.configActive
  | usb cb => rfl
  | _ => cases h

/-- The events of a pass that come before its setup part. -/
def Pass.polled (pass : Pass) : List Event := pass.poll.map .bluetooth ++ pass.usbTask.map .usb

/-- The setup part and the stale check of a pass. -/
def Pass.checks (pass : Pass) : List Event :=
  [.setupSession pass.cdcConnected pass.commands, .serviceStaleInput pass.nowMs]

theorem Pass.before_checks (pass : Pass) :
    pass.before ++ [.serviceStaleInput pass.nowMs] = pass.polled ++ pass.checks := by
  simp [before, polled, checks]

theorem Pass.events_checks (pass : Pass) :
    pass.events = pass.polled ++ (pass.checks ++ [.serviceUsbKeyboard pass.answer]) := by
  simp [events, before, polled, checks]

theorem Pass.polled_always (pass : Pass) (r : Receiver) :
    Run.Always (step p) (fun _ e => e.polled) r pass.polled := by
  have hall : ∀ e ∈ pass.polled, e.polled := by
    intro e he
    rcases List.mem_append.1 he with he | he
    · obtain ⟨b, -, rfl⟩ := List.mem_map.1 he
      trivial
    · obtain ⟨cb, -, rfl⟩ := List.mem_map.1 he
      trivial
  revert hall
  generalize pass.polled = es
  induction es generalizing r with
  | nil => exact fun _ => trivial
  | cons e es ih => exact fun hall => ⟨hall e (by simp), ih _ fun f hf => hall f (by simp [hf])⟩

/-- The Bluetooth poll and the USB task neither open nor close the session. -/
theorem Pass.polled_session (pass : Pass) (h : Guarded r) :
    Guarded (Run.exec (step p) r pass.polled) ∧
      (Run.exec (step p) r pass.polled).configActive = r.configActive := by
  refine Run.invariant (I := fun t => Guarded t ∧ t.configActive = r.configActive)
    (fun t e ht he => ⟨step_guarded t e ht.1, ?_⟩) (pass.polled_always r) ⟨h, rfl⟩
  rw [step_polled he, ht.2]

theorem Pass.polled_unattended (pass : Pass) (h : Guarded r) (hoff : r.configActive = false) :
    Run.Always (step p) (fun s _ => s.Unattended) r pass.polled := by
  refine Run.always_of_invariant (I := fun t => Guarded t ∧ t.configActive = false)
    (fun t e ht he => ⟨step_guarded t e ht.1, ?_⟩) (fun t e ht _ => ht.1.unattended ht.2)
    (pass.polled_always r) ⟨h, hoff⟩
  rw [step_polled he, ht.2]

/-- A closed receiver has nothing wanted after the setup part and the stale check. -/
theorem exec_closed (pass : Pass) (h : Closed r) : Closed (Run.exec (step p) r pass.checks) := by
  have hkeep : ∀ (s : Receiver) (e : Event), e.reportMs = none → Closed s → Closed (step p s e) := by
    intro s e he hs
    rcases step_other (p := p) s he with ⟨-, hq⟩ | hc
    · exact hs.of_quiet hq
    · exact hc
  exact hkeep _ (.serviceStaleInput pass.nowMs) rfl
    (hkeep _ (.setupSession pass.cdcConnected pass.commands) rfl h)

/-- A setup part that finds the serial port connected leaves nothing wanted after the stale check. -/
theorem exec_connected (pass : Pass) (hon : r.silent.configConnected pass.cdcConnected = true) :
    Closed (Run.exec (step p) r pass.checks) := by
  have hc := (setupSession_active (p := p) pass.commands hon).1
  rcases step_other (p := p) (step p r (.setupSession pass.cdcConnected pass.commands))
    (e := .serviceStaleInput pass.nowMs) rfl with ⟨-, hq⟩ | h
  · exact Closed.of_quiet hc hq
  · exact h

/-- With the session closed and the serial port not connected, the rest of the pass has no session
and no candidate. -/
theorem checks_unattended (pass : Pass) (h : Guarded r) (hoff : r.configActive = false)
    (hcdc : r.silent.configConnected pass.cdcConnected = false) :
    Run.Always (step p) (fun s _ => s.Unattended) r (pass.checks ++ [.serviceUsbKeyboard pass.answer]) := by
  let t := step p r (.setupSession pass.cdcConnected pass.commands)
  have ht : Guarded t ∧ t.configActive = false :=
    ⟨step_guarded _ _ h, congrArg Outside.configActive (setupSession_inactive pass.commands hcdc).1⟩
  have hu : Guarded (step p t (.serviceStaleInput pass.nowMs)) ∧
      (step p t (.serviceStaleInput pass.nowMs)).configActive = false :=
    ⟨step_guarded _ _ ht.1, (serviceStaleInput_session (r := t.silent) pass.nowMs).configActive.trans ht.2⟩
  exact ⟨h.unattended hoff, ht.1.unattended ht.2, hu.1.unattended hu.2, trivial⟩

/-- A pass that ends with a key wanted had no session and no candidate at any of its events. -/
theorem pass_unattended (h : Guarded r) (pass : Pass)
    (hkey : reportHasKey (Run.exec (step p) r (pass.before ++ [.serviceStaleInput pass.nowMs])).usb.desired = true) :
    Run.Always (step p) (fun s _ => s.Unattended) r pass.events := by
  obtain ⟨hs, hsame⟩ := pass.polled_session (p := p) h
  have hnot : ¬ Closed (Run.exec (step p) (Run.exec (step p) r pass.polled) pass.checks) := by
    intro hc
    rw [pass.before_checks, Run.exec_append, hc.desired] at hkey
    cases hkey
  -- the session was closed when the pass began, and does not open in it
  have hoff : r.configActive = false :=
    (Bool.not_eq_true _).mp fun hon => hnot (exec_closed pass (hs.closed (hsame.trans hon)))
  have hcdc := (Bool.not_eq_true _).mp fun hon => hnot (exec_connected pass hon)
  rw [pass.events_checks, Run.always_append]
  exact ⟨pass.polled_unattended h hoff, checks_unattended pass hs (hsame.trans hoff) hcdc⟩

/-! ## The gate -/

theorem step_sends {a : UsbAnswer} {report : KeyboardReport}
    (h : Output.send report ∈ (step p r (.serviceUsbKeyboard a)).outputs) :
    (r.usb.service a).offered = some report := by
  simp only [step, serviceUsbKeyboard] at h
  cases ho : (r.silent.usb.service a).offered with
  | none =>
    rw [ho] at h
    cases h
  | some sent =>
    rw [ho] at h
    have hmem : Output.send report ∈ [Output.send sent] := h
    rw [List.mem_singleton] at hmem
    cases hmem
    exact ho

/-- The motion gate: in every run of passes from the boot, a key handed to USB in a pass had no
session and no candidate at any event of the pass, was driven by the most recently delivered
report with no fault after it, and came after a neutral report consumed since the latest fault. -/
theorem key_gate (p : Platform) (flash : Flash) (reads : Option Flash) (passes : List Pass) (pass : Pass)
    (report : KeyboardReport)
    (hsend : Output.send report ∈ (Run.exec (step p) (boot p flash reads)
      (loop passes ++ pass.before ++
        [.serviceStaleInput pass.nowMs, .serviceUsbKeyboard pass.answer])).outputs)
    (hkey : reportHasKey report = true) :
    Run.Always (step p) (fun s _ => s.Unattended) (Run.exec (step p) (boot p flash reads) (loop passes)) pass.events ∧
      (∃ pre e post, loop passes ++ pass.before ++ [.serviceStaleInput pass.nowMs] = pre ++ e :: post ∧
        Drives report (Run.exec (step p) (boot p flash reads) pre) e ∧
        Run.Always (step p) (fun s f => ¬ Disturbs s f) (Run.exec (step p) (boot p flash reads) (pre ++ [e])) post) ∧
      Run.Since (step p) Fault Neutral (boot p flash reads)
        (loop passes ++ pass.before ++ [.serviceStaleInput pass.nowMs]) := by
  let es := loop passes ++ pass.before ++ [Event.serviceStaleInput pass.nowMs]
  let r := Run.exec (step p) (boot p flash reads) es
  have hall : ∀ (s : Receiver) (fs : List Event), Run.Always (step p) (fun _ _ => True) s fs :=
    Run.always_of_forall fun _ _ => trivial
  have hsent : (r.usb.service pass.answer).offered = some report := by
    rw [show loop passes ++ pass.before ++ [Event.serviceStaleInput pass.nowMs, .serviceUsbKeyboard pass.answer] =
      es ++ [.serviceUsbKeyboard pass.answer] by simp [es], Run.exec_concat] at hsend
    exact step_sends hsend
  obtain ⟨hdesired, -⟩ := UsbLine.service_offered_key hsent hkey
  -- the key is wanted when it is sent, so both latches are up: the wanted report and the open lock
  have harmed : Armed r := Run.invariant_all step_keepsArmed es fun hk => by cases hk
  refine ⟨?_, ?_, ?_⟩
  · refine pass_unattended (Run.invariant_all step_guarded _ (boot_guarded flash reads)) pass ?_
    rw [← Run.exec_append, ← List.append_assoc]
    exact hdesired ▸ hkey
  · refine Run.since_of_latch (fun _ => True) (fun _ _ => True) (fun s => s.usb.desired = report)
      (fun _ _ _ _ => trivial) (fun s e _ _ hl => step_key hkey s e hl) (hall _ _) trivial ?_ hdesired.symm
    intro hboot
    rw [← hboot] at hkey
    cases hkey
  · exact Run.since_of_latch (fun _ => True) (fun _ _ => True) (fun s => s.rearmRequired = false)
      (fun _ _ _ _ => trivial) (fun s e _ _ hl => step_armed s e hl) (hall _ _) trivial
      (fun h => by cases h) (harmed (hdesired ▸ hkey))

/-- A Lite 2 report with one button byte and the left stick's X. -/
def lite2Report (buttons leftX : UInt8) : List UInt8 := [0xA1, 0x01, 0, buttons, 0, leftX, 127, 127, 128, 0, 0]

/-- A connection with a supported descriptor, a neutral report, and a report with the dead-man held
and the stick to the left. -/
def heldLeft : Pass where
  poll :=
    [.connectionOpened kSuccess 1, .descriptorAvailable kSuccess (some (List.replicate 83 0)) none,
      .report (lite2Report 0x00 127) 10, .report (lite2Report 0x01 0) 20]
  nowMs := 30

theorem key_gate_heldLeft :
    let p := Platform.plain []
    let start := Run.exec (step p) (boot p (fun _ => none) none) (loop [{ usbTask := [.mount] }])
    Run.Always (step p) (fun s _ => s.Unattended) start heldLeft.events ∧
      (∃ pre e post, loop [{ usbTask := [.mount] }] ++ heldLeft.before ++ [.serviceStaleInput 30] = pre ++ e :: post ∧
        Drives (keyReport 0 kKeyLeft) (Run.exec (step p) (boot p (fun _ => none) none) pre) e ∧
        Run.Always (step p) (fun s f => ¬ Disturbs s f)
          (Run.exec (step p) (boot p (fun _ => none) none) (pre ++ [e])) post) ∧
      Run.Since (step p) Fault Neutral (boot p (fun _ => none) none)
        (loop [{ usbTask := [.mount] }] ++ heldLeft.before ++ [.serviceStaleInput 30]) :=
  key_gate (Platform.plain []) (fun _ => none) none [{ usbTask := [.mount] }] heldLeft (keyReport 0 kKeyLeft)
    (by decide +kernel) (by decide)

end RedMonkeyMpg.Gamepad.Receiver
