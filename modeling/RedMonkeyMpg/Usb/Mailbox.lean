/-
The desired report as a mailbox of one slot, over any system that runs the sender. Each publication
overwrites the one before it, handed over or not. While a key stays in the slot, the ready passes hand
to USB the way from the report sent last towards it, one report a pass: the key alone, all keys up
before another key, and nothing for the key that was sent last.
-/
import RedMonkeyMpg.Gamepad.Selection
import RedMonkeyMpg.Mobile.Selection
import RedMonkeyMpg.Usb.Delivery

namespace RedMonkeyMpg

open UsbLine

namespace LineSystem

variable {σ ε : Type} (g : LineSystem σ ε)

/-! ## What the ready passes hand over -/

/-- The event is a pass that finds the interface ready. -/
def readyPass (s : σ) (e : ε) : ℕ :=
  match g.lineOp e with
  | some (.service a) => if (g.usb s).keyboardReady a then 1 else 0
  | _ => 0

/-- The reports from the one sent last to a key that is wanted. -/
def towards (sent report : KeyboardReport) : List KeyboardReport :=
  if sent = report then []
  else if reportHasKey sent then [.release, report]
  else [report]

/-- No later publish replaces the report: every event leaves it the desired one. -/
def Keeps (report : KeyboardReport) (s : σ) (e : ε) : Prop := (g.usb (g.step s e)).desired = report

instance (report : KeyboardReport) (s : σ) (e : ε) : Decidable (g.Keeps report s e) :=
  inferInstanceAs (Decidable (_ = _))

/-- What becomes of a report while no later publish replaces it: the ready passes hand over the way
towards it; so it is handed over unless it was the one sent last, or too few passes were ready, one, or
two with another key sent last; and it is handed over at most once. -/
structure Handed (s : σ) (report : KeyboardReport) (es : List ε) : Prop where
  reports : Run.collect g.step g.delivers s es =
    (towards (g.usb s).sent report).take (Run.total g.step g.readyPass s es)
  handed : report ∈ Run.collect g.step g.delivers s es ↔
    (g.usb s).sent ≠ report ∧
      (if reportHasKey (g.usb s).sent then 2 else 1) ≤ Run.total g.step g.readyPass s es
  once : (Run.collect g.step g.delivers s es).count report ≤ 1

variable {g} {s : σ} {e : ε} {report : KeyboardReport}

theorem release_ne (hkey : reportHasKey report = true) : KeyboardReport.release ≠ report := by
  rintro rfl
  simp at hkey

/-- A pass that leaves a key desired handed over the first report of the way, if it was ready. -/
theorem service_towards {l : UsbLine} {a : UsbAnswer} (hkey : reportHasKey report = true) (hl : l.desired = report)
    (hkeep : (l.service a).line.desired = report) :
    (if a.taken then (l.service a).offered.toList else []) =
        (towards l.sent report).take (if l.keyboardReady a then 1 else 0) ∧
      towards (l.service a).line.sent report =
        (towards l.sent report).drop (if l.keyboardReady a then 1 else 0) := by
  subst hl
  have hrelease := release_ne hkey
  rcases service_cases l a with ⟨-, hs⟩ | ⟨-, hidle, hs⟩ | ⟨-, hr, hd, ht, hs⟩ | ⟨-, -, -, -, hs⟩
  · rw [hs] at hkeep
    exact absurd hkeep hrelease
  · rw [hs]
    rcases hidle with hno | hsame
    · simp [hno]
    · simp [towards, hsame]
  · rw [hs, if_pos ht, if_pos hr]
    have hway : towards l.sent l.desired = if reportHasKey l.sent then [.release, l.desired] else [l.desired] :=
      if_neg (Ne.symm hd)
    rw [hway]
    cases hsent : reportHasKey l.sent with
    | true =>
      have hnext : l.nextReport = .release := nextReport_release hsent
      have hrest : towards .release l.desired = [l.desired] := by simp [towards, hrelease]
      exact ⟨by simp [hnext], by simp [hnext, hrest]⟩
    | false =>
      have hnext : l.nextReport = l.desired := by simp [nextReport, hsent]
      exact ⟨by simp [hnext], by simp [hnext, towards]⟩
  · rw [hs] at hkeep
    exact absurd hkeep hrelease

/-- An event that leaves a key desired goes a ready pass's part of the way towards it. -/
theorem step_towards (hkey : reportHasKey report = true) (hs : (g.usb s).desired = report) (hkeep : g.Keeps report s e) :
    g.delivers s e = (towards (g.usb s).sent report).take (g.readyPass s e) ∧
      towards (g.usb (g.step s e)).sent report = (towards (g.usb s).sent report).drop (g.readyPass s e) := by
  by_cases hpass : ∃ a, g.lineOp e = some (.service a)
  · obtain ⟨a, hop⟩ := hpass
    have hafter : ((g.usb s).service a).line.desired = report := by
      rw [← usb_service hop]
      exact hkeep
    rw [usb_service hop]
    simp only [delivers, readyPass, hop]
    exact service_towards hkey hs hafter
  · push Not at hpass
    have hnone : g.delivers s e = [] ∧ g.readyPass s e = 0 := by
      unfold delivers readyPass
      cases hop : g.lineOp e with
      | none => exact ⟨rfl, rfl⟩
      | some op =>
        cases op with
        | service a => exact absurd hop (hpass a)
        | _ => exact ⟨rfl, rfl⟩
    rw [hnone.1, hnone.2, sent_other hpass]
    exact ⟨rfl, rfl⟩

theorem collect_towards {es : List ε} (hkey : reportHasKey report = true) (hs : (g.usb s).desired = report)
    (hkeep : Run.Always g.step (g.Keeps report) s es) :
    Run.collect g.step g.delivers s es =
      (towards (g.usb s).sent report).take (Run.total g.step g.readyPass s es) := by
  induction es generalizing s with
  | nil => simp [Run.total]
  | cons e es ih =>
    obtain ⟨htaken, hrest⟩ := step_towards hkey hs hkeep.1
    rw [Run.collect_cons, Run.total_cons, ih hkeep.1 hkeep.2, htaken, hrest, List.take_add]

theorem mem_towards (hkey : reportHasKey report = true) (sent : KeyboardReport) (n : ℕ) :
    report ∈ (towards sent report).take n ↔ sent ≠ report ∧ (if reportHasKey sent then 2 else 1) ≤ n := by
  have hrelease := release_ne hkey
  by_cases hsame : sent = report
  · simp [towards, hsame]
  · cases hsent : reportHasKey sent with
    -- the first ready pass sends the release of the other key
    | true => rcases n with _ | _ | n <;> simp [towards, hsame, hsent, hrelease.symm]
    | false => rcases n with _ | n <;> simp [towards, hsame, hsent]

theorem count_towards (hkey : reportHasKey report = true) (sent : KeyboardReport) (n : ℕ) :
    ((towards sent report).take n).count report ≤ 1 := by
  have hrelease := release_ne hkey
  refine ((List.take_sublist n _).count_le report).trans ?_
  unfold towards
  split_ifs with hsame hsent
  · simp
  · simp [hrelease]
  · simp

/-- A key in the mailbox, from any state, through any events that do not replace it. -/
theorem handed {es : List ε} (hkey : reportHasKey report = true) (hs : (g.usb s).desired = report)
    (hkeep : Run.Always g.step (g.Keeps report) s es) : g.Handed s report es := by
  have hcollect := collect_towards hkey hs hkeep
  refine ⟨hcollect, ?_, ?_⟩
  · rw [hcollect]
    exact mem_towards hkey _ _
  · rw [hcollect]
    exact count_towards hkey _ _

end LineSystem

/-! ## Both receivers -/

/-- A published step key until a later publish replaces it, in every run of either receiver from the boot:
the ready passes hand over the way towards it, so it is handed over exactly when it was not the report sent
last and enough passes were ready, and at most once. -/
theorem step_selection_handed (p : Gamepad.Platform) :
    (∀ (flash : Flash) (reads : Option Flash) (pre mid : List Gamepad.Receiver.Event) (e : Gamepad.Receiver.Event)
      (source : StepSource) (resolution : StepResolution),
      Gamepad.Receiver.PublishesStep p source resolution
          (Run.exec (Gamepad.Receiver.step p) (Gamepad.Receiver.boot p flash reads) pre) e →
      Run.Always (Gamepad.Receiver.step p) ((Gamepad.Receiver.lineSystem p).Keeps (stepReport resolution))
          (Run.exec (Gamepad.Receiver.step p) (Gamepad.Receiver.boot p flash reads) (pre ++ [e])) mid →
      (Gamepad.Receiver.lineSystem p).Handed
        (Run.exec (Gamepad.Receiver.step p) (Gamepad.Receiver.boot p flash reads) (pre ++ [e]))
        (stepReport resolution) mid) ∧
    ∀ (pre mid : List (UInt32 × Mobile.Receiver.Event)) (e : UInt32 × Mobile.Receiver.Event) (resolution : StepResolution),
      Mobile.Receiver.PublishesStep resolution (Run.exec Mobile.Receiver.step {} pre) e →
      Run.Always Mobile.Receiver.step (Mobile.Receiver.lineSystem.Keeps (stepReport resolution))
          (Run.exec Mobile.Receiver.step {} (pre ++ [e])) mid →
      Mobile.Receiver.lineSystem.Handed (Run.exec Mobile.Receiver.step {} (pre ++ [e])) (stepReport resolution) mid := by
  constructor
  · rintro flash reads pre mid e source resolution ⟨_, _, _, rfl, -, -, -, -, -, hdesired⟩ hkeep
    refine LineSystem.handed (stepReport_hasKey resolution) ?_ hkeep
    rw [Run.exec_concat]
    exact hdesired
  · rintro pre mid e resolution ⟨-, hdesired⟩ hkeep
    refine LineSystem.handed (stepReport_hasKey resolution) ?_ hkeep
    rw [Run.exec_concat]
    exact hdesired

namespace Gamepad.Receiver

/-- The report's mapped sample cancels. -/
def Event.cancelled (r : Receiver) : Event → Bool
  | .bluetooth (.report report nowMs) => (r.parseReport report nowMs).any fun raw => (r.mapped raw).cancel
  | _ => false

/-- Neither a fault nor a cancel. -/
def Faultless (r : Receiver) (e : Event) : Prop := ¬ Fault r e ∧ e.cancelled r = false

instance (r : Receiver) (e : Event) : Decidable (Faultless r e) := inferInstanceAs (Decidable (_ ∧ _))

/-- The device is mounted, and the controller connects and is armed. -/
def ready : List Pass :=
  [{ usbTask := [.mount] },
    { poll := [.connectionOpened kSuccess 1, .descriptorAvailable kSuccess (some (List.replicate 83 0)) none,
        .report (faceReport 0) 10] }]

/-- One poll brings A pressed and A released: the pass after it finds the release, and the step is lost. -/
theorem step_selection_overwritten :
    ¬ ∀ (p : Platform) (flash : Flash) (reads : Option Flash) (start pre mid post : List Event) (e f : Event)
        (source : StepSource) (resolution : StepResolution),
      Run.Always (step p) Faultless (Run.exec (step p) (boot p flash reads) start) (pre ++ e :: (mid ++ f :: post)) →
      PublishesStep p source resolution (Run.exec (step p) (boot p flash reads) (start ++ pre)) e →
      (step p (Run.exec (step p) (boot p flash reads) (start ++ pre ++ e :: mid)) f).usb.desired ≠ stepReport resolution →
      stepReport resolution ∈ Run.collect (step p) (lineSystem p).delivers
        (Run.exec (step p) (boot p flash reads) (start ++ pre ++ [e])) mid := by
  intro h
  let raw := (Lite2.parse (faceReport 1) 20).get (by decide +kernel)
  have hlost := h (.plain []) (fun _ => none) none (loop ready) [] []
    [.setupSession false [], .serviceStaleInput 20, .serviceUsbKeyboard {}]
    (.bluetooth (.report (faceReport 1) 20)) (.bluetooth (.report (faceReport 0) 20)) .cycle .mm001
    (by decide +kernel) ⟨faceReport 1, 20, raw, rfl, by decide +kernel⟩ (by decide +kernel)
  simp at hlost

/-- A pass after the press hands the key over. -/
theorem step_selection_handed_pass :
    let p := Platform.plain []
    (lineSystem p).Handed
      (Run.exec (step p) (boot p (fun _ => none) none) (loop ready ++ [.bluetooth (.report (faceReport 1) 20)]))
      (stepReport .mm001) [.setupSession false [], .serviceStaleInput 20, .serviceUsbKeyboard {}] := by
  intro p
  let raw := (Lite2.parse (faceReport 1) 20).get (by decide +kernel)
  exact (step_selection_handed p).1 (fun _ => none) none (loop ready)
    [.setupSession false [], .serviceStaleInput 20, .serviceUsbKeyboard {}] (.bluetooth (.report (faceReport 1) 20))
    .cycle .mm001 ⟨faceReport 1, 20, raw, rfl, by decide +kernel⟩ (by decide +kernel)

end Gamepad.Receiver

end RedMonkeyMpg
