/-
Losses of the USB device. Both receivers sample a mounted flag once a pass, so a suspend or an unmount
whose opposite runs in the same USB task is seen by no pass. A sender that locks on every change it
samples, and unlocks on neutral input only, sends no key after a loss before neutral input, in every
run in which no loss is missed unlocked; a missed one lets it send at once.
-/
import RedMonkeyMpg.Usb.Receivers

namespace RedMonkeyMpg

open UsbLine

/-! ## Guarded senders -/

/-- A system over the USB line with a lock. A fault of the sender locks it, only neutral input
unlocks it, and while it is locked no key is wanted. -/
structure GuardedSender (σ ε : Type) where
  step : σ → ε → σ
  usb : σ → UsbLine
  lineOp : ε → Option UsbLine.Op
  locked : σ → Bool
  neutral : σ → ε → Prop
  line : ∀ s e, Performs (usb s) (usb (step s e)) (lineOp e)
  faultLocks : ∀ s e a, lineOp e = some (.service a) → ((usb s).service a).fault = true →
    locked (step s e) = true
  unlocks : ∀ s e, locked (step s e) = false → neutral s e ∨ locked s = false
  keyUnlocked : ∀ s e, (reportHasKey (usb s).desired = true → locked s = false) →
    reportHasKey (usb (step s e)).desired = true → locked (step s e) = false

namespace GuardedSender

variable {σ ε : Type} (g : GuardedSender σ ε)

/-- The event is an unmount or a suspend. -/
def Loses (e : ε) : Prop :=
  g.lineOp e = some (.callback .umount) ∨ g.lineOp e = some (.callback .suspend)

/-- The event is a pass of the sender. -/
def IsPass (e : ε) : Prop := ∃ a, g.lineOp e = some (.service a)

/-- The event is a pass that hands a key to USB. -/
def SendsKey (s : σ) (e : ε) : Prop :=
  ∃ a, g.lineOp e = some (.service a) ∧ ((g.usb s).service a).offered.any reportHasKey = true

/-- After a loss no key is sent before neutral input. -/
def NeutralAfterLoss (s : σ) (es : List ε) : Prop :=
  ∀ before f between e after, es = before ++ f :: between ++ e :: after → g.Loses f →
    g.SendsKey (Run.exec g.step s (before ++ f :: between)) e →
    ∃ pre n post, between = pre ++ n :: post ∧ g.neutral (Run.exec g.step s (before ++ f :: pre)) n

/-- A pass that finds the device usable, as the pass before it did, with a loss in between and no
neutral input after that, finds the sender locked. -/
def LossesSeen (s : σ) (es : List ε) : Prop :=
  ∀ pre e post, es = pre ++ e :: post → g.IsPass e →
    Run.Since g.step (fun t f => g.IsPass f ∨ g.neutral t f) (fun _ f => g.Loses f) s pre →
    (g.usb (Run.exec g.step s pre)).keyboardMounted = true →
    (g.usb (Run.exec g.step s pre)).wasMounted = true → g.locked (Run.exec g.step s pre) = true

variable {g}

/-- What a pass leaves of its sample: a sender that is locked or has sampled an unusable device,
unless the device was usable at this pass and the one before. -/
theorem pass_closed {s : σ} {e : ε} {a : UsbAnswer} (h : g.lineOp e = some (.service a)) :
    ((g.usb s).keyboardMounted = true ∧ (g.usb s).wasMounted = true) ∨
      g.locked (g.step s e) = true ∨ (g.usb (g.step s e)).wasMounted = false := by
  have hline := g.line s e
  rw [h] at hline
  have husb : g.usb (g.step s e) = ((g.usb s).service a).line := hline
  by_cases hsame : (g.usb s).keyboardMounted = (g.usb s).wasMounted
  · cases hm : (g.usb s).keyboardMounted with
    | true => exact .inl ⟨rfl, by rw [← hsame, hm]⟩
    | false =>
      refine .inr (.inr ?_)
      rw [husb, (service_sampled _ _).1, hm]
  · refine .inr (.inl (g.faultLocks s e a h ?_))
    rw [service_changed hsame]

/-- An event that is not a pass leaves the sample alone. -/
theorem step_wasMounted {s : σ} {e : ε} (h : ¬ g.IsPass e) :
    (g.usb (g.step s e)).wasMounted = (g.usb s).wasMounted := by
  have hline := g.line s e
  cases hop : g.lineOp e with
  | none =>
    rw [hop] at hline
    obtain ⟨report, hpub⟩ := hline
    rw [hpub]
    rfl
  | some op =>
    rw [hop] at hline
    have husb : g.usb (g.step s e) = (g.usb s).step op := hline
    rw [husb]
    cases op with
    | publish report => rfl
    | callback cb => cases cb <;> rfl
    | service a => exact absurd ⟨a, hop⟩ h

/-- An event that is not neutral input keeps the lock. -/
theorem step_locked {s : σ} {e : ε} (hn : ¬ g.neutral s e) (h : g.locked s = true) :
    g.locked (g.step s e) = true := by
  rw [← Bool.not_eq_false]
  intro hopen
  rcases g.unlocks s e hopen with hneutral | hunlocked
  · exact hn hneutral
  · rw [h] at hunlocked
    cases hunlocked

/-- From a loss until neutral input the sender is locked, has not sampled the device as usable, or
the loss is still to be seen by a pass. -/
theorem since_loss {s : σ} {es : List ε} (hseen : g.LossesSeen s es)
    (h : Run.Since g.step g.neutral (fun _ f => g.Loses f) s es) :
    g.locked (Run.exec g.step s es) = true ∨ (g.usb (Run.exec g.step s es)).wasMounted = false ∨
      Run.Since g.step (fun t f => g.IsPass f ∨ g.neutral t f) (fun _ f => g.Loses f) s es := by
  revert hseen
  refine Run.since_induct (motive := fun es => g.LossesSeen s es → g.locked (Run.exec g.step s es) = true ∨
    (g.usb (Run.exec g.step s es)).wasMounted = false ∨
      Run.Since g.step (fun t f => g.IsPass f ∨ g.neutral t f) (fun _ f => g.Loses f) s es) ?_ ?_ h
  · intro es e hloss _
    exact .inr (.inr (Run.since_concat (.inl hloss)))
  · intro es e _ hn ih hseen
    have hseen' : g.LossesSeen s es := fun pre f post hsplit =>
      hseen pre f (post ++ [e]) (by rw [hsplit, List.append_assoc, List.cons_append])
    rw [Run.exec_concat]
    by_cases hpass : g.IsPass e
    · obtain ⟨a, hop⟩ := hpass
      rcases pass_closed (s := Run.exec g.step s es) hop with ⟨hup, hwas⟩ | hlock | hsampled
      · refine .inl (step_locked hn ?_)
        rcases ih hseen' with hlock | hsampled | hmissed
        · exact hlock
        · rw [hwas] at hsampled
          cases hsampled
        · exact hseen es e [] rfl ⟨a, hop⟩ hmissed hup hwas
      · exact .inl hlock
      · exact .inr (.inl hsampled)
    · rcases ih hseen' with hlock | hsampled | hmissed
      · exact .inl (step_locked hn hlock)
      · exact .inr (.inl (by rw [step_wasMounted hpass, hsampled]))
      · exact .inr (.inr (Run.since_concat (.inr ⟨hmissed, by rintro (h' | h') <;> contradiction⟩)))

/-- In every run that misses no loss unlocked, no key is sent after a loss before neutral input. -/
theorem neutralAfterLoss {s : σ} {es : List ε} (hkey : reportHasKey (g.usb s).desired = true → g.locked s = false)
    (hseen : g.LossesSeen s es) : g.NeutralAfterLoss s es := by
  rintro before f between e after rfl hloss ⟨a, hop, hsend⟩
  by_contra hno
  push Not at hno
  have hsince : Run.Since g.step g.neutral (fun _ f => g.Loses f) s (before ++ f :: between) :=
    Run.since_of_not_mem hloss hno
  have hseen' : g.LossesSeen s (before ++ f :: between) := fun pre d post hsplit =>
    hseen pre d (post ++ e :: after) (by rw [hsplit, List.append_assoc, List.cons_append])
  -- the key is offered by a pass that finds the device usable, and wanted by an unlocked sender
  obtain ⟨report, hoffered, hhas⟩ := (Option.any_eq_true _ _).1 hsend
  obtain ⟨rfl, hready, hsame, -⟩ := service_offered_key hoffered hhas
  have hup := keyboardReady_mounted hready
  have hunlocked : g.locked (Run.exec g.step s (before ++ f :: between)) = false :=
    Run.invariant_all (I := fun t => reportHasKey (g.usb t).desired = true → g.locked t = false)
      g.keyUnlocked _ hkey hhas
  have hlocked : g.locked (Run.exec g.step s (before ++ f :: between)) = true := by
    rcases since_loss hseen' hsince with hlock | hsampled | hmissed
    · exact hlock
    · rw [hup, hsampled] at hsame
      cases hsame
    · exact hseen _ e after rfl ⟨a, hop⟩ hmissed hup (hsame.symm.trans hup)
  rw [hunlocked] at hlocked
  cases hlocked

/-! ### Checking a run -/

variable (g) in
/-- The system with a flag for a loss that no pass came after. -/
def pendingStep (w : σ × Bool) (e : ε) : σ × Bool :=
  (g.step w.1 e,
    match g.lineOp e with
    | some (.callback .umount) | some (.callback .suspend) => true
    | some (.service _) => false
    | _ => w.2)

theorem exec_pending (s : σ) (es : List ε) : (Run.exec g.pendingStep (s, false) es).1 = Run.exec g.step s es := by
  induction es using List.reverseRecOn with
  | nil => rfl
  | append_singleton es e ih =>
    rw [Run.exec_concat, Run.exec_concat, ← ih]
    rfl

theorem pending_of_since {s : σ} {es : List ε}
    (h : Run.Since g.step (fun t f => g.IsPass f ∨ g.neutral t f) (fun _ f => g.Loses f) s es) :
    (Run.exec g.pendingStep (s, false) es).2 = true := by
  refine Run.since_induct (motive := fun es => (Run.exec g.pendingStep (s, false) es).2 = true) ?_ ?_ h
  · intro es e hloss
    rw [Run.exec_concat]
    unfold pendingStep
    rcases hloss with hop | hop <;> simp only [hop]
  · intro es e _ hno ih
    rw [Run.exec_concat]
    unfold pendingStep
    have hpass : ¬ g.IsPass e := fun hp => hno (.inl hp)
    dsimp only
    split
    · rfl
    · rfl
    · rename_i a hop
      exact absurd ⟨a, hop⟩ hpass
    · exact ih

/-- The condition on a run, checked step by step. -/
theorem lossesSeen_of_always {s : σ} {es : List ε}
    (h : Run.Always g.pendingStep (fun w _ => w.2 = true → (g.usb w.1).keyboardMounted = true →
      (g.usb w.1).wasMounted = true → g.locked w.1 = true) (s, false) es) : g.LossesSeen s es := by
  intro pre e post hsplit _ hsince
  have hnow := (Run.always_iff_split _ _ _).1 h pre e post hsplit (pending_of_since hsince)
  rw [exec_pending] at hnow
  exact hnow

end GuardedSender

/-! ## The gamepad receiver -/

namespace Gamepad.Receiver

variable {p : Platform}

theorem step_faultLocks (r : Receiver) (e : Event) (a : UsbAnswer) (h : e.lineOp = some (.service a))
    (hf : (r.usb.service a).fault = true) : (step p r e).rearmRequired = true := by
  rw [← Bool.not_eq_false]
  intro hopen
  cases e with
  | serviceUsbKeyboard a' =>
    obtain rfl : a' = a := by
      cases h
      rfl
    rcases step_armed (p := p) r (.serviceUsbKeyboard a') hopen with hn | ⟨-, hno⟩
    · obtain ⟨bytes, nowMs, raw, hne, -⟩ := hn
      cases hne
    · exact hno hf
  | _ => cases h

/-- The gamepad receiver: locked while a re-arm is required, unlocked by a neutral report. -/
def sender (p : Platform) : GuardedSender Receiver Event where
  step := step p
  usb := usb
  lineOp := Event.lineOp
  locked := rearmRequired
  neutral := Neutral
  line := step_line
  faultLocks := step_faultLocks
  unlocks r e h := (step_armed r e h).imp id And.left
  keyUnlocked r e h := step_keepsArmed r e h

end Gamepad.Receiver

/-! ## The iPhone receiver -/

namespace Mobile.Receiver

/-- The event is an accepted frame with the dead-man clear or direction 0. -/
def NeutralFrame (r : Receiver) (e : UInt32 × Event) : Prop :=
  ∃ buffer frame, Accepts r e buffer frame ∧ (flagsByte buffer &&& 0x01 = 0 ∨ directionByte buffer = 0)

theorem step_faultLocks (r : Receiver) (e : UInt32 × Event) (a : UsbAnswer) (h : e.2.lineOp = some (.service a))
    (hf : (r.usb.service a).fault = true) : (r.step e).neutralRequired = true := by
  obtain ⟨nowMs, ev⟩ := e
  cases ev with
  | serviceUsbKeyboard a' =>
    obtain rfl : a' = a := by
      cases h
      rfl
    rcases step_other (r := r) (e := (nowMs, .serviceUsbKeyboard a')) rfl with ⟨hno, -⟩ | ⟨-, hc⟩
    · exact absurd hf hno
    · exact hc.neutralRequired
  | _ => cases h

/-- A wanted key needs an unlocked receiver: of a frame that leaves the lock, only a cancel is driven. -/
theorem step_keyUnlocked (r : Receiver) (e : UInt32 × Event)
    (h : reportHasKey r.usb.desired = true → r.neutralRequired = false)
    (hkey : reportHasKey (r.step e).usb.desired = true) : (r.step e).neutralRequired = false := by
  have hclosed : ¬ Closed r (r.step e) := by
    intro hc
    rw [hc.desired, reportHasKey_release] at hkey
    cases hkey
  cases hb : e.2.commandBuffer with
  | none =>
    rcases step_other hb with ⟨-, hq⟩ | ⟨-, hc⟩
    · rw [hq.neutralRequired]
      exact h (by rw [← hq.desired]; exact hkey)
    · exact absurd hc hclosed
  | some buffer =>
    by_cases hacc : ∃ frame, (r.session.consume buffer e.1).2 = .ok frame
    · obtain ⟨frame, hf⟩ := hacc
      obtain ⟨hn, -, hd⟩ := step_accepted (r := r) ⟨hb, hf⟩
      rcases hd with ⟨-, -, -, hrel, -⟩ | ⟨hopen, hpub, -⟩
      · rw [hrel, reportHasKey_release] at hkey
        cases hkey
      · have hcan : frame.input.cancel = false := by
          rw [← Bool.not_eq_true]
          intro hcan
          rw [hpub, ControlMapper.update_cancel hcan] at hkey
          revert hkey
          decide
        rcases hopen with hopen | hdead | hdir
        · exact hopen
        · rw [hn, hcan, hdead]
          simp
        · rw [hn, hcan, hdir]
          simp
    · exact absurd (step_rejected hb fun frame hf => hacc ⟨frame, hf⟩) hclosed

/-- The iPhone receiver: locked while a neutral frame is required, unlocked by one. -/
def sender : GuardedSender Receiver (UInt32 × Event) where
  step := step
  usb := usb
  lineOp e := e.2.lineOp
  locked := neutralRequired
  neutral := NeutralFrame
  line := step_line
  faultLocks := step_faultLocks
  unlocks r e h := by
    rcases step_unlocked r e h with ⟨buffer, frame, hacc, -, hneutral⟩ | ⟨hopen, -⟩
    · exact .inl ⟨buffer, frame, hacc, hneutral⟩
    · exact .inr hopen
  keyUnlocked := step_keyUnlocked

end Mobile.Receiver

/-! ## Both receivers -/

/-- In every run of either receiver that misses no loss unlocked, no key is sent after a suspend or an
unmount before neutral input. -/
theorem loss_locks (p : Gamepad.Platform) (flash : Flash) (reads : Option Flash)
    (es : List Gamepad.Receiver.Event) (fs : List (UInt32 × Mobile.Receiver.Event))
    (hes : (Gamepad.Receiver.sender p).LossesSeen (Gamepad.Receiver.boot p flash reads) es)
    (hfs : Mobile.Receiver.sender.LossesSeen {} fs) :
    (Gamepad.Receiver.sender p).NeutralAfterLoss (Gamepad.Receiver.boot p flash reads) es ∧
      Mobile.Receiver.sender.NeutralAfterLoss {} fs :=
  ⟨GuardedSender.neutralAfterLoss (fun h => by cases h) hes, GuardedSender.neutralAfterLoss (fun h => by cases h) hfs⟩

/-- The gamepad receiver: a pass of the main loop polls a report held to the left, and its USB task runs
a suspend and a resume. -/
def suspendedHeld : List Gamepad.Receiver.Pass :=
  [{ usbTask := [.mount] },
    { poll :=
        [.connectionOpened 0 1, .descriptorAvailable 0 (some (List.replicate 83 0)) none,
          .report (Gamepad.Receiver.lite2Report 0x00 127) 10] },
    { poll := [.report (Gamepad.Receiver.lite2Report 0x01 0) 20], usbTask := [.suspend, .resume], nowMs := 30 }]

/-- A suspend and a resume in one USB task: the pass that follows sends the wanted key. Both receivers
do it. -/
theorem loss_missed :
    (¬ ∀ (flash : Flash) (reads : Option Flash) (passes : List Gamepad.Receiver.Pass),
      (Gamepad.Receiver.sender (.plain [])).NeutralAfterLoss (Gamepad.Receiver.boot (.plain []) flash reads)
        (Gamepad.Receiver.loop passes)) ∧
    ¬ ∀ fs : List (UInt32 × Mobile.Receiver.Event), Mobile.Receiver.sender.NeutralAfterLoss {} fs := by
  constructor
  · intro h
    obtain ⟨pre, n, post, hsplit, hn⟩ := h (fun _ => none) none suspendedHeld
      (Gamepad.Receiver.loop (suspendedHeld.take 2) ++ [.bluetooth (.report (Gamepad.Receiver.lite2Report 0x01 0) 20)])
      (.usb .suspend) [.usb .resume, .setupSession false [], .serviceStaleInput 30] (.serviceUsbKeyboard {}) []
      rfl (.inr rfl) ⟨{}, rfl, by decide +kernel⟩
    -- none of the events between is a report
    obtain ⟨bytes, nowMs, raw, rfl, -⟩ := hn
    have hmem : Gamepad.Receiver.Event.bluetooth (.report bytes nowMs) ∈
        [Gamepad.Receiver.Event.usb .resume, .setupSession false [], .serviceStaleInput 30] := by
      rw [hsplit]
      simp
    simp at hmem
  · intro h
    obtain ⟨pre, n, post, hsplit, hn⟩ := h
      ((0, .usb .mount) :: (5, .serviceUsbKeyboard {}) :: Mobile.Receiver.heldLeft ++
        [(50, .usb .suspend), (50, .usb .resume), (50, .serviceUsbKeyboard {})])
      ((0, .usb .mount) :: (5, .serviceUsbKeyboard {}) :: Mobile.Receiver.heldLeft) (50, .usb .suspend)
      [(50, .usb .resume)] (50, .serviceUsbKeyboard {}) [] rfl (.inr rfl) ⟨{}, rfl, by decide +kernel⟩
    obtain ⟨buffer, frame, hacc, -⟩ := hn
    have hmem : n ∈ [((50 : UInt32), Mobile.Receiver.Event.usb .resume)] := by
      rw [hsplit]
      simp
    rw [List.mem_singleton] at hmem
    rw [hmem] at hacc
    cases hacc.1

/-- A suspend and a resume that a pass sees each: the key is sent again after a neutral report. -/
theorem loss_locks_seen :
    let es := gamepadHeld ++ [.usb .suspend, .serviceUsbKeyboard {}, .usb .resume, .serviceUsbKeyboard {},
      .bluetooth (.report (Gamepad.Receiver.lite2Report 0x00 127) 30),
      .bluetooth (.report (Gamepad.Receiver.lite2Report 0x01 0) 40), .serviceUsbKeyboard {}]
    (Gamepad.Receiver.sender (.plain [])).NeutralAfterLoss (Gamepad.Receiver.boot (.plain []) (fun _ => none) none) es ∧
      Mobile.Receiver.sender.NeutralAfterLoss {} mobileHeld :=
  loss_locks (.plain []) (fun _ => none) none _ mobileHeld
    (GuardedSender.lossesSeen_of_always (by decide +kernel)) (GuardedSender.lossesSeen_of_always (by decide +kernel))

end RedMonkeyMpg
