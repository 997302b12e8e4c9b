/-
The status of the iPhone receiver against what it commands. The displayed direction is that of the
jog key wanted in every state of a run exactly when no pass of the sender meets a fault while a jog
key is wanted: refused frames, stale input and connections clear the direction with the key, and
the fault branches of `service_usb_keyboard` release the key alone.
-/
import RedMonkeyMpg.Mobile.Direction

namespace RedMonkeyMpg.Mobile.Receiver

open ControlMapper (Jogs)

/-! ## The law -/

/-- The displayed direction is that of the jog key wanted, and 0 under the neutral lock. -/
structure Displayed (r : Receiver) : Prop where
  wanted : r.activeDirection ≠ 0 ↔ r.usb.desired.isJog = true
  key : r.activeDirection ≠ 0 → r.usb.desired.key = directionKey r.activeDirection
  locked : r.neutralRequired = true → r.activeDirection = 0

/-- The event is a pass that sees a mount change, or has a due report refused, while a jog key is
wanted. -/
def DropsJog (r : Receiver) (e : UInt32 × Event) : Prop :=
  r.usb.desired.isJog = true ∧
    match e.2 with
    | .serviceUsbKeyboard a =>
      r.usb.keyboardMounted ≠ r.usb.wasMounted ∨
        r.usb.keyboardReady a = true ∧ r.usb.desired ≠ r.usb.sent ∧ a.taken = false
    | _ => False

/-- The status and the desired report in every state of a run. -/
def AlwaysDisplayed (es : List (UInt32 × Event)) : Prop :=
  ∀ pre post, es = pre ++ post → Displayed (Run.exec step {} pre)

/-! ## The direction of a frame -/

section Frames

variable {r : Receiver} {frame : MobileFrame} {direction : UInt8} {nowMs : UInt32}

@[simp] theorem emit_activeDirection (o : Output) : (r.emit o).activeDirection = r.activeDirection := rfl

@[simp] theorem requestStatusNotification_activeDirection :
    r.requestStatusNotification.activeDirection = r.activeDirection := by
  obtain ⟨o, h⟩ := r.requestStatusNotification_eq
  rw [h]

@[simp] theorem publishRelease_activeDirection : r.publishRelease.activeDirection = r.activeDirection := rfl

theorem reject_activeDirection : (r.reject nowMs).activeDirection = 0 := by simp [reject, resetMapper_eq]

theorem failClosed_activeDirection (error : UInt8) : (r.failClosed error nowMs).activeDirection = 0 := by
  simp [failClosed, resetMapper_eq]

/-- A frame that is locked, or locks, shows no direction. -/
theorem armed_activeDirection (h : (r.armed frame direction nowMs).neutralRequired = true) :
    (r.armed frame direction nowMs).activeDirection = 0 := by
  unfold armed cancelEvent selectResolution gateNeutral at h ⊢
  split_ifs at h ⊢ <;> simp_all

/-- An accepted frame shows its direction exactly when it jogs. -/
theorem accept_activeDirection (r : Receiver) (frame : MobileFrame) (direction : UInt8) (nowMs : UInt32) :
    (r.accept frame direction nowMs).activeDirection =
      if (r.accept frame direction nowMs).usb.desired.isJog then direction else 0 := by
  rw [accept_eq]
  rcases drive_cases (r.armed frame direction nowMs) frame direction nowMs with
    ⟨hn, -, -, h⟩ | ⟨-, h⟩
  · have hactive : ((r.armed frame direction nowMs).drive frame direction nowMs).activeDirection = 0 := by
      rw [h]
      exact armed_activeDirection hn
    have hrelease : ((r.armed frame direction nowMs).drive frame direction nowMs).usb.desired = .release := by
      rw [h]
      rfl
    simp [hactive, hrelease, release_notJog]
  · have hjog := update_isJog (r.armed frame direction nowMs).mapper (frame.input, nowMs)
    rw [h]
    simp only [emit_activeDirection, requestStatusNotification_activeDirection, emit_usb,
      requestStatusNotification_usb, UsbLine.publish_desired]
    exact if_congr hjog.symm rfl rfl

end Frames

/-! ## One event -/

variable {r : Receiver} {e : UInt32 × Event} {buffer : List UInt8} {frame : MobileFrame}

theorem step_accepted_activeDirection (h : Accepts r e buffer frame) :
    (r.step e).activeDirection = if (r.step e).usb.desired.isJog then directionByte buffer else 0 := by
  rw [step_commandWrite h.1, commandWrite_ok (r := r.silent) h.2]
  exact accept_activeDirection _ frame (buffer.getD 4 0) e.1

theorem step_rejected_activeDirection (h : e.2.commandBuffer = some buffer)
    (hr : ∀ frame, (r.session.consume buffer e.1).2 ≠ .ok frame) : (r.step e).activeDirection = 0 := by
  rw [step_commandWrite h, commandWrite_error (r := r.silent) hr]
  exact reject_activeDirection

/-- A pass of the sender never writes the direction. -/
theorem serviceUsbKeyboard_activeDirection (r : Receiver) (a : UsbAnswer) (nowMs : UInt32) :
    (r.serviceUsbKeyboard a nowMs).activeDirection = r.activeDirection := by
  obtain ⟨usb, code, required, mapper, outputs, heq⟩ := r.serviceUsbKeyboard_eq a nowMs
  rw [heq]

/-- An event that is neither a command write nor a pass clears the direction when it is a fault, and
leaves it otherwise. -/
theorem step_other_activeDirection (h : e.2.commandBuffer = none) (hp : ∀ a, e.2 ≠ .serviceUsbKeyboard a) :
    (¬ Fault r e ∧ (r.step e).activeDirection = r.activeDirection) ∨
      (Fault r e ∧ (r.step e).activeDirection = 0) := by
  obtain ⟨nowMs, ev⟩ := e
  cases ev with
  | bluetooth b =>
    cases b with
    | write w =>
      have hw : w.commandBuffer = none := h
      obtain ⟨notify, outputs, heq⟩ := writeCallback_other_eq (r := r.silent) hw nowMs
      have hactive : (r.silent.writeCallback w nowMs).activeDirection = r.silent.activeDirection := by rw [heq]
      refine .inl ⟨?_, hactive⟩
      rintro ⟨buffer, hb, -⟩
      rw [hw] at hb
      cases hb
    | connectionComplete handle => exact .inr ⟨trivial, failClosed_activeDirection _⟩
    | disconnectionComplete => exact .inr ⟨trivial, failClosed_activeDirection _⟩
    | canSendNow a =>
      refine .inl ⟨id, ?_⟩
      simp only [step, bluetooth]
      split <;> rfl
  | usb cb => exact .inl ⟨id, rfl⟩
  | serviceUsbKeyboard a => exact absurd rfl (hp a)
  | serviceTimeout =>
    simp only [step, serviceTimeout]
    cases hs : r.silent.staleKey nowMs with
    | true => exact .inr ⟨hs, failClosed_activeDirection _⟩
    | false =>
      refine .inl ⟨fun hfault => ?_, rfl⟩
      exact absurd (show r.silent.staleKey nowMs = true from hfault) (by simp [hs])

/-! ## The display -/

theorem displayed_of_clear (ha : r.activeDirection = 0) (hd : r.usb.desired.isJog = false) : Displayed r where
  wanted := iff_of_false (fun h => h ha) (by simp [hd])
  key h := absurd ha h
  locked _ := ha

theorem Closed.displayed {r' : Receiver} (h : Closed r r') (ha : r'.activeDirection = 0) : Displayed r' :=
  displayed_of_clear ha (by rw [h.desired, release_notJog])

theorem Quiet.displayed {r' : Receiver} (h : Quiet r r') (ha : r'.activeDirection = r.activeDirection)
    (hr : Displayed r) : Displayed r' := by
  refine ⟨?_, ?_, ?_⟩
  · rw [ha, h.desired]
    exact hr.wanted
  · rw [ha, h.desired]
    exact hr.key
  · rw [ha, h.neutralRequired]
    exact hr.locked

/-- Every accepted frame leaves a true display. -/
theorem accepted_displayed (hm : r.mapper.config = {}) (h : Accepts r e buffer frame) : Displayed (r.step e) := by
  have hactive := step_accepted_activeDirection h
  cases hjog : (r.step e).usb.desired.isJog with
  | false => exact displayed_of_clear (by simpa [hjog] using hactive) hjog
  | true =>
    rw [hjog, if_pos rfl] at hactive
    obtain ⟨-, hcan, hopen, h0⟩ := h.jogs hm hjog
    obtain ⟨direction, ⟨buffer', frame', h', rfl, -⟩, -, hkey⟩ :=
      Publishes.jogsIn hm ⟨⟨buffer, frame, h⟩, rfl, hjog⟩
    obtain rfl : buffer = buffer' := Option.some.inj (h.1.symm.trans h'.1)
    refine ⟨?_, fun _ => ?_, fun hlock => ?_⟩
    · rw [hactive]
      exact iff_of_true h0 hjog
    · rw [hactive, hkey]
    · rw [(step_accepted h).neutralRequired, hcan, hopen] at hlock
      cases hlock

theorem DropsJog.pass (h : DropsJog r e) : ∃ a, e.2 = .serviceUsbKeyboard a := by
  obtain ⟨nowMs, ev⟩ := e
  cases ev with
  | serviceUsbKeyboard a => exact ⟨a, rfl⟩
  | _ => exact h.2.elim

/-- A pass keeps a true display unless it drops the jog: then the key is released and the direction
stays. -/
theorem pass_displayed_iff {a : UsbAnswer} {nowMs : UInt32} (hr : Displayed r) :
    Displayed (r.step (nowMs, .serviceUsbKeyboard a)) ↔ ¬ DropsJog r (nowMs, .serviceUsbKeyboard a) := by
  have hactive : (r.step (nowMs, .serviceUsbKeyboard a)).activeDirection = r.activeDirection :=
    r.silent.serviceUsbKeyboard_activeDirection a nowMs
  have hdrops : DropsJog r (nowMs, .serviceUsbKeyboard a) ↔
      r.usb.desired.isJog = true ∧ Fault r (nowMs, .serviceUsbKeyboard a) :=
    and_congr_right fun _ => (UsbLine.service_fault_iff r.usb a).symm
  rw [hdrops]
  rcases step_other (r := r) (e := (nowMs, .serviceUsbKeyboard a)) rfl with ⟨hf, hq⟩ | ⟨hf, hc⟩
  · exact iff_of_true (hq.displayed hactive hr) fun h => hf h.2
  · constructor
    · rintro hd ⟨hjog, -⟩
      have hkept := hd.wanted.1 (by
        rw [hactive]
        exact hr.wanted.2 hjog)
      rw [hc.desired, release_notJog] at hkept
      cases hkept
    · intro hno
      refine hc.displayed ?_
      rw [hactive]
      by_contra hne
      exact hno ⟨hr.wanted.1 hne, hf⟩

/-- A true display stays true unless a pass drops the jog. -/
theorem step_displayed_iff (hm : r.mapper.config = {}) (hr : Displayed r) :
    Displayed (r.step e) ↔ ¬ DropsJog r e := by
  by_cases hpass : ∃ a, e.2 = .serviceUsbKeyboard a
  · obtain ⟨nowMs, ev⟩ := e
    obtain ⟨a, rfl⟩ := hpass
    exact pass_displayed_iff hr
  · refine iff_of_true ?_ fun h => hpass h.pass
    push Not at hpass
    cases hb : e.2.commandBuffer with
    | some buffer =>
      by_cases hacc : ∃ frame, (r.session.consume buffer e.1).2 = .ok frame
      · obtain ⟨frame, hf⟩ := hacc
        exact accepted_displayed hm ⟨hb, hf⟩
      · push Not at hacc
        exact (step_rejected hb hacc).displayed (step_rejected_activeDirection hb hacc)
    | none =>
      rcases step_other (r := r) hb with ⟨hf, hq⟩ | ⟨hf, hc⟩ <;>
        rcases step_other_activeDirection (r := r) hb hpass with ⟨hf', hactive⟩ | ⟨hf', hactive⟩
      · exact hq.displayed hactive hr
      · exact absurd hf' hf
      · exact absurd hf hf'
      · exact hc.displayed hactive

/-- Over every run from boot: the status shows the direction of the wanted jog key in every state,
exactly when no pass drops a jog. -/
theorem always_displayed_iff (es : List (UInt32 × Event)) :
    AlwaysDisplayed es ↔ Run.Always step (fun r e => ¬ DropsJog r e) {} es :=
  Run.invariant_iff (J := fun r => r.mapper.config = {}) (fun _ _ => step_mapperConfig _ _)
    (fun _ _ => step_displayed_iff) rfl (displayed_of_clear rfl release_notJog)

/-- Left held and its key sent, and the host unmounts the keyboard: the pass that sees it locks and
releases the key, and the status still shows direction 1. -/
theorem displayed_after_unmount : ¬ ∀ es, AlwaysDisplayed es := by
  intro h
  have hlast := (h ((0, .usb .mount) :: (5, .serviceUsbKeyboard {}) :: heldLeft ++
    [(50, .serviceUsbKeyboard {}), (60, .usb .umount), (65, .serviceUsbKeyboard {})]) _ [] (List.append_nil _).symm).wanted
  revert hlast
  decide +kernel

end RedMonkeyMpg.Mobile.Receiver
