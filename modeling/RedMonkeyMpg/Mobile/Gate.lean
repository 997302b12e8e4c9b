/-
The motion gate of the iPhone receiver, over every run of its events at any times. A wanted jog key
comes from the latest command write, an accepted frame that holds the dead-man in that key's
direction; nothing that is a fault came after it; and a neutral frame came between the latest
fault and it. Two latches carry this: the desired report, which only a write can give a jog key,
and the neutral lock, which only a neutral frame opens.
-/
import RedMonkeyMpg.Lib.Run
import RedMonkeyMpg.Mobile.Steps

namespace RedMonkeyMpg.Mobile.Receiver

/-! ## The key of a frame -/

/-- The direction byte of a frame, and its flags. -/
def directionByte (buffer : List UInt8) : UInt8 := buffer.getD 4 0
def flagsByte (buffer : List UInt8) : UInt8 := buffer.getD 5 0

@[simp] theorem directionByte_bytes (c : MobileCommand) : directionByte c.bytes = c.direction := rfl

@[simp] theorem flagsByte_bytes (c : MobileCommand) : flagsByte c.bytes = c.flags := rfl

/-- The key of a direction: 1 Left, 2 Right, 3 Down, 4 Up, 5 D, 6 U. -/
def directionKey (direction : UInt8) : UInt8 :=
  if direction = 1 then kKeyLeft
  else if direction = 2 then kKeyRight
  else if direction = 3 then kKeyDown
  else if direction = 4 then kKeyUp
  else if direction = 5 then kKeyD
  else kKeyU

/-- The report of a frame that jogs: Left Shift exactly with the continuous flag. -/
def jogReport (buffer : List UInt8) : KeyboardReport :=
  keyReport (if flagsByte buffer &&& 0x02 = 0 then 0 else kLeftShift) (directionKey (directionByte buffer))

/-- A frame of both rates is refused, so a continuous frame is not a precise one. -/
theorem rate_exclusive (flags : UInt8) (h : flags &&& 0x06 ≠ 0x06) (hr : flags &&& 0x02 ≠ 0) :
    flags &&& 0x04 = 0 := by
  have hall : ∀ i : Fin 256, UInt8.ofFin i &&& 0x06 ≠ 0x06 → UInt8.ofFin i &&& 0x02 ≠ 0 →
      UInt8.ofFin i &&& 0x04 = 0 := by
    decide +kernel
  exact hall flags.toFin h hr

/-- An axis that a direction byte deflects beyond the deadzone jogs with that direction's key. -/
theorem deflected_key {input : GamepadState} {direction : UInt8} {axis : Axis}
    (hin : input.axisValue = deflection direction)
    (hb : MapperConfig.centered {} (input.axisValue axis) = false) :
    1 ≤ direction ∧ direction ≤ 6 ∧
      jogKey (input.jogOn axis).axis (input.jogOn axis).direction = directionKey direction := by
  unfold GamepadState.jogOn
  rw [hin] at hb ⊢
  cases axis <;> simp only [deflection] at hb ⊢ <;> split_ifs at hb with h1 h2
  all_goals
    first
      | exact absurd hb (by decide)
      | (subst h1; decide)
      | (subst h2; decide)

/-- The modifier of a sampled command is Left Shift exactly with the continuous flag. -/
theorem sampled_modifier {c : MobileCommand} {nowMs : UInt32} {input : GamepadState}
    (hs : c.Sampled nowMs input) (he : c.error = none) (axis : Axis) :
    jogModifier (input.jogOn axis).rate = if c.flags &&& 0x02 = 0 then 0 else kLeftShift := by
  have hx := rate_exclusive c.flags (MobileCommand.error_none he).2
  simp only [GamepadState.jogOn, hs.rapid, hs.precision]
  by_cases hr : c.flags &&& 0x02 = 0
  · simp only [hr]
    split <;> rfl
  · simp [hr, hx hr, jogModifier]

/-! ## The two kinds of write -/

/-- The event is an accepted frame that publishes this jog report: the dead-man flag set, a
direction, no newly delivered cancel, and the receiver not locked. -/
def JogWrite (report : KeyboardReport) (r : Receiver) (e : UInt32 × Event) : Prop :=
  ∃ buffer frame, Accepts r e buffer frame ∧ flagsByte buffer &&& 0x01 ≠ 0 ∧ frame.input.cancel = false ∧
    1 ≤ directionByte buffer ∧ directionByte buffer ≤ 6 ∧ report = jogReport buffer ∧
    r.neutralRequired = false

/-- The event is an accepted neutral frame without a newly delivered cancel. -/
def NeutralWrite (r : Receiver) (e : UInt32 × Event) : Prop :=
  ∃ buffer frame, Accepts r e buffer frame ∧ frame.input.cancel = false ∧
    (flagsByte buffer &&& 0x01 = 0 ∨ directionByte buffer = 0)

section Writes

variable {r : Receiver} {e : UInt32 × Event} {buffer : List UInt8} {frame : MobileFrame}

/-- An accepted frame is the sample of its buffer. -/
theorem Accepts.sampled (h : Accepts r e buffer frame) :
    ∃ c : MobileCommand, buffer = c.bytes ∧ c.error = none ∧ c.Sampled e.1 frame.input := by
  cases hc : r.session.consume buffer e.1 with
  | mk session result =>
    have hres : result = .ok frame := by
      have := h.2
      rwa [hc] at this
    subst hres
    obtain ⟨c, hb, he, -, hs⟩ := MobileInputSession.consume_ok hc
    exact ⟨c, hb, he, hs⟩

/-- A frame after which a jog key is wanted is a jog write. -/
theorem jogWrite_of_accepted (hm : r.mapper.config = {}) (h : Accepts r e buffer frame)
    (hjog : (r.step e).usb.desired.isJog = true) : JogWrite (r.step e).usb.desired r e := by
  obtain ⟨hn, -, hd⟩ := step_accepted h
  rcases hd with ⟨-, -, -, hrel, -⟩ | ⟨hopen, hpub, -⟩
  · rw [hrel, release_notJog] at hjog
    cases hjog
  · have hrep : (r.step e).usb.desired = massoG3KeyboardReport (r.mapper.update frame.input e.1).2 := hpub
    rw [hrep] at hjog ⊢
    obtain ⟨-, -, hj⟩ := (masso_isJog _).1 hjog
    obtain ⟨-, -, hcan, hdead, -, hmot⟩ := ControlMapper.update_jog hj
    rw [hmot] at hj
    obtain ⟨axis, -, hbey, hout⟩ := ControlMapper.updateMotion_jog hj
    obtain ⟨c, rfl, herr, hs⟩ := h.sampled
    rw [hm] at hbey
    obtain ⟨hlo, hhi, hkey⟩ := deflected_key hs.axes hbey
    refine ⟨_, frame, h, ?_, hcan, hlo, hhi, ?_, ?_⟩
    · have := hs.deadman
      rw [hdead] at this
      simpa using this.symm
    · rw [masso_jog hjog, hmot, hout]
      simp only [sampled_modifier hs herr axis, hkey]
      rfl
    · -- the lock was open before the frame, which itself is neither neutral nor a cancel
      have hdir : ((c.bytes.getD 4 0 : UInt8) == 0) = false := by
        have : c.direction ≠ 0 := by
          rintro h0
          rw [h0] at hlo
          revert hlo
          decide
        simpa [MobileCommand.bytes, MobileCommand.body] using this
      have hlock : (r.step e).neutralRequired = r.neutralRequired := by
        rw [hn, hcan, hdead, hdir]
        simp
      rcases hopen with h' | h' | h'
      · rw [← hlock]
        exact h'
      · rw [hdead] at h'
        cases h'
      · rw [h'] at hdir
        cases hdir

/-- A frame after which the lock is open is a neutral one, or found it open and is no fault. -/
theorem unlocked_of_accepted (h : Accepts r e buffer frame) (hopen : (r.step e).neutralRequired = false) :
    NeutralWrite r e ∨ (r.neutralRequired = false ∧ frame.input.cancel = false) := by
  obtain ⟨hn, -, -⟩ := step_accepted h
  rw [hn] at hopen
  simp only [Bool.or_eq_false_iff, Bool.and_eq_false_iff, Bool.not_eq_false', Bool.or_eq_true] at hopen
  obtain ⟨hcan, hlock | hneutral⟩ := hopen
  · exact .inr ⟨hlock, hcan⟩
  · refine .inl ⟨buffer, frame, h, hcan, ?_⟩
    obtain ⟨c, rfl, -, hs⟩ := h.sampled
    rcases hneutral with hd | hd
    · rw [hs.deadman] at hd
      exact .inl (by simpa using hd)
    · exact .inr (by simpa [directionByte] using hd)

end Writes

/-! ## The latches over a run -/

/-- The mapper keeps its default configuration. -/
theorem step_mapperConfig (r : Receiver) (e : UInt32 × Event) (h : r.mapper.config = {}) :
    (r.step e).mapper.config = {} := by
  cases hb : e.2.commandBuffer with
  | none =>
    rcases step_other hb with ⟨-, hq⟩ | ⟨-, hc⟩
    · rw [hq.mapper, h]
    · rw [hc.mapper, ControlMapper.reset_config, h]
  | some buffer =>
    by_cases hr : ∃ frame, (r.session.consume buffer e.1).2 = .ok frame
    · obtain ⟨frame, hf⟩ := hr
      obtain ⟨-, -, ⟨-, -, -, -, hm⟩ | ⟨-, -, hm⟩⟩ := step_accepted ⟨hb, hf⟩
      · rw [hm, ControlMapper.reset_config, h]
      · rw [hm, ControlMapper.update_config, h]
    · rw [(step_rejected hb fun frame hf => hr ⟨frame, hf⟩).mapper, ControlMapper.reset_config, h]

/-- The event is a command write, or a fault. -/
def Disturbs (r : Receiver) (e : UInt32 × Event) : Prop := e.2.commandBuffer ≠ none ∨ Fault r e

/-- A step after which a jog report is wanted is the write that published it, or kept it and
disturbed nothing. -/
theorem step_jog {report : KeyboardReport} (hjog : report.isJog = true) (r : Receiver) (e : UInt32 × Event)
    (hm : r.mapper.config = {}) (h : (r.step e).usb.desired = report) :
    JogWrite report r e ∨ (r.usb.desired = report ∧ ¬ Disturbs r e) := by
  have hclosed : ¬ Closed r (r.step e) := by
    intro hc
    rw [← h, hc.desired, release_notJog] at hjog
    cases hjog
  cases hb : e.2.commandBuffer with
  | none =>
    rcases step_other hb with ⟨hf, hq⟩ | ⟨-, hc⟩
    · refine .inr ⟨by rw [← hq.desired, h], ?_⟩
      rintro (hd | hd)
      · exact hd hb
      · exact hf hd
    · exact absurd hc hclosed
  | some buffer =>
    by_cases hr : ∃ frame, (r.session.consume buffer e.1).2 = .ok frame
    · obtain ⟨frame, hf⟩ := hr
      subst h
      exact .inl (jogWrite_of_accepted hm ⟨hb, hf⟩ hjog)
    · exact absurd (step_rejected hb fun frame hf => hr ⟨frame, hf⟩) hclosed

/-- A step after which the lock is open is a neutral write, or found it open and is no fault. -/
theorem step_unlocked (r : Receiver) (e : UInt32 × Event) (h : (r.step e).neutralRequired = false) :
    NeutralWrite r e ∨ (r.neutralRequired = false ∧ ¬ Fault r e) := by
  have hclosed : ¬ Closed r (r.step e) := by
    intro hc
    rw [hc.neutralRequired] at h
    cases h
  cases hb : e.2.commandBuffer with
  | none =>
    rcases step_other hb with ⟨hf, hq⟩ | ⟨-, hc⟩
    · exact .inr ⟨by rw [← hq.neutralRequired, h], hf⟩
    · exact absurd hc hclosed
  | some buffer =>
    by_cases hr : ∃ frame, (r.session.consume buffer e.1).2 = .ok frame
    · obtain ⟨frame, hf⟩ := hr
      rcases unlocked_of_accepted ⟨hb, hf⟩ h with hn | ⟨hl, hcan⟩
      · exact .inl hn
      · refine .inr ⟨hl, fun hfault => ?_⟩
        obtain ⟨nowMs, ev⟩ := e
        cases ev with
        | bluetooth b =>
          cases b with
          | write w =>
            obtain ⟨buffer', hb', hall⟩ := hfault
            have hw : w.commandBuffer = some buffer := hb
            rw [hw] at hb'
            cases hb'
            rw [hall frame hf] at hcan
            cases hcan
          | _ => cases hb
        | _ => cases hb
    · exact absurd (step_rejected hb fun frame hf => hr ⟨frame, hf⟩) hclosed

/-- The motion gate: in every run, a wanted jog key was published by the latest command write, a
jog write with that very report, with no fault after it, and a neutral write came after the latest
fault before it. -/
theorem jog_gate (es : List (UInt32 × Event)) (hjog : (Run.exec step {} es).usb.desired.isJog = true) :
    ∃ pre e post, es = pre ++ e :: post ∧
      JogWrite (Run.exec step {} es).usb.desired (Run.exec step {} pre) e ∧
      Run.Always step (fun r f => ¬ Disturbs r f) (Run.exec step {} (pre ++ [e])) post ∧
      Run.Since step Fault NeutralWrite {} pre := by
  have hsince : Run.Since step Disturbs (JogWrite (Run.exec step {} es).usb.desired) {} es := by
    refine Run.since_of_latch (fun r => r.mapper.config = {}) (fun _ _ => True)
      (fun r => r.usb.desired = (Run.exec step {} es).usb.desired)
      (fun r e h _ => step_mapperConfig r e h) (fun r e h _ hl => step_jog hjog r e h hl)
      (Run.always_of_forall (fun _ _ => trivial) _ _) rfl ?_ rfl
    intro hinit
    rw [← hinit] at hjog
    revert hjog
    decide
  obtain ⟨pre, e, post, hes, hw, hpost⟩ := hsince
  refine ⟨pre, e, post, hes, hw, hpost, ?_⟩
  obtain ⟨-, -, -, -, -, -, -, -, hopen⟩ := hw
  exact Run.since_of_latch (fun _ => True) (fun _ _ => True) (fun r => r.neutralRequired = false) (fun _ _ _ _ => trivial)
    (fun r e _ _ hl => step_unlocked r e hl) (Run.always_of_forall (fun _ _ => trivial) _ _) trivial
    (by decide) hopen

/-- A command frame written at a millisecond. -/
def frameAt (nowMs : UInt32) (c : MobileCommand) : UInt32 × Event :=
  (nowMs, .bluetooth (.write { buffer := c.sealed.bytes }))

/-- A connect, a neutral frame, and a frame that holds the dead-man to the left. -/
def heldLeft : List (UInt32 × Event) :=
  [(10, .bluetooth (.connectionComplete 64)), frameAt 20 { sequenceLow := 1 },
    frameAt 40 { sequenceLow := 2, direction := 1, flags := 1 }]

theorem jog_gate_heldLeft :
    ∃ pre e post, heldLeft = pre ++ e :: post ∧
      JogWrite (Run.exec step {} heldLeft).usb.desired (Run.exec step {} pre) e ∧
      Run.Always step (fun r f => ¬ Disturbs r f) (Run.exec step {} (pre ++ [e])) post ∧
      Run.Since step Fault NeutralWrite {} pre :=
  jog_gate heldLeft (by decide +kernel)

end RedMonkeyMpg.Mobile.Receiver
