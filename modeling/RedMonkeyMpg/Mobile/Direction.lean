/-
Changes of direction of the iPhone receiver. A jog in another direction needs a frame with direction
0 first, in every run that has neither of two frames while a direction is published: one with the
dead-man clear and a direction, which frees the mapper without being neutral in its direction, and
one that reverses on the locked axis, which the mapper follows at once.
-/
import RedMonkeyMpg.Core.Episode
import RedMonkeyMpg.Mobile.Gate

namespace RedMonkeyMpg.Mobile.Receiver

open ControlMapper (Held held_spec held_awaiting awaiting_noJog Jogs)

/-! ## The law -/

/-- The event is an accepted frame after which this jog report is wanted. -/
def Publishes (report : KeyboardReport) (r : Receiver) (e : UInt32 × Event) : Prop :=
  (∃ buffer frame, Accepts r e buffer frame) ∧ (r.step e).usb.desired = report ∧ report.isJog = true

/-- The event is an accepted frame with direction 0. -/
def ZeroWrite (r : Receiver) (e : UInt32 × Event) : Prop :=
  ∃ buffer frame, Accepts r e buffer frame ∧ directionByte buffer = 0

/-- Between two published jog reports with different keys there is an accepted frame with
direction 0. -/
def NeutralBetween (es : List (UInt32 × Event)) : Prop :=
  ∀ pre e mid f post report report', es = pre ++ e :: mid ++ f :: post →
    Publishes report (Run.exec step {} pre) e → Publishes report' (Run.exec step {} (pre ++ e :: mid)) f →
    report.key ≠ report'.key →
    ∃ before g after, mid = before ++ g :: after ∧ ZeroWrite (Run.exec step {} (pre ++ e :: before)) g

/-! ## The condition -/

/-- The event is an accepted frame with this direction after which a jog report is wanted. -/
def JogsIn (direction : UInt8) (r : Receiver) (e : UInt32 × Event) : Prop :=
  ∃ buffer frame, Accepts r e buffer frame ∧ directionByte buffer = direction ∧
    (r.step e).usb.desired.isJog = true

/-- The axis of a direction. -/
def directionAxis (direction : UInt8) : Axis :=
  if direction = 1 ∨ direction = 2 then .x else if direction = 3 ∨ direction = 4 then .y else .z

/-- An accepted frame with a direction, and without a newly delivered cancel, holds the dead-man,
and on the axis the mapper has locked it does not reverse. -/
def Keeps (direction : UInt8) (r : Receiver) (e : UInt32 × Event) : Prop :=
  ∀ buffer frame, Accepts r e buffer frame → directionByte buffer ≠ 0 → frame.input.cancel = false →
    flagsByte buffer &&& 0x01 ≠ 0 ∧
      (r.mapper.lockedAxis = some (directionAxis (directionByte buffer)) → directionByte buffer = direction)

/-- Every frame of the run keeps the direction of every jog since the last direction 0. -/
def DirectionsKept (es : List (UInt32 × Event)) : Prop :=
  ∀ pre e post direction, es = pre ++ e :: post → Run.Since step ZeroWrite (JogsIn direction) {} pre →
    Keeps direction (Run.exec step {} pre) e

/-! ## One frame -/

section Frames

variable {r : Receiver} {e : UInt32 × Event} {buffer : List UInt8} {frame : MobileFrame} {direction : UInt8}

/-- A direction deflects its axis, and no other one, beyond the deadzone. -/
theorem deflection_beyond (h0 : direction ≠ 0) (h6 : direction ≤ 6) (axis : Axis) :
    MapperConfig.centered {} (deflection direction axis) = false ↔ axis = directionAxis direction := by
  have hall : ∀ n ≤ 6, n ≠ 0 → ∀ axis ∈ [Axis.x, .y, .z],
      (MapperConfig.centered {} (deflection (UInt8.ofNat n) axis) = false ↔
        axis = directionAxis (UInt8.ofNat n)) := by
    decide
  have hn : direction.toNat ≠ 0 := fun h => h0 (UInt8.toNat_inj.1 h)
  have hmem : axis ∈ [Axis.x, .y, .z] := by cases axis <;> decide
  simpa using hall direction.toNat (UInt8.le_iff_toNat_le.1 h6) hn axis hmem

/-- The sample of an accepted frame with a direction. -/
theorem Accepts.deflected (h : Accepts r e buffer frame) (h0 : directionByte buffer ≠ 0) (axis : Axis) :
    MapperConfig.centered {} (frame.input.axisValue axis) = false ↔
      axis = directionAxis (directionByte buffer) := by
  obtain ⟨c, rfl, herr, hs⟩ := h.sampled
  rw [hs.axes]
  exact deflection_beyond h0 (MobileCommand.error_none herr).1 axis

theorem Accepts.off (h : Accepts r e buffer frame) (h0 : directionByte buffer ≠ 0) :
    MapperConfig.allCentered {} frame.input = false := by
  have hbey := (h.deflected h0 (directionAxis (directionByte buffer))).2 rfl
  unfold MapperConfig.allCentered
  revert hbey
  cases directionAxis (directionByte buffer) <;> simp only [GamepadState.axisValue] <;> intro hbey <;>
    simp [hbey]

theorem Accepts.deadman (h : Accepts r e buffer frame) :
    frame.input.deadman = (flagsByte buffer &&& 0x01 != 0) := by
  obtain ⟨c, rfl, -, hs⟩ := h.sampled
  exact hs.deadman

/-- The sample of an accepted frame is fresh at its own time. -/
theorem Accepts.live (h : Accepts r e buffer frame) : ControlMapper.Live r.mapper (frame.input, e.1) := by
  obtain ⟨c, rfl, -, hs⟩ := h.sampled
  refine ⟨hs.connected, ?_⟩
  simp [MapperConfig.stale, hs.sampleMs]

theorem Accepts.held (h : Accepts r e buffer frame) (hflag : flagsByte buffer &&& 0x01 ≠ 0)
    (hcan : frame.input.cancel = false) : Held r.mapper (frame.input, e.1) := by
  refine ⟨h.live, ?_, hcan⟩
  rw [h.deadman]
  simpa using hflag

/-- The MASSO report of an update is a jog report exactly when the update jogs. -/
theorem update_isJog (m : ControlMapper) (u : ControlMapper.Update) :
    (massoG3KeyboardReport (m.update u.1 u.2).2).isJog = true ↔ Jogs m u := by
  obtain ⟨hsingle, hrelease⟩ := ControlMapper.update_shape m u
  refine (masso_isJog _).trans ⟨fun hjog => hjog.2.2, fun hjog => ⟨?_, ?_, hjog⟩⟩
  · rw [← Bool.not_eq_true, hrelease]
    exact fun hno => absurd (hno.1.symm.trans hjog) Bool.false_ne_true
  · rw [← Bool.not_eq_true]
    exact fun hstep => hsingle ⟨hjog, hstep⟩

/-- What the receiver publishes and its mapper does on an accepted frame that is held in a
direction, unlocked. -/
theorem step_driven (h : Accepts r e buffer frame) (hcan : frame.input.cancel = false)
    (hopen : r.neutralRequired = false) :
    (r.step e).mapper = ControlMapper.step r.mapper (frame.input, e.1) ∧
      ((r.step e).usb.desired.isJog = true ↔ Jogs r.mapper (frame.input, e.1)) := by
  obtain ⟨hn, -, hd⟩ := step_accepted h
  rcases hd with ⟨hlock, -⟩ | ⟨-, hdes, hmap⟩
  · rw [hn, hcan, hopen] at hlock
    cases hlock
  · refine ⟨hmap, ?_⟩
    rw [hdes]
    exact update_isJog r.mapper (frame.input, e.1)

/-- The mapper jogs on an accepted frame exactly when that holds the dead-man in a direction without a
cancel, no centre is awaited and no other axis is locked. -/
theorem accepted_jogs_iff (hm : r.mapper.config = {}) (h : Accepts r e buffer frame) :
    Jogs r.mapper (frame.input, e.1) ↔ flagsByte buffer &&& 0x01 ≠ 0 ∧ directionByte buffer ≠ 0 ∧
      frame.input.cancel = false ∧ r.mapper.awaitingCenter = false ∧ (r.mapper.lockedAxis = none ∨
        r.mapper.lockedAxis = some (directionAxis (directionByte buffer))) := by
  constructor
  · intro hj
    obtain ⟨-, -, hcan, hdead, hwait, hmot⟩ := ControlMapper.update_jog hj
    unfold Jogs at hj
    rw [hmot] at hj
    obtain ⟨axis, haxis, hbey, -⟩ := ControlMapper.updateMotion_jog hj
    rw [hm] at hbey
    have h0 : directionByte buffer ≠ 0 := by
      intro h0
      obtain ⟨c, rfl, -, hs⟩ := h.sampled
      rw [directionByte_bytes] at h0
      rw [hs.axes, h0] at hbey
      revert hbey
      cases axis <;> decide
    rw [h.deadman] at hdead
    refine ⟨by simpa using hdead, h0, hcan, hwait, ?_⟩
    rw [h.deflected h0] at hbey
    cases hlock : r.mapper.lockedAxis with
    | none => exact .inl rfl
    | some locked =>
      rw [hlock, Option.getD_some] at haxis
      exact .inr (by rw [← haxis, hbey])
  · rintro ⟨hflag, h0, hcan, hwait, hax⟩
    have hoff : r.mapper.config.allCentered frame.input = false := by rw [hm]; exact h.off h0
    rw [(held_spec (h.held hflag hcan) hwait hoff).jogs]
    rcases hax with hax | hax
    · rw [hax, Option.getD_none]
      exact MapperConfig.dominantAxis_beyond hoff
    · rw [hax, Option.getD_some, hm, h.deflected h0]

/-- A free mapper, or one locked on the axis, follows a held direction at once. -/
theorem driven_jogs (hm : r.mapper.config = {}) (h : Accepts r e buffer frame)
    (h0 : directionByte buffer ≠ 0) (hflag : flagsByte buffer &&& 0x01 ≠ 0)
    (hcan : frame.input.cancel = false) (hopen : r.neutralRequired = false)
    (hwait : r.mapper.awaitingCenter = false)
    (hax : r.mapper.lockedAxis = none ∨ r.mapper.lockedAxis = some (directionAxis (directionByte buffer))) :
    (r.step e).usb.desired.isJog = true := by
  rw [(step_driven h hcan hopen).2]
  exact (accepted_jogs_iff hm h).2 ⟨hflag, h0, hcan, hwait, hax⟩

/-- A frame with the dead-man clear frees the mapper and opens the lock, whatever its direction. -/
theorem release_frees (h : Accepts r e buffer frame) (hflag : flagsByte buffer &&& 0x01 = 0)
    (hcan : frame.input.cancel = false) :
    (r.step e).neutralRequired = false ∧ (r.step e).mapper.lockedAxis = none ∧
      (r.step e).mapper.awaitingCenter = false := by
  have hdead : frame.input.deadman = false := by
    rw [h.deadman, hflag]
    rfl
  obtain ⟨hn, -, hd⟩ := step_accepted h
  have hlive := h.live
  refine ⟨by simp [hn, hcan, hdead], ?_⟩
  rcases hd with ⟨-, hheld, -⟩ | ⟨-, -, hmap⟩
  · rw [hdead] at hheld
    cases hheld
  · rw [hmap, ControlMapper.update_live hlive.1 hlive.2, if_neg (by simp [hcan]), if_pos (by simp [hdead])]
    exact ControlMapper.updateReleased_free _ _

end Frames

/-! ## A jog bars the other directions -/

/-- Nothing but direction 0 lets another direction jog: the receiver is locked, or its mapper awaits
the centre, or has the axis of the direction locked. -/
def Barred (direction : UInt8) (r : Receiver) : Prop :=
  r.neutralRequired = true ∨ r.mapper.awaitingCenter = true ∨
    r.mapper.lockedAxis = some (directionAxis direction)

section Barred

variable {r : Receiver} {e : UInt32 × Event} {buffer : List UInt8} {frame : MobileFrame} {direction : UInt8}

/-- The accepted frame that jogs. -/
theorem Accepts.jogs (hm : r.mapper.config = {}) (h : Accepts r e buffer frame) (hjog : (r.step e).usb.desired.isJog = true) :
    flagsByte buffer &&& 0x01 ≠ 0 ∧ frame.input.cancel = false ∧ r.neutralRequired = false ∧ directionByte buffer ≠ 0 := by
  obtain ⟨buffer', frame', h', hflag, hcan, hlo, -, -, hopen⟩ := jogWrite_of_accepted hm h hjog
  obtain rfl : buffer = buffer' := Option.some.inj (h.1.symm.trans h'.1)
  obtain rfl : frame = frame' := Except.ok.inj (h.2.symm.trans h'.2)
  refine ⟨hflag, hcan, hopen, ?_⟩
  intro h0
  rw [h0] at hlo
  revert hlo
  decide

/-- The frame that jogs bars the others. -/
theorem jogsIn_barred (hm : r.mapper.config = {}) (h : JogsIn direction r e) : Barred direction (r.step e) := by
  obtain ⟨buffer, frame, hacc, rfl, hjog⟩ := h
  obtain ⟨hflag, hcan, hopen, h0⟩ := hacc.jogs hm hjog
  obtain ⟨hmap, hj⟩ := step_driven hacc hcan hopen
  have hjogs := hj.1 hjog
  have hspec := held_spec (hacc.held hflag hcan) (ControlMapper.update_jog hjogs).2.2.2.2.1
    (by rw [hm]; exact hacc.off h0)
  have hbey := hspec.jogs.1 hjogs
  refine .inr (.inr ?_)
  rw [hmap, (hspec.locks hbey).1, Option.some_inj, ← hacc.deflected h0, ← hm]
  exact hbey

/-- A frame with a direction keeps the others barred, and jogs in no other direction. -/
theorem accepted_barred (hm : r.mapper.config = {}) (h : Accepts r e buffer frame)
    (h0 : directionByte buffer ≠ 0) (hk : Keeps direction r e) (hb : Barred direction r) :
    Barred direction (r.step e) ∧ ((r.step e).usb.desired.isJog = true → directionByte buffer = direction) := by
  have hn := (step_accepted h).neutralRequired
  cases hcan : frame.input.cancel with
  | true =>
    refine ⟨.inl (by rw [hn, hcan, Bool.true_or]), fun hjog => ?_⟩
    rw [(h.jogs hm hjog).2.1] at hcan
    cases hcan
  | false =>
    obtain ⟨hflag, hsame⟩ := hk buffer frame h h0 hcan
    cases hlock : r.neutralRequired with
    | true =>
      refine ⟨.inl ?_, fun hjog => ?_⟩
      · have hd : frame.input.deadman = true := by rw [h.deadman]; simpa using hflag
        have hz : (buffer.getD 4 0 == 0) = false := by simpa [directionByte] using h0
        rw [hn, hcan, hlock, hd, hz]
        rfl
      · rw [(h.jogs hm hjog).2.2.1] at hlock
        cases hlock
    | false =>
      obtain ⟨hmap, hj⟩ := step_driven h hcan hlock
      have hheld := h.held hflag hcan
      have hoff : r.mapper.config.allCentered frame.input = false := by rw [hm]; exact h.off h0
      unfold Barred
      rw [hmap]
      cases hwait : r.mapper.awaitingCenter with
      | true =>
        exact ⟨.inr (.inl (held_awaiting hheld hwait hoff)), fun hjog => absurd (hj.1 hjog) (awaiting_noJog hwait)⟩
      | false =>
        obtain hl | hw | hax := hb
        · rw [hl] at hlock
          cases hlock
        · rw [hw] at hwait
          cases hwait
        · have hspec := held_spec hheld hwait hoff
          rw [hax, Option.getD_some] at hspec
          by_cases heq : directionAxis direction = directionAxis (directionByte buffer)
          · have hdir : directionByte buffer = direction := hsame (by rw [hax, heq])
            have hbey : r.mapper.config.centered (frame.input.axisValue (directionAxis direction)) = false := by
              rw [hm, h.deflected h0]
              exact heq
            exact ⟨.inr (.inr (hspec.locks hbey).1), fun _ => hdir⟩
          · have hcen : r.mapper.config.centered (frame.input.axisValue (directionAxis direction)) = true := by
              rw [hm, ← Bool.not_eq_false, h.deflected h0]
              exact heq
            refine ⟨.inr (.inl (hspec.waits hcen)), fun hjog => ?_⟩
            rw [hspec.jogs.1 (hj.1 hjog)] at hcen
            cases hcen

/-- Every other event than an accepted frame keeps the others barred. -/
theorem other_barred (h : ∀ buffer frame, ¬ Accepts r e buffer frame) (hb : Barred direction r) :
    Barred direction (r.step e) := by
  cases hc : e.2.commandBuffer with
  | none =>
    rcases step_other hc with ⟨-, hq⟩ | ⟨-, hclosed⟩
    · unfold Barred
      rw [hq.neutralRequired, hq.mapper]
      exact hb
    · exact .inl hclosed.neutralRequired
  | some buffer => exact .inl (step_rejected hc fun frame hf => h buffer frame ⟨hc, hf⟩).neutralRequired

end Barred

/-! ## Runs -/

theorem exec_mapperConfig (es : List (UInt32 × Event)) : (Run.exec step {} es).mapper.config = {} :=
  Run.invariant_all step_mapperConfig es rfl

/-- After a jog, and before a direction 0, the other directions are barred. -/
theorem since_barred {es : List (UInt32 × Event)} (hkept : DirectionsKept es) {direction : UInt8}
    (h : Run.Since step ZeroWrite (JogsIn direction) {} es) : Barred direction (Run.exec step {} es) := by
  revert hkept
  refine Run.since_induct (motive := fun es => DirectionsKept es → Barred direction (Run.exec step {} es)) ?_ ?_ h
  · intro es e hjog _
    rw [Run.exec_concat]
    exact jogsIn_barred (exec_mapperConfig es) hjog
  · intro es e hsince hnz ih hkept
    have hb := ih fun pre f post d hsplit => hkept pre f (post ++ [e]) d (by simp [hsplit])
    rw [Run.exec_concat]
    by_cases hacc : ∃ buffer frame, Accepts (Run.exec step {} es) e buffer frame
    · obtain ⟨buffer, frame, hacc⟩ := hacc
      have h0 : directionByte buffer ≠ 0 := fun h0 => hnz ⟨buffer, frame, hacc, h0⟩
      exact (accepted_barred (exec_mapperConfig es) hacc h0 (hkept es e [] direction rfl hsince) hb).1
    · exact other_barred (fun buffer frame h' => hacc ⟨buffer, frame, h'⟩) hb

/-- A published jog report has the key of its frame's direction. -/
theorem Publishes.jogsIn {report : KeyboardReport} {r : Receiver} {e : UInt32 × Event}
    (hm : r.mapper.config = {}) (h : Publishes report r e) :
    ∃ direction, JogsIn direction r e ∧ direction ≠ 0 ∧ report.key = directionKey direction := by
  obtain ⟨⟨buffer, frame, hacc⟩, rfl, hjog⟩ := h
  obtain ⟨buffer', frame', h', -, -, hlo, -, hrep, -⟩ := jogWrite_of_accepted hm hacc hjog
  refine ⟨directionByte buffer', ⟨buffer', frame', h', rfl, hjog⟩, ?_, ?_⟩
  · intro h0
    rw [h0] at hlo
    revert hlo
    decide
  · rw [hrep]
    exact keyReport_key _ _

/-- In every run whose frames keep the direction that was published since the last direction 0,
another direction is published only after a direction 0. -/
theorem neutral_between {es : List (UInt32 × Event)} (h : DirectionsKept es) : NeutralBetween es := by
  intro pre e mid f post report report' hes hfirst hsecond hkeys
  by_contra hno
  push Not at hno
  obtain ⟨direction, hjog, -, hkey⟩ := hfirst.jogsIn (exec_mapperConfig pre)
  have hsince : Run.Since step ZeroWrite (JogsIn direction) {} (pre ++ e :: mid) :=
    Run.since_of_not_mem hjog fun before g after hmid => hno before g after hmid
  have hkept : DirectionsKept (pre ++ e :: mid) := fun p g q d hsplit =>
    h p g (q ++ f :: post) d (by rw [hes, hsplit, List.append_assoc, List.cons_append])
  have hb := since_barred hkept hsince
  obtain ⟨direction', ⟨buffer, frame, hacc, rfl, hjog'⟩, h0, hkey'⟩ := hsecond.jogsIn (exec_mapperConfig _)
  have hkeeps := h (pre ++ e :: mid) f post direction hes hsince
  have hsame := (accepted_barred (exec_mapperConfig _) hacc h0 hkeeps hb).2 hjog'
  exact hkeys (by rw [hkey, hkey', hsame])

/-- Left held, then Right held, and no frame between them. -/
theorem neutral_between_reversed : ¬ ∀ es, NeutralBetween es := by
  intro h
  have hpub : ∀ r e buffer, e.2.commandBuffer = some buffer → (r.session.consume buffer e.1).2.isOk = true →
      (r.step e).usb.desired.isJog = true → Publishes (r.step e).usb.desired r e := by
    intro r e buffer hb hok hjog
    refine ⟨?_, rfl, hjog⟩
    cases hc : (r.session.consume buffer e.1).2 with
    | error => simp [hc, Except.isOk, Except.toBool] at hok
    | ok frame => exact ⟨buffer, frame, hb, hc⟩
  let left : UInt32 × Event := frameAt 40 { sequenceLow := 2, direction := 1, flags := 1 }
  let right : UInt32 × Event := frameAt 60 { sequenceLow := 3, direction := 2, flags := 1 }
  obtain ⟨before, g, after, hmid, -⟩ := h (heldLeft ++ [right]) (heldLeft.take 2) left [] right [] _ _ rfl
    (hpub _ left _ rfl (by decide +kernel) (by decide +kernel))
    (hpub _ right _ rfl (by decide +kernel) (by decide +kernel)) (by decide +kernel)
  cases before <;> cases hmid

/-- A frame that finds no axis locked keeps every direction, if it holds the dead-man. -/
theorem keeps_unlocked {r : Receiver} {e : UInt32 × Event} {direction : UInt8}
    (h : ∀ buffer, e.2.commandBuffer = some buffer → directionByte buffer = 0 ∨
      flagsByte buffer &&& 0x01 ≠ 0 ∧ r.mapper.lockedAxis = none) : Keeps direction r e := by
  intro buffer frame hacc h0 _
  rcases h buffer hacc.1 with hz | ⟨hflag, hnone⟩
  · exact absurd hz h0
  · refine ⟨hflag, fun hax => ?_⟩
    rw [hnone] at hax
    cases hax

/-- Left, a frame with direction 0, then Right. -/
theorem neutral_between_lifted :
    NeutralBetween (heldLeft ++ [frameAt 60 { sequenceLow := 3, flags := 1 },
      frameAt 70 { sequenceLow := 4 }, frameAt 80 { sequenceLow := 5, direction := 2, flags := 1 }]) := by
  apply neutral_between
  intro pre e post direction hsplit _
  apply keeps_unlocked
  have hall : Run.Always step (fun (r : Receiver) (e : UInt32 × Event) =>
      (e.2.commandBuffer.all fun buffer => directionByte buffer == 0 ||
        flagsByte buffer &&& 0x01 != 0 && r.mapper.lockedAxis == none) = true) {}
      (heldLeft ++ [frameAt 60 { sequenceLow := 3, flags := 1 },
        frameAt 70 { sequenceLow := 4 }, frameAt 80 { sequenceLow := 5, direction := 2, flags := 1 }]) := by
    decide +kernel
  have hnow := (Run.always_iff_split _ _ _).1 hall pre e post hsplit
  intro buffer hb
  rw [hb] at hnow
  simpa using hnow

end RedMonkeyMpg.Mobile.Receiver
