/-
What the mapper does not see. Two runs of updates whose samples have the same buttons and the same ages,
and whose stick values are those of the other run or their negatives, axis by axis, drive the mapper
through the same states; their frames are the same but for the direction of the jogs on the reversed
axes. So no direction is favoured, no uptime matters, the wrap of the clock included, and nothing of a
sample matters but its three axes and the mapped controls.
-/
import RedMonkeyMpg.Core.Centre
import RedMonkeyMpg.Core.Keyboard

namespace RedMonkeyMpg

def Direction.opposite : Direction → Direction
  | .negative => .positive
  | .positive => .negative

/-- The frame with its jog reversed, if it jogs one of the axes. -/
def OutputFrame.reversed (reverse : Axis → Bool) (frame : OutputFrame) : OutputFrame :=
  if frame.hasJog && reverse frame.jog.axis then
    { frame with jog := { frame.jog with direction := frame.jog.direction.opposite } }
  else frame

namespace ControlMapper

/-- The second update is the first one with some axes reversed: the mapped controls and the age are the same, and
whatever else a sample carries may differ. -/
structure Mirrored (reverse : Axis → Bool) (u v : Update) : Prop where
  axes : ∀ axis, (v.1.axisValue axis).toInt = if reverse axis then - (u.1.axisValue axis).toInt else (u.1.axisValue axis).toInt
  deadman : v.1.deadman = u.1.deadman
  rapid : v.1.rapid = u.1.rapid
  precision : v.1.precision = u.1.precision
  cycleResolution : v.1.cycleResolution = u.1.cycleResolution
  selectResolution : v.1.selectResolution = u.1.selectResolution
  selectedResolution : v.1.selectedResolution = u.1.selectedResolution
  cancel : v.1.cancel = u.1.cancel
  connected : v.1.connected = u.1.connected
  age : v.2 - v.1.sampleMs = u.2 - u.1.sampleMs

/-- The frame that an update returns. -/
def frame (m : ControlMapper) (u : Update) : OutputFrame := (m.update u.1 u.2).2

variable {reverse : Axis → Bool} {u v : Update} {m : ControlMapper}

/-! ## What stays -/

theorem Mirrored.magnitude (h : Mirrored reverse u v) (axis : Axis) :
    magnitude (v.1.axisValue axis) = magnitude (u.1.axisValue axis) := by
  unfold RedMonkeyMpg.magnitude
  rw [h.axes axis]
  split
  · rw [Int.natAbs_neg]
  · rfl

theorem Mirrored.centered (h : Mirrored reverse u v) (c : MapperConfig) (axis : Axis) :
    c.centered (v.1.axisValue axis) = c.centered (u.1.axisValue axis) := by
  unfold MapperConfig.centered
  rw [h.magnitude axis]

theorem Mirrored.allCentered (h : Mirrored reverse u v) (c : MapperConfig) : c.allCentered v.1 = c.allCentered u.1 := by
  have hx := h.centered c .x
  have hy := h.centered c .y
  have hz := h.centered c .z
  simp only [GamepadState.axisValue] at hx hy hz
  simp only [MapperConfig.allCentered, hx, hy, hz]

theorem Mirrored.dominantAxis (h : Mirrored reverse u v) (c : MapperConfig) : c.dominantAxis v.1 = c.dominantAxis u.1 := by
  have hx := h.magnitude .x
  have hy := h.magnitude .y
  have hz := h.centered c .z
  simp only [GamepadState.axisValue] at hx hy hz
  simp only [MapperConfig.dominantAxis, hx, hy, hz]

theorem Mirrored.stale (h : Mirrored reverse u v) (c : MapperConfig) : c.stale v.1 v.2 = c.stale u.1 u.2 := by
  unfold MapperConfig.stale
  rw [h.age]

theorem Mirrored.rememberButtons (h : Mirrored reverse u v) (m : ControlMapper) :
    m.rememberButtons v.1 = m.rememberButtons u.1 := by
  unfold ControlMapper.rememberButtons
  rw [h.cycleResolution, h.selectResolution]

/-! ## What turns over -/

/-- The jog along an axis off its centre is reversed with the axis. -/
theorem Mirrored.jogOn (h : Mirrored reverse u v) {axis : Axis} (hoff : (u.1.axisValue axis).toInt ≠ 0) :
    v.1.jogOn axis =
      if reverse axis then { u.1.jogOn axis with direction := (u.1.jogOn axis).direction.opposite } else u.1.jogOn axis := by
  have haxis := h.axes axis
  unfold GamepadState.jogOn
  rw [haxis, h.precision, h.rapid]
  generalize (u.1.axisValue axis).toInt = value at hoff
  cases hr : reverse axis with
  | false => rfl
  | true =>
    rw [if_pos rfl, if_pos rfl]
    rcases Int.lt_or_gt_of_ne hoff with hneg | hpos
    · have hnot : ¬ 0 < value := by omega
      cases axis <;> simp [hneg, hnot, Direction.opposite]
    · have hnot : ¬ value < 0 := by omega
      cases axis <;> simp [hpos, hnot, Direction.opposite]

theorem reversed_of_noJog {frame : OutputFrame} (h : frame.hasJog = false) : frame.reversed reverse = frame := by
  simp [OutputFrame.reversed, h]

theorem Mirrored.updateReleased (h : Mirrored reverse u v) (m : ControlMapper) :
    m.updateReleased v.1 = m.updateReleased u.1 := by
  unfold ControlMapper.updateReleased
  rw [h.rememberButtons, h.allCentered, h.selectResolution, h.cycleResolution, h.selectedResolution]

/-- The motion branch keeps its state and reverses its jog. -/
theorem Mirrored.updateMotion (h : Mirrored reverse u v) (hzone : 0 ≤ m.config.deadzone.toInt) :
    m.updateMotion v.1 = ((m.updateMotion u.1).1, (m.updateMotion u.1).2.reversed reverse) := by
  unfold ControlMapper.updateMotion
  rw [h.rememberButtons, h.allCentered, h.dominantAxis]
  dsimp only
  split
  · rfl
  · rw [h.centered]
    generalize m.lockedAxis.getD (m.config.dominantAxis u.1) = axis
    split
    · rfl
    · rename_i hbeyond
      have hoff : (u.1.axisValue axis).toInt ≠ 0 := by
        intro hzero
        apply hbeyond
        simp only [MapperConfig.centered, RedMonkeyMpg.magnitude, hzero, decide_eq_true_eq]
        exact hzone
      rw [h.jogOn hoff]
      have haxis : (u.1.jogOn axis).axis = axis := rfl
      cases hr : reverse axis <;> simp [OutputFrame.reversed, haxis, hr]

/-- One update. -/
theorem Mirrored.update (h : Mirrored reverse u v) (hzone : 0 ≤ m.config.deadzone.toInt) :
    step m v = step m u ∧ frame m v = (frame m u).reversed reverse := by
  have hsame : m.update v.1 v.2 = ((m.update u.1 u.2).1, (m.update u.1 u.2).2.reversed reverse) := by
    unfold ControlMapper.update
    rw [h.connected, h.stale, h.cancel, h.deadman, h.rememberButtons, h.allCentered, h.updateReleased]
    split
    · rfl
    · split
      · rfl
      · split
        · rw [reversed_of_noJog updateReleased_noJog]
        · split
          · rfl
          · exact h.updateMotion hzone
  constructor
  · show (m.update v.1 v.2).1 = (m.update u.1 u.2).1
    rw [hsame]
  · show (m.update v.1 v.2).2 = (m.update u.1 u.2).2.reversed reverse
    rw [hsame]

/-! ## Runs -/

/-- Over mirrored runs the mapper goes through the same states, and returns the reversed frames. -/
theorem mirrored_run {us vs : List Update} (h : List.Forall₂ (Mirrored reverse) us vs) (m : ControlMapper)
    (hzone : 0 ≤ m.config.deadzone.toInt) :
    Run.exec step m vs = Run.exec step m us ∧
      Run.collect step (fun m v => [frame m v]) m vs =
        (Run.collect step (fun m u => [frame m u]) m us).map (OutputFrame.reversed reverse) := by
  induction h generalizing m with
  | nil => exact ⟨rfl, rfl⟩
  | @cons u v us vs hmirrored _ ih =>
    obtain ⟨hstep, hframe⟩ := hmirrored.update hzone
    have hzone' : 0 ≤ (step m u).config.deadzone.toInt := by
      rw [step_config]
      exact hzone
    obtain ⟨hexec, hframes⟩ := ih (step m u) hzone'
    rw [Run.exec_cons, Run.exec_cons, Run.collect_cons, Run.collect_cons, hstep, hexec, hframes, hframe]
    exact ⟨rfl, rfl⟩

/-- The stick held to the left, shortly after boot. -/
def leftHeld : Update := ({ connected := true, deadman := true, leftX := -20000, rapid := true, sampleMs := 10 }, 30)

/-- The stick held to the right, over the wrap of the clock. -/
def rightHeld : Update := ({ connected := true, deadman := true, leftX := 20000, rapid := true, sampleMs := 0xFFFFFFF6, hat := 3 }, 10)

theorem rightHeld_mirrored : Mirrored (· = .x) leftHeld rightHeld where
  axes axis := by cases axis <;> decide
  deadman := rfl
  rapid := rfl
  precision := rfl
  cycleResolution := rfl
  selectResolution := rfl
  selectedResolution := rfl
  cancel := rfl
  connected := rfl
  age := by decide

theorem mirrored_run_left :
    Run.collect step (fun m u => [frame m u]) {} [leftHeld] =
        [{ releaseAll := false, hasJog := true, jog := { axis := .x, direction := .negative, rate := .rapid } }] ∧
      Run.exec step {} [rightHeld] = Run.exec step {} [leftHeld] ∧
      Run.collect step (fun m v => [frame m v]) {} [rightHeld] =
        (Run.collect step (fun m u => [frame m u]) {} [leftHeld]).map (OutputFrame.reversed (· = .x)) :=
  ⟨by decide, mirrored_run (.cons rightHeld_mirrored .nil) {} (by decide)⟩

end ControlMapper

end RedMonkeyMpg
