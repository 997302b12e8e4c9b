/-
The control mapper: the state machine that turns control samples into at most one jog axis or one
step selection, and the facts about one update that the rest of the development uses. A jog names
its axis, its direction and everything the update must have seen to emit it; everything else
leaves the frame released.
-/
import RedMonkeyMpg.Core.Types
import Mathlib.Tactic

namespace RedMonkeyMpg

/-! ## The mapper -/

structure MapperConfig where
  deadzone : Int16 := 9000
  staleTimeoutMs : UInt32 := 150
  deriving DecidableEq, Repr

structure ControlMapper where
  config : MapperConfig := {}
  lockedAxis : Option Axis := none
  awaitingCenter : Bool := false
  resolutionButtonWasPressed : Bool := false
  selectionButtonWasPressed : Bool := false
  nextResolution : StepResolution := .mm001
  deriving DecidableEq, Repr

/-- `(now_ms - in.sample_ms) > config_.stale_timeout_ms`, the difference wrapping at 32 bits. -/
def MapperConfig.stale (c : MapperConfig) (input : GamepadState) (nowMs : UInt32) : Bool :=
  nowMs - input.sampleMs > c.staleTimeoutMs

/-- An axis value within the deadzone. -/
def MapperConfig.centered (c : MapperConfig) (value : Int16) : Bool :=
  magnitude value ≤ c.deadzone.toInt

def MapperConfig.allCentered (c : MapperConfig) (input : GamepadState) : Bool :=
  c.centered input.leftX && c.centered input.leftY && c.centered input.rightY

def GamepadState.axisValue (input : GamepadState) : Axis → Int16
  | .x => input.leftX
  | .y => input.leftY
  | .z => input.rightY

/-- The axis a free mapper locks: Z before the larger of X and Y. -/
def MapperConfig.dominantAxis (c : MapperConfig) (input : GamepadState) : Axis :=
  if !c.centered input.rightY then .z
  else if magnitude input.leftX ≥ magnitude input.leftY then .x
  else .y

/-- With a stick off centre, the dominant axis is beyond the deadzone. -/
theorem MapperConfig.dominantAxis_beyond {c : MapperConfig} {input : GamepadState}
    (h : c.allCentered input = false) :
    c.centered (input.axisValue (c.dominantAxis input)) = false := by
  have hoff : ¬ (magnitude input.leftX ≤ c.deadzone.toInt ∧ magnitude input.leftY ≤ c.deadzone.toInt ∧
      magnitude input.rightY ≤ c.deadzone.toInt) := by
    simpa [allCentered, centered, and_assoc] using h
  unfold dominantAxis centered
  rw [decide_eq_false_iff_not]
  split_ifs with hz hxy <;> simp only [GamepadState.axisValue]
  · simpa using hz
  · simp only [Bool.not_eq_true', decide_eq_false_iff_not, not_not] at hz
    omega
  · simp only [Bool.not_eq_true', decide_eq_false_iff_not, not_not] at hz
    omega

/-- The order of the step cycle. -/
def StepResolution.next : StepResolution → StepResolution
  | .mm001 => .mm010
  | .mm010 => .mm050
  | .mm050 => .mm100
  | .mm100 => .mm001

/-- The jog along an axis at its current value. Gamepad Y is positive downward, so Y and Z invert. -/
def GamepadState.jogOn (input : GamepadState) (axis : Axis) : JogCommand where
  axis := axis
  direction :=
    let value := (input.axisValue axis).toInt
    if axis = .x then if value > 0 then .positive else .negative
    else if value < 0 then .positive else .negative
  rate := if input.precision then .precision else if input.rapid then .rapid else .normal

namespace ControlMapper

/-- The branch of a disconnected or stale sample. -/
def reset (m : ControlMapper) : ControlMapper :=
  { m with
    lockedAxis := none
    awaitingCenter := false
    resolutionButtonWasPressed := false
    selectionButtonWasPressed := false }

/-- The button memory, written by every connected and fresh sample before anything else. -/
def rememberButtons (m : ControlMapper) (input : GamepadState) : ControlMapper :=
  { m with
    resolutionButtonWasPressed := input.cycleResolution
    selectionButtonWasPressed := input.selectResolution }

/-- The branch with the dead-man released: at most one step selection, on a rising edge. -/
def updateReleased (m : ControlMapper) (input : GamepadState) : ControlMapper × OutputFrame :=
  -- the centre is no longer awaited from here on, wherever the sticks are
  let free := { m.rememberButtons input with lockedAxis := none, awaitingCenter := false }
  let centered := m.config.allCentered input
  if centered && (input.selectResolution && !m.selectionButtonWasPressed) then
    (free, { releaseAll := false, hasStepResolution := true, stepResolution := input.selectedResolution })
  else if centered && (input.cycleResolution && !m.resolutionButtonWasPressed) then
    ({ free with nextResolution := m.nextResolution.next },
      { releaseAll := false, hasStepResolution := true, stepResolution := m.nextResolution })
  else (free, {})

/-- The motion branch: dead-man held, no cancel, no centre awaited. -/
def updateMotion (m : ControlMapper) (input : GamepadState) : ControlMapper × OutputFrame :=
  let kept := m.rememberButtons input
  if m.lockedAxis = none && m.config.allCentered input then (kept, {})
  else
    -- a locked axis keeps the jog until it falls back, however far another one is
    let axis := m.lockedAxis.getD (m.config.dominantAxis input)
    if m.config.centered (input.axisValue axis) then
      ({ kept with lockedAxis := none, awaitingCenter := true }, {})
    else
      ({ kept with lockedAxis := some axis },
        { releaseAll := false, hasJog := true, jog := input.jogOn axis })

/-- `ControlMapper::update`: the next state and the frame it returns. -/
def update (m : ControlMapper) (input : GamepadState) (nowMs : UInt32) : ControlMapper × OutputFrame :=
  if !input.connected || m.config.stale input nowMs then (m.reset, {})
  else if input.cancel then
    ({ m.rememberButtons input with lockedAxis := none, awaitingCenter := true }, {})
  -- a cancel was taken above, with the dead-man held or not
  else if !input.deadman then m.updateReleased input
  else if m.awaitingCenter then
    ({ m.rememberButtons input with awaitingCenter := !m.config.allCentered input }, {})
  else m.updateMotion input

/-! ## One update, branch by branch -/

section Branches

variable {m : ControlMapper} {input : GamepadState} {nowMs : UInt32}

theorem update_reset (h : input.connected = false ∨ m.config.stale input nowMs = true) :
    m.update input nowMs = (m.reset, {}) := by
  unfold update
  rw [if_pos]
  rcases h with h | h <;> simp [h]

theorem update_live (hc : input.connected = true) (hs : m.config.stale input nowMs = false) :
    m.update input nowMs =
      if input.cancel then
        ({ m.rememberButtons input with lockedAxis := none, awaitingCenter := true }, {})
      else if !input.deadman then m.updateReleased input
      else if m.awaitingCenter then
        ({ m.rememberButtons input with awaitingCenter := !m.config.allCentered input }, {})
      else m.updateMotion input := by
  unfold update
  rw [if_neg]
  simp [hc, hs]

@[simp] theorem reset_config : m.reset.config = m.config := rfl

theorem updateReleased_config : (m.updateReleased input).1.config = m.config := by
  simp only [updateReleased]
  split_ifs <;> rfl

theorem updateMotion_config : (m.updateMotion input).1.config = m.config := by
  simp only [updateMotion]
  split_ifs <;> rfl

/-- The configuration never changes. -/
@[simp] theorem update_config : (m.update input nowMs).1.config = m.config := by
  unfold update
  split_ifs <;> first | rfl | exact updateReleased_config | exact updateMotion_config

/-! ## What a jog says -/

theorem updateReleased_noJog : (m.updateReleased input).2.hasJog = false := by
  simp only [updateReleased]
  split_ifs <;> rfl

/-- A jog needs a connected, fresh sample with the dead-man held, no cancel, and no centre awaited. -/
theorem update_jog (h : (m.update input nowMs).2.hasJog = true) :
    input.connected = true ∧ m.config.stale input nowMs = false ∧ input.cancel = false ∧
      input.deadman = true ∧ m.awaitingCenter = false ∧
      m.update input nowMs = m.updateMotion input := by
  by_cases hr : input.connected = false ∨ m.config.stale input nowMs = true
  · rw [update_reset hr] at h
    cases h
  · simp only [not_or, Bool.not_eq_false, Bool.not_eq_true] at hr
    rw [update_live hr.1 hr.2] at h ⊢
    split_ifs at h ⊢ with hc hd ha
    · rw [updateReleased_noJog] at h
      cases h
    · simp only [Bool.not_eq_true', Bool.not_eq_false, Bool.not_eq_true] at hc hd ha
      exact ⟨hr.1, hr.2, hc, hd, ha, rfl⟩

/-- A cancelled sample releases everything. -/
theorem update_cancel (h : input.cancel = true) : (m.update input nowMs).2 = {} := by
  by_cases hr : input.connected = false ∨ m.config.stale input nowMs = true
  · rw [update_reset hr]
  · simp only [not_or, Bool.not_eq_false, Bool.not_eq_true] at hr
    rw [update_live hr.1 hr.2, if_pos h]

/-- The motion branch jogs the locked axis, or the dominant one when none is locked, and only
beyond the deadzone. -/
theorem updateMotion_jog (h : (m.updateMotion input).2.hasJog = true) :
    ∃ axis, axis = m.lockedAxis.getD (m.config.dominantAxis input) ∧
      m.config.centered (input.axisValue axis) = false ∧
      (m.updateMotion input).2 = { releaseAll := false, hasJog := true, jog := input.jogOn axis } := by
  simp only [updateMotion] at h ⊢
  split_ifs at h ⊢ with hc hb
  exact ⟨_, rfl, by simpa using hb, rfl⟩

/-- The motion branch jogs whenever its axis is beyond the deadzone. -/
theorem updateMotion_beyond (hc : m.config.allCentered input = false)
    (hb : m.config.centered (input.axisValue (m.lockedAxis.getD (m.config.dominantAxis input))) = false) :
    (m.updateMotion input).2.hasJog = true := by
  unfold updateMotion
  simp [hc, hb]

end Branches

end ControlMapper

end RedMonkeyMpg
