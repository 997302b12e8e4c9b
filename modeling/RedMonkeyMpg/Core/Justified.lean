/-
Every frame of the mapper is justified by the sample it is made of. A jog has a connected and fresh
sample with the dead-man held, no cancel, and the jog's axis beyond the deadzone in the jog's
direction; a step selection has the dead-man released, every axis centred and the rising edge of
the button behind it, over the whole history of updates; and a frame releases everything exactly
when it carries neither.
-/
import RedMonkeyMpg.Core.Centre

namespace RedMonkeyMpg.ControlMapper

/-! ## The law -/

/-- The value of an axis in the sense of a direction: Y and Z are inverted. -/
def towards (input : GamepadState) (axis : Axis) (direction : Direction) : Int :=
  let value := (input.axisValue axis).toInt
  if axis = .x ↔ direction = .positive then value else -value

/-- The newest update of a history was connected and fresh, and pressed the button. -/
def PressedLast (m : ControlMapper) (button : GamepadState → Bool) (us : List Update) : Prop :=
  ∃ v, us.getLast? = some v ∧ Live m v ∧ button v.1 = true

/-- The button is pressed now, and was not in the previous update. -/
def Rises (m : ControlMapper) (button : GamepadState → Bool) (us : List Update) (u : Update) : Prop :=
  button u.1 = true ∧ ¬ PressedLast m button us

/-- What justifies a jog. -/
structure JogJustified (m : ControlMapper) (u : Update) (jog : JogCommand) : Prop where
  connected : u.1.connected = true
  fresh : u.2 - u.1.sampleMs ≤ m.config.staleTimeoutMs
  deadman : u.1.deadman = true
  cancel : u.1.cancel = false
  beyond : m.config.deadzone.toInt < towards u.1 jog.axis jog.direction

/-- What justifies a step selection: a direct one, or the next of the cycle. -/
structure StepJustified (m : ControlMapper) (us : List Update) (u : Update) (r : StepResolution) : Prop where
  connected : u.1.connected = true
  fresh : u.2 - u.1.sampleMs ≤ m.config.staleTimeoutMs
  deadman : u.1.deadman = false
  cancel : u.1.cancel = false
  centered : m.config.allCentered u.1 = true
  button : (Rises m (·.selectResolution) us u ∧ r = u.1.selectedResolution) ∨
    (Rises m (·.cycleResolution) us u ∧ r = (Run.exec step m us).nextResolution)

/-- A frame of the update `u` after the updates `us`, and the mapper it was made by. -/
structure Justified (m : ControlMapper) (us : List Update) (u : Update) (frame : OutputFrame) : Prop where
  jog : frame.hasJog = true → JogJustified m u frame.jog
  step : frame.hasStepResolution = true → StepJustified m us u frame.stepResolution
  single : ¬ (frame.hasJog = true ∧ frame.hasStepResolution = true)
  release : frame.releaseAll = true ↔ frame.hasJog = false ∧ frame.hasStepResolution = false
  lock : (Run.exec ControlMapper.step m us).awaitingCenter = true →
    (Run.exec ControlMapper.step m us).lockedAxis = none

/-! ## The button memory -/

theorem updateReleased_buttons (m : ControlMapper) (input : GamepadState) :
    (m.updateReleased input).1.selectionButtonWasPressed = input.selectResolution ∧
      (m.updateReleased input).1.resolutionButtonWasPressed = input.cycleResolution := by
  simp only [updateReleased]
  split_ifs <;> exact ⟨rfl, rfl⟩

theorem updateMotion_buttons (m : ControlMapper) (input : GamepadState) :
    (m.updateMotion input).1.selectionButtonWasPressed = input.selectResolution ∧
      (m.updateMotion input).1.resolutionButtonWasPressed = input.cycleResolution := by
  simp only [updateMotion]
  split_ifs <;> exact ⟨rfl, rfl⟩

theorem step_buttons_live {m : ControlMapper} {u : Update} (h : Live m u) :
    (step m u).selectionButtonWasPressed = u.1.selectResolution ∧
      (step m u).resolutionButtonWasPressed = u.1.cycleResolution := by
  unfold step
  rw [update_live h.1 h.2]
  split_ifs
  · exact ⟨rfl, rfl⟩
  · exact updateReleased_buttons m u.1
  · exact ⟨rfl, rfl⟩
  · exact updateMotion_buttons m u.1

theorem step_buttons_dead {m : ControlMapper} {u : Update} (h : ¬ Live m u) :
    (step m u).selectionButtonWasPressed = false ∧ (step m u).resolutionButtonWasPressed = false := by
  have hr : u.1.connected = false ∨ m.config.stale u.1 u.2 = true := by
    by_contra hno
    push Not at hno
    exact h ⟨by simpa using hno.1, by simpa using hno.2⟩
  unfold step
  rw [update_reset hr]
  exact ⟨rfl, rfl⟩

/-- A flag that a live update sets to its button, and any other update clears, says whether the
newest update pressed the button. -/
theorem memory_iff {m : ControlMapper} (flag : ControlMapper → Bool) (button : GamepadState → Bool)
    (hstart : flag m = false)
    (hlive : ∀ (s : ControlMapper) (u : Update), Live s u → flag (step s u) = button u.1)
    (hdead : ∀ (s : ControlMapper) (u : Update), ¬ Live s u → flag (step s u) = false) (us : List Update) :
    flag (Run.exec step m us) = true ↔ PressedLast m button us := by
  induction us using List.reverseRecOn with
  | nil => simp [PressedLast, hstart]
  | append_singleton us v _ =>
    have hsame : Live (Run.exec step m us) v ↔ Live m v := by
      unfold Live
      rw [exec_config]
    rw [Run.exec_concat]
    unfold PressedLast
    rw [List.getLast?_concat]
    constructor
    · intro hf
      by_cases hl : Live (Run.exec step m us) v
      · exact ⟨v, rfl, hsame.1 hl, hlive _ v hl ▸ hf⟩
      · rw [hdead _ v hl] at hf
        cases hf
    · rintro ⟨w, hw, hl, hb⟩
      obtain rfl : v = w := Option.some.inj hw
      rw [hlive _ v (hsame.2 hl)]
      exact hb

theorem selection_memory (config : MapperConfig) (us : List Update) :
    (Run.exec step { config := config } us).selectionButtonWasPressed = true ↔
      PressedLast { config := config } (·.selectResolution) us :=
  memory_iff selectionButtonWasPressed (·.selectResolution) rfl (fun _ _ h => (step_buttons_live h).1)
    (fun _ _ h => (step_buttons_dead h).1) us

theorem resolution_memory (config : MapperConfig) (us : List Update) :
    (Run.exec step { config := config } us).resolutionButtonWasPressed = true ↔
      PressedLast { config := config } (·.cycleResolution) us :=
  memory_iff resolutionButtonWasPressed (·.cycleResolution) rfl (fun _ _ h => (step_buttons_live h).2)
    (fun _ _ h => (step_buttons_dead h).2) us

/-! ## One update -/

/-- An axis beyond the deadzone is beyond it in the direction of its jog. -/
theorem jogOn_beyond {c : MapperConfig} {input : GamepadState} {axis : Axis}
    (h : c.centered (input.axisValue axis) = false) :
    c.deadzone.toInt < towards input (input.jogOn axis).axis (input.jogOn axis).direction := by
  have hmag : c.deadzone.toInt < ((input.axisValue axis).toInt.natAbs : Int) := by
    simpa [MapperConfig.centered, magnitude] using h
  unfold towards GamepadState.jogOn
  by_cases hx : axis = .x
  · subst hx
    by_cases hpos : (input.axisValue .x).toInt > 0
    · simp only [if_true, if_pos hpos]
      omega
    · simp only [if_true, if_neg hpos, reduceCtorEq, iff_false, not_true_eq_false, if_false]
      omega
  · by_cases hneg : (input.axisValue axis).toInt < 0
    · simp only [hx, if_false, if_pos hneg, iff_true]
      omega
    · simp only [hx, if_false, if_neg hneg, reduceCtorEq, if_true]
      omega

/-- A jog has its justification in the sample. -/
theorem update_jogJustified {m : ControlMapper} {u : Update} (h : (m.update u.1 u.2).2.hasJog = true) :
    JogJustified m u (m.update u.1 u.2).2.jog := by
  obtain ⟨hc, hs, hcan, hd, -, hmot⟩ := update_jog h
  rw [hmot] at h ⊢
  obtain ⟨axis, -, hbey, hout⟩ := updateMotion_jog h
  refine ⟨hc, ?_, hd, hcan, ?_⟩
  · simpa [MapperConfig.stale] using hs
  · rw [hout]
    exact jogOn_beyond hbey

theorem updateMotion_noStep (m : ControlMapper) (input : GamepadState) :
    (m.updateMotion input).2.hasStepResolution = false := by
  simp only [updateMotion]
  split_ifs <;> rfl

/-- A step selection comes from the released branch, on the rising edge of its button. -/
theorem update_step {m : ControlMapper} {u : Update} (h : (m.update u.1 u.2).2.hasStepResolution = true) :
    Live m u ∧ u.1.cancel = false ∧ u.1.deadman = false ∧ m.config.allCentered u.1 = true ∧
      ((u.1.selectResolution = true ∧ m.selectionButtonWasPressed = false ∧
          (m.update u.1 u.2).2.stepResolution = u.1.selectedResolution) ∨
        (u.1.cycleResolution = true ∧ m.resolutionButtonWasPressed = false ∧
          (m.update u.1 u.2).2.stepResolution = m.nextResolution)) := by
  by_cases hl : Live m u
  · rw [update_live hl.1 hl.2] at h ⊢
    split_ifs at h ⊢ with hcan hd ha
    · refine ⟨hl, by simpa using hcan, by simpa using hd, ?_⟩
      simp only [updateReleased] at h ⊢
      split_ifs at h ⊢ with hsel hcyc
      · simp only [Bool.and_eq_true, Bool.not_eq_true'] at hsel
        exact ⟨hsel.1, .inl ⟨hsel.2.1, hsel.2.2, rfl⟩⟩
      · simp only [Bool.and_eq_true, Bool.not_eq_true'] at hcyc
        exact ⟨hcyc.1, .inr ⟨hcyc.2.1, hcyc.2.2, rfl⟩⟩
    · rw [updateMotion_noStep] at h
      cases h
  · have hr : u.1.connected = false ∨ m.config.stale u.1 u.2 = true := by
      by_contra hno
      push Not at hno
      exact hl ⟨by simpa using hno.1, by simpa using hno.2⟩
    rw [update_reset hr] at h
    cases h

/-- A frame carries nothing, a step selection or a jog. -/
theorem update_shape (m : ControlMapper) (u : Update) :
    ¬ ((m.update u.1 u.2).2.hasJog = true ∧ (m.update u.1 u.2).2.hasStepResolution = true) ∧
      ((m.update u.1 u.2).2.releaseAll = true ↔
        (m.update u.1 u.2).2.hasJog = false ∧ (m.update u.1 u.2).2.hasStepResolution = false) := by
  unfold update updateReleased updateMotion
  dsimp only
  split_ifs <;> simp

/-! ## The law over a run -/

/-- Every frame of a mapper constructed with any configuration is justified, after any updates. -/
theorem output_justified (config : MapperConfig) (us : List Update) (u : Update) :
    Justified { config := config } us u ((Run.exec step { config := config } us).update u.1 u.2).2 := by
  have hcfg : (Run.exec step { config := config } us).config = config := exec_config _ us
  obtain ⟨hsingle, hrelease⟩ := update_shape (Run.exec step { config := config } us) u
  refine ⟨fun hj => ?_, fun hs => ?_, hsingle, hrelease, Reachable.exclusive ⟨config, us, rfl⟩⟩
  · obtain ⟨hc, hf, hd, hcan, hb⟩ := update_jogJustified hj
    rw [hcfg] at hf hb
    exact ⟨hc, hf, hd, hcan, hb⟩
  · obtain ⟨hl, hcan, hd, hcen, hbutton⟩ := update_step hs
    have hfresh := hl.2
    rw [hcfg] at hcen hfresh
    refine ⟨hl.1, by simpa [MapperConfig.stale] using hfresh, hd, hcan, hcen, ?_⟩
    rcases hbutton with ⟨hnow, hbefore, hr⟩ | ⟨hnow, hbefore, hr⟩
    · refine .inl ⟨⟨hnow, fun hlast => ?_⟩, hr⟩
      rw [(selection_memory config us).2 hlast] at hbefore
      cases hbefore
    · refine .inr ⟨⟨hnow, fun hlast => ?_⟩, hr⟩
      rw [(resolution_memory config us).2 hlast] at hbefore
      cases hbefore

end RedMonkeyMpg.ControlMapper
