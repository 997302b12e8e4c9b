/-
The step selections of the mapper, exactly. An update selects a step when it is live and neutral and
a button rises in it, the direct selection before the cycle; the cycle moves on with a cycled
selection and with nothing else; and the keyboard report of a selection is that of its step alone.
-/
import RedMonkeyMpg.Core.Justified
import RedMonkeyMpg.Core.Production

namespace RedMonkeyMpg

namespace ControlMapper

/-! ## The two selections -/

/-- The update reaches the selections: a live one without a cancel, the dead-man released and the
sticks centred. -/
def neutral (m : ControlMapper) (u : Update) : Bool :=
  u.1.connected && !m.config.stale u.1 u.2 && !u.1.cancel && !u.1.deadman && m.config.allCentered u.1

/-- The update makes a direct selection. -/
def selects (m : ControlMapper) (u : Update) : Bool :=
  m.neutral u && (u.1.selectResolution && !m.selectionButtonWasPressed)

/-- The update makes the next selection of the cycle. -/
def cycles (m : ControlMapper) (u : Update) : Bool :=
  m.neutral u && !(u.1.selectResolution && !m.selectionButtonWasPressed) &&
    (u.1.cycleResolution && !m.resolutionButtonWasPressed)

/-- The frame of a selection. -/
def selectionFrame (resolution : StepResolution) : OutputFrame where
  releaseAll := false
  hasStepResolution := true
  stepResolution := resolution

section Updates

variable {m : ControlMapper} {u : Update}

theorem update_neutral (h : m.neutral u = true) : m.update u.1 u.2 = m.updateReleased u.1 := by
  simp only [neutral, Bool.and_eq_true, Bool.not_eq_true'] at h
  obtain ⟨⟨⟨⟨hc, hs⟩, hcan⟩, hd⟩, -⟩ := h
  rw [update_live hc hs, if_neg (by simp [hcan]), if_pos (by simp [hd])]

/-- Without a neutral update no step is selected, and the cycle stays. -/
theorem update_notNeutral (h : m.neutral u = false) :
    (m.update u.1 u.2).2.hasStepResolution = false ∧ (step m u).nextResolution = m.nextResolution := by
  unfold step
  by_cases hl : Live m u
  · rw [update_live hl.1 hl.2]
    split_ifs with hcan hd
    · exact ⟨rfl, rfl⟩
    · have hoff : m.config.allCentered u.1 = false := by
        simpa [neutral, hl.1, hl.2, hcan, hd] using h
      simp [updateReleased, hoff, rememberButtons]
    · exact ⟨rfl, rfl⟩
    · refine ⟨updateMotion_noStep m u.1, ?_⟩
      simp only [updateMotion]
      split_ifs <;> rfl
  · have hr : u.1.connected = false ∨ m.config.stale u.1 u.2 = true := by
      by_contra hno
      push Not at hno
      exact hl ⟨by simpa using hno.1, by simpa using hno.2⟩
    rw [update_reset hr]
    exact ⟨rfl, rfl⟩

/-- A direct selection is the sample's own, and leaves the cycle. -/
theorem update_selects (h : m.selects u = true) :
    (m.update u.1 u.2).2 = selectionFrame u.1.selectedResolution ∧
      (step m u).nextResolution = m.nextResolution := by
  obtain ⟨hn, hedge⟩ := Bool.and_eq_true_iff.1 h
  have hcen : m.config.allCentered u.1 = true := (Bool.and_eq_true_iff.1 hn).2
  unfold step
  rw [update_neutral hn]
  unfold updateReleased
  simp only [hcen, hedge, Bool.and_self, if_true]
  exact ⟨rfl, rfl⟩

/-- A cycled selection is the next of the cycle, which moves on. -/
theorem update_cycles (h : m.cycles u = true) :
    (m.update u.1 u.2).2 = selectionFrame m.nextResolution ∧
      (step m u).nextResolution = m.nextResolution.next := by
  simp only [cycles, Bool.and_eq_true, Bool.not_eq_true'] at h
  obtain ⟨⟨hn, hno⟩, hedge⟩ := h
  have hcen : m.config.allCentered u.1 = true := (Bool.and_eq_true_iff.1 hn).2
  unfold step
  rw [update_neutral hn]
  unfold updateReleased
  rw [if_neg (by simp [hno]), if_pos (by simp [hcen, hedge])]
  exact ⟨rfl, rfl⟩

/-- Any other update selects no step, and leaves the cycle. -/
theorem update_noSelection (hs : m.selects u = false) (hc : m.cycles u = false) :
    (m.update u.1 u.2).2.hasStepResolution = false ∧ (step m u).nextResolution = m.nextResolution := by
  cases hn : m.neutral u with
  | false => exact update_notNeutral hn
  | true =>
    have hsel : (u.1.selectResolution && !m.selectionButtonWasPressed) = false := by
      simpa [selects, hn] using hs
    have hcyc : (u.1.cycleResolution && !m.resolutionButtonWasPressed) = false := by
      simpa [cycles, hn, hsel] using hc
    unfold step
    rw [update_neutral hn]
    unfold updateReleased
    rw [if_neg (by simp [hsel]), if_neg (by simp [hcyc])]
    exact ⟨rfl, rfl⟩

/-- The cycle moves on with a cycled selection only. -/
theorem step_nextResolution :
    (step m u).nextResolution = if m.cycles u then m.nextResolution.next else m.nextResolution := by
  cases hc : m.cycles u with
  | true => exact (update_cycles hc).2
  | false =>
    cases hs : m.selects u with
    | true => exact (update_selects hs).2
    | false => exact (update_noSelection hs hc).2

end Updates

end ControlMapper

/-! ## Where a selection comes from -/

/-- The two actions that select a step: the cycle, and a step of its own. -/
inductive StepSource where
  | cycle
  | direct
  deriving DecidableEq, Repr

namespace StepSource

/-- The face buttons' actions of the source. -/
def actions : StepSource → ButtonAction → Bool
  | .cycle, .cycleResolution => true
  | .direct, .step001 | .direct, .step010 | .direct, .step050 | .direct, .step100 => true
  | _, _ => false

/-- The button of the source in a mapped sample. -/
def button (input : GamepadState) : StepSource → Bool
  | .cycle => input.cycleResolution
  | .direct => input.selectResolution

/-- The mapper's memory of the button. -/
def memory (m : ControlMapper) : StepSource → Bool
  | .cycle => m.resolutionButtonWasPressed
  | .direct => m.selectionButtonWasPressed

/-- The update selects a step from the source. -/
def fires (m : ControlMapper) (u : ControlMapper.Update) : StepSource → Bool
  | .cycle => m.cycles u
  | .direct => m.selects u

/-- The step that the source selects. -/
def resolution (m : ControlMapper) (u : ControlMapper.Update) : StepSource → StepResolution
  | .cycle => m.nextResolution
  | .direct => u.1.selectedResolution

variable {source : StepSource} {m : ControlMapper} {u : ControlMapper.Update}

/-- A selection has its button rise. -/
theorem fires_edge (h : source.fires m u = true) : source.button u.1 = true ∧ source.memory m = false := by
  cases source with
  | cycle =>
    simp only [fires, ControlMapper.cycles, Bool.and_eq_true, Bool.not_eq_true'] at h
    exact h.2
  | direct =>
    simp only [fires, ControlMapper.selects, Bool.and_eq_true, Bool.not_eq_true'] at h
    exact h.2

/-- A live update remembers the button as it is. -/
theorem memory_step (h : ControlMapper.Live m u) : source.memory (ControlMapper.step m u) = source.button u.1 := by
  obtain ⟨hdirect, hcycle⟩ := ControlMapper.step_buttons_live h
  cases source with
  | cycle => exact hcycle
  | direct => exact hdirect

/-- The button of a sample that a valid mapping made is one that is pressed and has its action. -/
theorem button_mapped (source : StepSource) {raw : GamepadState} {mapping : ProductionMapping}
    (h : validateProductionMapping mapping = .valid) :
    source.button (applyProductionMapping raw mapping) = mapping.presses source.actions raw.buttons := by
  refine applyProductionMapping_flag (fun input => source.button input) ?_ h ?_
  · intro mapped a
    cases source <;> cases a <;> simp [button, actions, applyAction]
  · intro deadman rapid precision
    cases source <;> rfl

end StepSource

/-! ## The report of a selection -/

/-- The keyboard report of a step selection. -/
def stepReport (resolution : StepResolution) : KeyboardReport := keyReport 0 (stepKey resolution)

theorem stepReport_injective : Function.Injective stepReport := by
  intro a b h
  have hkey : stepKey a = stepKey b := by
    rw [← keyReport_key 0 (stepKey a), ← keyReport_key 0 (stepKey b)]
    exact congrArg KeyboardReport.key h
  revert hkey
  cases a <;> cases b <;> decide

/-- The step that a keyboard report selects, if any. -/
def stepOf (report : KeyboardReport) : Option StepResolution :=
  [StepResolution.mm001, .mm010, .mm050, .mm100].find? (stepReport · == report)

@[simp] theorem stepOf_stepReport (resolution : StepResolution) : stepOf (stepReport resolution) = some resolution := by
  cases resolution <;> decide

@[simp] theorem stepOf_release : stepOf .release = none := by decide

theorem eq_of_stepOf {report : KeyboardReport} {resolution : StepResolution} (h : stepOf report = some resolution) :
    report = stepReport resolution := by
  have hfound := List.find?_some h
  exact (beq_iff_eq.1 hfound).symm

theorem stepReport_hasKey (resolution : StepResolution) : reportHasKey (stepReport resolution) = true := by
  cases resolution <;> decide

/-- Only the frame of a step selection has its report. -/
theorem masso_isStep (frame : OutputFrame) (resolution : StepResolution) :
    massoG3KeyboardReport frame = stepReport resolution ↔
      frame.releaseAll = false ∧ frame.hasStepResolution = true ∧ frame.stepResolution = resolution := by
  have hrelease : KeyboardReport.release ≠ stepReport resolution := by
    intro h
    have hkey := stepReport_hasKey resolution
    rw [← h] at hkey
    simp at hkey
  unfold massoG3KeyboardReport
  split_ifs with h1 h2 h3
  · exact iff_of_false hrelease fun h => by simp [h1] at h
  · have hstep : keyReport 0 (stepKey frame.stepResolution) = stepReport frame.stepResolution := rfl
    rw [hstep, stepReport_injective.eq_iff]
    exact ⟨fun h => ⟨by simpa using h1, h2, h⟩, fun h => h.2.2⟩
  · exact iff_of_false hrelease fun h => h2 h.2.1
  · refine iff_of_false (fun h => ?_) fun h => h2 h.2.1
    have hjog := stepKey_notJog resolution
    rw [show keyReport 0 (stepKey resolution) = stepReport resolution from rfl, ← h] at hjog
    revert hjog
    simp only [KeyboardReport.isJog, keyReport_key]
    cases frame.jog.axis <;> cases frame.jog.direction <;> decide

/-- The report of an update is that of a step exactly when the update selects it. -/
theorem update_isStep (m : ControlMapper) (u : ControlMapper.Update) (resolution : StepResolution) :
    massoG3KeyboardReport (m.update u.1 u.2).2 = stepReport resolution ↔
      (m.selects u = true ∧ u.1.selectedResolution = resolution) ∨
        (m.cycles u = true ∧ m.nextResolution = resolution) := by
  rw [masso_isStep]
  cases hs : m.selects u with
  | true =>
    have hno : m.cycles u = false := by
      obtain ⟨-, hedge⟩ := Bool.and_eq_true_iff.1 hs
      simp [ControlMapper.cycles, hedge]
    rw [(ControlMapper.update_selects hs).1]
    simp [ControlMapper.selectionFrame, hno]
  | false =>
    cases hc : m.cycles u with
    | true =>
      rw [(ControlMapper.update_cycles hc).1]
      simp [ControlMapper.selectionFrame]
    | false => simp [(ControlMapper.update_noSelection hs hc).1]

/-- The report of an update is that of a step exactly when one of the sources selects it. -/
theorem update_isStep_source (m : ControlMapper) (u : ControlMapper.Update) (resolution : StepResolution) :
    massoG3KeyboardReport (m.update u.1 u.2).2 = stepReport resolution ↔
      ∃ source : StepSource, source.fires m u = true ∧ source.resolution m u = resolution := by
  rw [update_isStep]
  constructor
  · rintro (⟨hs, hr⟩ | ⟨hc, hr⟩)
    · exact ⟨.direct, hs, hr⟩
    · exact ⟨.cycle, hc, hr⟩
  · rintro ⟨source, hf, hr⟩
    cases source with
    | cycle => exact .inr ⟨hf, hr⟩
    | direct => exact .inl ⟨hf, hr⟩

end RedMonkeyMpg
