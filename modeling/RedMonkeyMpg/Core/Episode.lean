/-
One deflection of the sticks, from the first axis beyond the deadzone to the next time all are
centred, with the dead-man held throughout. The axis that is dominant at the start jogs for as long
as it has stayed beyond the deadzone; once it falls back nothing jogs before the sticks are centred,
and no other axis ever does.
-/
import RedMonkeyMpg.Core.Justified

namespace RedMonkeyMpg.ControlMapper

/-! ## Episodes -/

/-- A run of held updates from a mapper that is free: centred ones, then the first deflection `u`,
then `mid` with some axis always deflected. -/
structure Episode (m : ControlMapper) (idle : List Update) (u : Update) (mid : List Update) : Prop where
  free : m.lockedAxis = none
  rested : m.awaitingCenter = false
  held : Run.Always step Held m (idle ++ u :: mid)
  idle : ∀ w ∈ idle, m.config.allCentered w.1 = true
  off : ∀ w ∈ u :: mid, m.config.allCentered w.1 = false

/-- The axis has been beyond the deadzone in every one of the updates. -/
def Beyond (c : MapperConfig) (axis : Axis) (us : List Update) : Prop :=
  ∀ w ∈ us, c.centered (w.1.axisValue axis) = false

/-! ## One held update -/

/-- What one held update does, with an axis deflected and no centre awaited, to the axis the mapper
is on: the locked one, or else the dominant one. -/
structure HeldSpec (m : ControlMapper) (u : Update) (axis : Axis) : Prop where
  jogs : Jogs m u ↔ m.config.centered (u.1.axisValue axis) = false
  jog : Jogs m u → (m.update u.1 u.2).2.jog = u.1.jogOn axis
  locks : m.config.centered (u.1.axisValue axis) = false →
    (step m u).lockedAxis = some axis ∧ (step m u).awaitingCenter = false
  waits : m.config.centered (u.1.axisValue axis) = true → (step m u).awaitingCenter = true

theorem held_update {m : ControlMapper} {u : Update} (h : Held m u) (ha : m.awaitingCenter = false) :
    m.update u.1 u.2 = m.updateMotion u.1 := by
  rw [step_held h, if_neg (by simp [ha])]

theorem held_spec {m : ControlMapper} {u : Update} (h : Held m u) (ha : m.awaitingCenter = false)
    (hoff : m.config.allCentered u.1 = false) :
    HeldSpec m u (m.lockedAxis.getD (m.config.dominantAxis u.1)) := by
  have hup : m.update u.1 u.2 = m.updateMotion u.1 := held_update h ha
  by_cases hcen : m.config.centered (u.1.axisValue (m.lockedAxis.getD (m.config.dominantAxis u.1))) = true
  · have hmot : m.updateMotion u.1 =
        ({ m.rememberButtons u.1 with lockedAxis := none, awaitingCenter := true }, {}) := by
      simp only [updateMotion]
      rw [if_neg (by simp [hoff]), if_pos hcen]
    constructor
    · simp [Jogs, hup, hmot, hcen]
    · simp [Jogs, hup, hmot]
    · simp [hcen]
    · simp [step, hup, hmot]
  · rw [Bool.not_eq_true] at hcen
    have hmot : m.updateMotion u.1 =
        ({ m.rememberButtons u.1 with lockedAxis := some (m.lockedAxis.getD (m.config.dominantAxis u.1)) },
          { releaseAll := false, hasJog := true,
            jog := u.1.jogOn (m.lockedAxis.getD (m.config.dominantAxis u.1)) }) := by
      simp only [updateMotion]
      rw [if_neg (by simp [hoff]), if_neg (by simp [hcen])]
    constructor
    · simp [Jogs, hup, hmot, hcen]
    · simp [hup, hmot]
    · intro _
      simp only [step, hup, hmot, rememberButtons]
      exact ⟨trivial, ha⟩
    · simp [hcen]

/-- A held update with every axis centred leaves a free mapper free. -/
theorem held_idle {m : ControlMapper} {u : Update} (h : Held m u) (ha : m.awaitingCenter = false)
    (hfree : m.lockedAxis = none) (hcen : m.config.allCentered u.1 = true) :
    (step m u).lockedAxis = none ∧ (step m u).awaitingCenter = false := by
  simp only [step, held_update h ha, updateMotion]
  rw [if_pos (by simp [hfree, hcen])]
  exact ⟨hfree, ha⟩

/-- A held update with an axis deflected does not discharge an awaited centre. -/
theorem held_awaiting {m : ControlMapper} {u : Update} (h : Held m u) (ha : m.awaitingCenter = true)
    (hoff : m.config.allCentered u.1 = false) : (step m u).awaitingCenter = true :=
  awaiting_kept h.1 ha (fun _ => .inl h.2.1) hoff

/-! ## The episode -/

/-- The mapper on its way through the deflection, after the updates `seen` of it. Free at the first
one; locked on the axis while that has stayed beyond the deadzone; awaiting the centre after that. -/
structure Tracked (c : MapperConfig) (axis : Axis) (seen : List Update) (m : ControlMapper) : Prop where
  config : m.config = c
  locked : Beyond c axis seen →
    m.awaitingCenter = false ∧ m.lockedAxis = if seen = [] then none else some axis
  waiting : ¬ Beyond c axis seen → m.awaitingCenter = true

theorem beyond_concat (c : MapperConfig) (axis : Axis) (us : List Update) (v : Update) :
    Beyond c axis (us ++ [v]) ↔ Beyond c axis us ∧ c.centered (v.1.axisValue axis) = false := by
  unfold Beyond
  constructor
  · intro h
    exact ⟨fun w hw => h w (by simp [hw]), h v (by simp)⟩
  · rintro ⟨hus, hv⟩ w hw
    rcases List.mem_append.1 hw with hw | hw
    · exact hus w hw
    · rw [List.mem_singleton.1 hw]
      exact hv

/-- The axis a tracked mapper is on at the next update of the deflection. -/
theorem Tracked.on {c : MapperConfig} {axis : Axis} {seen : List Update} {m : ControlMapper} {v : Update}
    (h : Tracked c axis seen m) (hb : Beyond c axis seen) (hfirst : seen = [] → axis = c.dominantAxis v.1) :
    m.lockedAxis.getD (m.config.dominantAxis v.1) = axis := by
  rw [(h.locked hb).2, h.config]
  split_ifs with hnil
  · rw [Option.getD_none, hfirst hnil]
  · rfl

theorem Tracked.step {c : MapperConfig} {axis : Axis} {seen : List Update} {m : ControlMapper} {v : Update}
    (h : Tracked c axis seen m) (hv : Held m v) (hoff : c.allCentered v.1 = false)
    (hfirst : seen = [] → axis = c.dominantAxis v.1) : Tracked c axis (seen ++ [v]) (step m v) := by
  have hoff' : m.config.allCentered v.1 = false := by rw [h.config]; exact hoff
  by_cases hb : Beyond c axis seen
  · have hspec := held_spec hv (h.locked hb).1 hoff'
    rw [h.on hb hfirst] at hspec
    constructor
    · rw [step_config, h.config]
    · rw [beyond_concat]
      rintro ⟨-, hnow⟩
      obtain ⟨hlock, hwait⟩ := hspec.locks (by rw [h.config]; exact hnow)
      exact ⟨hwait, by simpa using hlock⟩
    · rw [beyond_concat]
      intro hno
      apply hspec.waits
      rw [h.config]
      simpa [hb] using hno
  · have hwait := held_awaiting hv (h.waiting hb) hoff'
    constructor
    · rw [step_config, h.config]
    · rw [beyond_concat]
      exact fun hall => absurd hall.1 hb
    · exact fun _ => hwait

/-- Centred updates leave a free mapper free. -/
theorem exec_idle {m : ControlMapper} {us : List Update} (hfree : m.lockedAxis = none)
    (hrest : m.awaitingCenter = false) (hheld : Run.Always step Held m us)
    (hidle : ∀ w ∈ us, m.config.allCentered w.1 = true) :
    (Run.exec step m us).lockedAxis = none ∧ (Run.exec step m us).awaitingCenter = false := by
  induction us generalizing m with
  | nil => exact ⟨hfree, hrest⟩
  | cons v us ih =>
    obtain ⟨hfree', hrest'⟩ := held_idle hheld.1 hrest hfree (hidle v (List.mem_cons_self ..))
    refine ih hfree' hrest' hheld.2 fun w hw => ?_
    rw [step_config]
    exact hidle w (List.mem_cons_of_mem _ hw)

/-- The axis is chosen at the first update of the deflection. -/
theorem first_of_split {u v : Update} {mid pre post : List Update} (hsplit : u :: mid = pre ++ v :: post)
    (hnil : pre = []) : u = v := by
  subst hnil
  simpa using congrArg List.head? hsplit

/-- The mapper after any part of the deflection. -/
theorem Episode.tracked {m : ControlMapper} {idle : List Update} {u : Update} {mid : List Update}
    (h : Episode m idle u mid) {seen rest : List Update} (hsplit : u :: mid = seen ++ rest) :
    Tracked m.config (m.config.dominantAxis u.1) seen (Run.exec ControlMapper.step m (idle ++ seen)) := by
  induction seen using List.reverseRecOn generalizing rest with
  | nil =>
    obtain ⟨hfree, hrest⟩ := exec_idle h.free h.rested ((Run.always_append _ _ _ _).1 h.held).1 h.idle
    rw [List.append_nil]
    exact ⟨exec_config m idle, fun _ => ⟨hrest, hfree⟩, fun hno => absurd (fun w hw => by cases hw) hno⟩
  | append_singleton seen v ih =>
    rw [List.append_assoc] at hsplit
    have hheld := h.held
    rw [hsplit, ← List.append_assoc, Run.always_append] at hheld
    rw [← List.append_assoc, Run.exec_concat]
    apply (ih hsplit).step hheld.2.1 (h.off v (by simp [hsplit]))
    exact fun hnil => congrArg (fun w : Update => m.config.dominantAxis w.1) (first_of_split hsplit hnil)

/-- Over a deflection the dominant axis of its first update jogs for as long as it has stayed beyond
the deadzone, in the direction of its value, and no other axis jogs. -/
theorem episode_one_axis {m : ControlMapper} {idle : List Update} {u : Update} {mid : List Update}
    (h : Episode m idle u mid) {pre post : List Update} {v : Update} (hsplit : u :: mid = pre ++ v :: post) :
    let axis := m.config.dominantAxis u.1
    let frame := ((Run.exec ControlMapper.step m (idle ++ pre)).update v.1 v.2).2
    (frame.hasJog = true ↔ Beyond m.config axis (pre ++ [v])) ∧
      (frame.hasJog = true → frame.jog.axis = axis ∧
        (frame.jog.direction = .positive ↔
          if axis = .x then (v.1.axisValue axis).toInt > 0 else (v.1.axisValue axis).toInt < 0)) := by
  intro axis frame
  have htr := h.tracked hsplit
  have hheld := h.held
  rw [hsplit, ← List.append_assoc, Run.always_append] at hheld
  have hoff : (Run.exec ControlMapper.step m (idle ++ pre)).config.allCentered v.1 = false := by
    rw [htr.config]
    exact h.off v (by simp [hsplit])
  by_cases hb : Beyond m.config axis pre
  · have hspec := held_spec hheld.2.1 (htr.locked hb).1 hoff
    rw [htr.on hb fun hnil => congrArg (fun w : Update => m.config.dominantAxis w.1)
      (first_of_split hsplit hnil)] at hspec
    constructor
    · rw [beyond_concat, ← htr.config]
      exact ⟨fun hj => ⟨by rw [htr.config]; exact hb, hspec.jogs.1 hj⟩, fun hall => hspec.jogs.2 hall.2⟩
    · intro hj
      rw [show frame.jog = v.1.jogOn axis from hspec.jog hj]
      refine ⟨rfl, ?_⟩
      unfold GamepadState.jogOn
      split_ifs <;> simp_all
  · have hno : ¬ frame.hasJog = true := awaiting_noJog (htr.waiting hb)
    constructor
    · rw [beyond_concat]
      exact ⟨fun hj => absurd hj hno, fun hall => absurd hall.1 hb⟩
    · exact fun hj => absurd hj hno

/-- A diagonal path: X is taken first, Y grows larger, and when X dips into the deadzone nothing
jogs, however far Y is. -/
theorem episode_one_axis_dip :
    let stick (x y : Int16) : Update := ({ connected := true, deadman := true, leftX := x, leftY := y }, 0)
    ¬ Jogs (Run.exec ControlMapper.step {} [stick 0 0, stick 20000 9500, stick 20000 30000, stick 100 30000])
      (stick 20000 30000) := by
  intro stick hj
  have hepisode : Episode {} [stick 0 0] (stick 20000 9500)
      [stick 20000 30000, stick 100 30000, stick 20000 30000] :=
    ⟨rfl, rfl, by simp only [Run.Always, Held, Live, List.cons_append, List.nil_append]; decide, by decide,
      by decide⟩
  have hsplit : [stick 20000 9500, stick 20000 30000, stick 100 30000, stick 20000 30000] =
      [stick 20000 9500, stick 20000 30000, stick 100 30000] ++ stick 20000 30000 :: [] := rfl
  have hlaw := episode_one_axis hepisode hsplit
  have hbeyond := hlaw.1.1 hj (stick 100 30000) (by decide)
  revert hbeyond
  decide

end RedMonkeyMpg.ControlMapper
