/-
The centre obligation of the mapper over whole runs. A cancel, and the locked axis falling back
into the deadzone, oblige the operator to centre every stick before the next jog. The obligation
is the flag `awaitingCenter`: every update keeps it up or sees the sticks centred, except one with
the dead-man released and a stick off centre, which drops it unseen. So a run without such an
update never jogs before centring, and a run with one does. The centred sample that releases an
axis lock does not end the obligation it sets: a second one does.
-/
import RedMonkeyMpg.Lib.Run
import RedMonkeyMpg.Core.Mapper

namespace RedMonkeyMpg.ControlMapper

/-! ## Runs of updates -/

/-- One update: a control sample and the time it is handled at. -/
abbrev Update := GamepadState × UInt32

def step (m : ControlMapper) (u : Update) : ControlMapper := (m.update u.1 u.2).1

/-- The states of a mapper constructed with some configuration. -/
def Reachable (m : ControlMapper) : Prop :=
  ∃ (config : MapperConfig) (us : List Update), m = Run.exec step { config := config } us

/-- A connected and fresh update. -/
def Live (m : ControlMapper) (u : Update) : Prop :=
  u.1.connected = true ∧ m.config.stale u.1 u.2 = false

def Jogs (m : ControlMapper) (u : Update) : Prop := (m.update u.1 u.2).2.hasJog = true

/-- An update that sets the obligation: a cancel, or the locked axis back in the deadzone while
the dead-man is held. -/
def Obliges (m : ControlMapper) (u : Update) : Prop :=
  u.1.cancel = true ∨
    u.1.deadman = true ∧ ∃ axis, m.lockedAxis = some axis ∧ m.config.centered (u.1.axisValue axis) = true

/-- No jog follows the obliging update `u` before an update, `u` included, has all sticks centred. -/
def CentreKept (m : ControlMapper) (u : Update) (us : List Update) : Prop :=
  ∀ pre v post, us = pre ++ v :: post → Jogs (Run.exec step m (u :: pre)) v →
    ∃ w ∈ u :: pre ++ [v], m.config.allCentered w.1 = true

/-- While a centre is awaited, the dead-man is released only by a cancelling or a centred update. -/
def ReleasedOnlyCentred (m : ControlMapper) (u : Update) : Prop :=
  m.awaitingCenter = true → u.1.deadman = true ∨ u.1.cancel = true ∨ m.config.allCentered u.1 = true

/-! ## Lock and wait exclude each other -/

theorem updateReleased_free (m : ControlMapper) (input : GamepadState) :
    (m.updateReleased input).1.lockedAxis = none ∧ (m.updateReleased input).1.awaitingCenter = false := by
  simp only [updateReleased]
  split_ifs <;> exact ⟨rfl, rfl⟩

/-- A mapper that awaits the centre has no locked axis. -/
def Exclusive (m : ControlMapper) : Prop := m.awaitingCenter = true → m.lockedAxis = none

theorem step_exclusive (m : ControlMapper) (u : Update) (h : Exclusive m) : Exclusive (step m u) := by
  unfold step Exclusive
  by_cases hr : u.1.connected = false ∨ m.config.stale u.1 u.2 = true
  · rw [update_reset hr]
    exact fun _ => rfl
  · simp only [not_or, Bool.not_eq_false, Bool.not_eq_true] at hr
    rw [update_live hr.1 hr.2]
    split_ifs with hc hd ha
    · exact fun _ => rfl
    · exact fun _ => (updateReleased_free m u.1).1
    · exact fun _ => h ha
    · simp only [updateMotion]
      split_ifs
      · exact fun hw => absurd hw ha
      · exact fun _ => rfl
      · exact fun hw => absurd hw ha

theorem Reachable.exclusive {m : ControlMapper} (h : Reachable m) : Exclusive m := by
  obtain ⟨config, us, rfl⟩ := h
  exact Run.invariant_all step_exclusive us (fun _ => rfl)

/-! ## The obligation, step by step -/

@[simp] theorem step_config (m : ControlMapper) (u : Update) : (step m u).config = m.config := update_config

@[simp] theorem exec_config (m : ControlMapper) (us : List Update) : (Run.exec step m us).config = m.config :=
  Run.invariant_all (I := fun s : ControlMapper => s.config = m.config)
    (fun s u h => by rw [step_config, h]) us rfl

/-- The obliging update leaves the mapper awaiting the centre. -/
theorem obliges_awaiting {m : ControlMapper} {u : Update} (hx : Exclusive m) (hl : Live m u)
    (ho : Obliges m u) : (step m u).awaitingCenter = true := by
  unfold step
  rw [update_live hl.1 hl.2]
  split_ifs with hc hd ha
  · rfl
  · rcases ho with h | ⟨h, -⟩
    · exact absurd h hc
    · simp [h] at hd
  · rcases ho with h | ⟨-, axis, hlock, -⟩
    · exact absurd h hc
    · rw [hx ha] at hlock
      cases hlock
  · rcases ho with h | ⟨-, axis, hlock, hcen⟩
    · exact absurd h hc
    · simp [updateMotion, hlock, hcen]

/-- An awaited centre stays awaited through an update that is not centred and does not release the
dead-man. -/
theorem awaiting_kept {m : ControlMapper} {u : Update} (hl : Live m u) (ha : m.awaitingCenter = true)
    (hr : ReleasedOnlyCentred m u) (hc : m.config.allCentered u.1 = false) :
    (step m u).awaitingCenter = true := by
  unfold step
  rw [update_live hl.1 hl.2]
  split_ifs with h1 h2
  · rfl
  · have := hr ha
    simp_all
  · simp [hc]

theorem awaiting_noJog {m : ControlMapper} {u : Update} (ha : m.awaitingCenter = true) : ¬ Jogs m u := by
  intro hj
  have := (update_jog hj).2.2.2.2.1
  rw [ha] at this
  cases this

/-- Releasing the dead-man off centre drops the obligation: the next update that holds it with the
same sticks jogs. -/
theorem release_drops {m : ControlMapper} {u v : Update} (hl : Live m u) (hc : u.1.cancel = false)
    (hd : u.1.deadman = false) (hoff : m.config.allCentered u.1 = false) (hl' : Live m v)
    (hc' : v.1.cancel = false) (hd' : v.1.deadman = true) (hx : v.1.axisValue = u.1.axisValue) :
    Jogs (step m u) v := by
  have hs : step m u = (m.updateReleased u.1).1 := by
    unfold step
    rw [update_live hl.1 hl.2]
    simp [hc, hd]
  obtain ⟨hlock, hwait⟩ := updateReleased_free m u.1
  have hcfg : (m.updateReleased u.1).1.config = m.config := updateReleased_config
  have hsame : m.config.allCentered v.1 = false := by
    have hxx := congrFun hx .x
    have hxy := congrFun hx .y
    have hxz := congrFun hx .z
    simp only [GamepadState.axisValue] at hxx hxy hxz
    simpa [MapperConfig.allCentered, hxx, hxy, hxz] using hoff
  unfold Jogs
  rw [hs, update_live hl'.1 (by rw [hcfg]; exact hl'.2)]
  simp only [hc', hd', hwait]
  refine updateMotion_beyond (by rw [hcfg]; exact hsame) ?_
  rw [hlock, hcfg]
  exact MapperConfig.dominantAxis_beyond hsame

/-! ## The obligation over a run -/

/-- Through a run in which the dead-man is released only centred, an awaited centre stays awaited
until an update has all sticks centred. -/
theorem exec_awaiting {m : ControlMapper} {us : List Update} (ha : m.awaitingCenter = true)
    (hl : Run.Always step Live m us) (hr : Run.Always step ReleasedOnlyCentred m us)
    (hc : ∀ w ∈ us, m.config.allCentered w.1 = false) : (Run.exec step m us).awaitingCenter = true := by
  induction us generalizing m with
  | nil => exact ha
  | cons u us ih =>
    have hcu := hc u (List.mem_cons_self ..)
    refine ih (awaiting_kept hl.1 ha hr.1 hcu) hl.2 hr.2 fun w hw => ?_
    rw [step_config]
    exact hc w (List.mem_cons_of_mem _ hw)

/-- In every run of connected and fresh updates from a reachable mapper in which, while a centre is
awaited, the dead-man is released only by cancelling or centred updates, the centre obligation is
discharged only by centring. -/
theorem centre_obligation_kept {m : ControlMapper} {u : Update} {us : List Update} (hm : Reachable m)
    (hl : Run.Always step Live m (u :: us)) (ho : Obliges m u)
    (hr : Run.Always step ReleasedOnlyCentred (step m u) us) : CentreKept m u us := by
  rintro pre v post rfl hj
  by_contra hnone
  push Not at hnone
  have hpre : Run.Always step Live (step m u) pre := ((Run.always_append _ _ _ _).1 hl.2).1
  have hrel := ((Run.always_append _ _ _ _).1 hr).1
  have hawait := exec_awaiting (obliges_awaiting hm.exclusive hl.1 ho) hpre hrel fun w hw => by
    rw [step_config]
    simpa using hnone w (by simp [hw])
  exact awaiting_noJog hawait hj

/-- The mapper's own defaults: cancel with the left stick to the right, let go of the dead-man,
hold it again: the third update jogs with the stick never centred. -/
theorem centre_obligation_dropped :
    ¬ ∀ (m : ControlMapper) (u : Update) (us : List Update), Reachable m →
      Run.Always step Live m (u :: us) → Obliges m u → CentreKept m u us := by
  intro h
  let stick : GamepadState := { connected := true, leftX := 20000 }
  have hkept := h {} ({ stick with deadman := true, cancel := true }, 0)
    [(stick, 0), ({ stick with deadman := true }, 0)] ⟨{}, [], rfl⟩
    (by simp only [Run.Always, Live]; decide) (.inl rfl)
  obtain ⟨w, hw, hcen⟩ := hkept [(stick, 0)] _ [] rfl (by unfold Jogs; decide)
  revert w
  decide

/-- A cancelled run with the dead-man held throughout, centred once before the next deflection. -/
theorem centre_obligation_kept_held :
    let stick : GamepadState := { connected := true, leftX := 20000, deadman := true }
    CentreKept {} ({ stick with cancel := true }, 0)
      [(stick, 0), ({ stick with leftX := 0 }, 0), (stick, 0)] :=
  centre_obligation_kept ⟨{}, [], rfl⟩ (by simp only [Run.Always, Live]; decide) (.inl rfl)
    (by simp only [Run.Always, ReleasedOnlyCentred]; decide)

/-! ## How many centred samples are enough -/

/-- A connected and fresh update with the dead-man held and no cancel. -/
def Held (m : ControlMapper) (u : Update) : Prop :=
  Live m u ∧ u.1.deadman = true ∧ u.1.cancel = false

/-- A held update with every stick in the deadzone. -/
def Centred (m : ControlMapper) (u : Update) : Prop := Held m u ∧ m.config.allCentered u.1 = true

/-- A held update with a stick beyond the deadzone. -/
def Deflected (m : ControlMapper) (u : Update) : Prop := Held m u ∧ m.config.allCentered u.1 = false

/-- A connected and fresh update that cancels. -/
def Cancels (m : ControlMapper) (u : Update) : Prop := Live m u ∧ u.1.cancel = true

theorem step_held {m : ControlMapper} {u : Update} (hu : Held m u) :
    m.update u.1 u.2 =
      if m.awaitingCenter then
        ({ m.rememberButtons u.1 with awaitingCenter := !m.config.allCentered u.1 }, {})
      else m.updateMotion u.1 := by
  obtain ⟨hl, hd, hc⟩ := hu
  rw [update_live hl.1 hl.2]
  simp [hd, hc]

/-- A centred update leaves no axis locked, and awaits another centre exactly when it released a lock. -/
theorem step_centred {m : ControlMapper} {u : Update} (hx : Exclusive m) (hu : Centred m u) :
    (step m u).lockedAxis = none ∧ ((step m u).awaitingCenter = true ↔ m.lockedAxis ≠ none) := by
  unfold step
  rw [step_held hu.1]
  split_ifs with ha
  · -- the wait ends here
    have hlock := hx ha
    exact ⟨hlock, by simp [hu.2, hlock]⟩
  · cases hlock : m.lockedAxis with
    | none => simp [updateMotion, rememberButtons, hlock, hu.2, ha]
    | some axis =>
      -- the lock is released, the centre itself is not taken note of
      have hcen : m.config.centered (u.1.axisValue axis) = true := by
        have := hu.2
        simp only [MapperConfig.allCentered, Bool.and_eq_true] at this
        cases axis <;> simp [GamepadState.axisValue, this]
      simp [updateMotion, rememberButtons, hlock, hcen]

/-- Without a locked axis, an update that is not deflected locks none, and leaves the centre awaited
exactly when it cancels. -/
theorem step_undeflected {m : ControlMapper} {u : Update} (hlock : m.lockedAxis = none) (hu : ¬ Deflected m u) :
    (step m u).lockedAxis = none ∧ ((step m u).awaitingCenter = true ↔ Cancels m u) := by
  by_cases hr : u.1.connected = false ∨ m.config.stale u.1 u.2 = true
  · unfold step
    rw [update_reset hr]
    refine ⟨rfl, iff_of_false (by simp [reset]) ?_⟩
    rintro ⟨⟨hcon, hst⟩, -⟩
    simp [hcon, hst] at hr
  · simp only [not_or, Bool.not_eq_false, Bool.not_eq_true] at hr
    by_cases hc : u.1.cancel = true
    · unfold step
      rw [update_live hr.1 hr.2, if_pos hc]
      exact ⟨rfl, iff_of_true rfl ⟨hr, hc⟩⟩
    · have hno : ¬ Cancels m u := fun h => hc h.2
      by_cases hd : u.1.deadman = true
      · -- held and not deflected: centred
        have hheld : Held m u := ⟨hr, hd, by simpa using hc⟩
        have hcen : Centred m u := ⟨hheld, by simpa [Deflected, hheld] using hu⟩
        obtain ⟨hnone, hwait⟩ := step_centred (fun _ => hlock) hcen
        exact ⟨hnone, iff_of_false (fun h => hwait.1 h hlock) hno⟩
      · unfold step
        rw [update_live hr.1 hr.2, if_neg hc, if_pos (by simpa using hd)]
        obtain ⟨hnone, hwait⟩ := updateReleased_free m u.1
        exact ⟨hnone, iff_of_false (by simp [hwait]) hno⟩

/-- Without a locked axis, a deflected update jogs exactly when no centre is awaited. -/
theorem jogs_deflected {m : ControlMapper} {v : Update} (hlock : m.lockedAxis = none) (hv : Deflected m v) :
    Jogs m v ↔ ¬ m.awaitingCenter = true := by
  constructor
  · exact fun hj ha => awaiting_noJog ha hj
  · intro ha
    unfold Jogs
    rw [step_held hv.1, if_neg ha]
    refine updateMotion_beyond hv.2 ?_
    rw [hlock]
    exact MapperConfig.dominantAxis_beyond hv.2

theorem exec_undeflected {m : ControlMapper} {us : List Update} (hlock : m.lockedAxis = none)
    (hus : ∀ w ∈ us, ¬ Deflected m w) : (Run.exec step m us).lockedAxis = none := by
  induction us using List.reverseRecOn with
  | nil => exact hlock
  | append_singleton us w ih =>
    rw [Run.exec_concat]
    refine (step_undeflected (ih fun w' h => hus w' (by simp [h])) ?_).1
    have := hus w (by simp)
    simpa [Deflected, Held, Live, exec_config] using this

/-- After a centred update of a reachable mapper, the next deflected update jogs unless the centred one
released an axis lock and nothing came in between, or the update before it cancels. -/
theorem centred_sample {m : ControlMapper} {u v : Update} {us : List Update} (hm : Reachable m)
    (hu : Centred m u) (hus : ∀ w ∈ us, ¬ Deflected m w) (hv : Deflected m v) :
    Jogs (Run.exec step m (u :: us)) v ↔
      (us = [] → m.lockedAxis = none) ∧ ∀ w, us.getLast? = some w → ¬ Cancels m w := by
  have same : ∀ t : ControlMapper, t.config = m.config → ∀ w, (Deflected t w ↔ Deflected m w) := by
    intro t ht w
    simp [Deflected, Held, Live, ht]
  obtain ⟨hlock, hwait⟩ := step_centred hm.exclusive hu
  rw [Run.exec_cons]
  rcases List.eq_nil_or_concat us with rfl | ⟨pre, w, rfl⟩
  · rw [Run.exec_nil, jogs_deflected hlock ((same _ (step_config m u) v).2 hv), hwait]
    simp
  · rw [List.concat_eq_append] at hus ⊢
    have hpre : ∀ w' ∈ pre, ¬ Deflected (step m u) w' := fun w' h => by
      rw [same _ (step_config m u)]
      exact hus w' (by simp [h])
    have hcfg : (Run.exec step (step m u) pre).config = m.config := by rw [exec_config, step_config]
    have hlast : ¬ Deflected (Run.exec step (step m u) pre) w := by
      rw [same _ hcfg]
      exact hus w (by simp)
    obtain ⟨hnone, hcancel⟩ := step_undeflected (exec_undeflected hlock hpre) hlast
    rw [Run.exec_concat, jogs_deflected hnone ((same _ (by rw [step_config, hcfg]) v).2 hv), hcancel]
    simp [Cancels, Live, hcfg]

/-- At the mapper's own defaults the stick jogs to the right and falls back into the deadzone: the next
deflection does not jog. -/
theorem centred_sample_locked :
    ¬ ∀ (m : ControlMapper) (u v : Update), Reachable m → Centred m u → Deflected m v → Jogs (step m u) v := by
  intro h
  let stick : GamepadState := { connected := true, deadman := true, leftX := 20000 }
  have hjog := h (step {} (stick, 0)) ({ stick with leftX := 0 }, 0) (stick, 0) ⟨{}, [(stick, 0)], rfl⟩
    (by simp only [Centred, Held, Live]; decide) (by simp only [Deflected, Held, Live]; decide)
  revert hjog
  unfold Jogs
  decide

/-- A jog to the right, two centred samples, and a jog to the right again. -/
theorem centred_sample_twice :
    let stick : GamepadState := { connected := true, deadman := true, leftX := 20000 }
    let centre : Update := ({ stick with leftX := 0 }, 0)
    Jogs (Run.exec step (step {} (stick, 0)) [centre, centre]) (stick, 0) := by
  intro stick centre
  have hcentre : Centred (step {} (stick, 0)) centre := by
    simp only [Centred, Held, Live]
    decide
  have hbetween : ∀ w ∈ [centre], ¬ Deflected (step {} (stick, 0)) w := by
    simp only [List.mem_singleton, forall_eq, Deflected, Held, Live]
    decide
  have hstick : Deflected (step {} (stick, 0)) (stick, 0) := by
    simp only [Deflected, Held, Live]
    decide
  refine (centred_sample ⟨{}, [(stick, 0)], rfl⟩ hcentre hbetween hstick).2 ⟨?_, ?_⟩
  · exact fun h => absurd h (List.cons_ne_nil _ _)
  · rintro w hw ⟨-, hc⟩
    cases hw
    cases hc

end RedMonkeyMpg.ControlMapper
