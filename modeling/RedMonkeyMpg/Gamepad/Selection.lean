/-
The step selections that the gamepad receiver publishes, over every run. The mapper's memory of a
button is lost in resets, and reports under a session or of a candidate do not reach the mapper; but
every reset leaves the receiver to be re-armed, and the report that re-arms it is remembered. So the
button that selected a step is remembered, or nothing is published, until the mapper has seen a report
without it. The order of the cycle does not survive re-arming: the report that arms the receiver may
move the cycle unseen.
-/
import RedMonkeyMpg.Gamepad.Controls

namespace RedMonkeyMpg.Gamepad.Receiver

variable {p : Platform} {r : Receiver}

/-! ## Published selections -/

/-- The event is a report that the armed and unattended receiver publishes as a step key, selected from
the source. -/
def PublishesStep (p : Platform) (source : StepSource) (resolution : StepResolution) (r : Receiver) (e : Event) : Prop :=
  ∃ bytes nowMs raw, e = .bluetooth (.report bytes nowMs) ∧ r.parseReport bytes nowMs = some raw ∧ r.Unattended ∧
    r.rearmRequired = false ∧ source.fires r.mapper (r.mapped raw, nowMs) = true ∧
    source.resolution r.mapper (r.mapped raw, nowMs) = resolution ∧ (step p r e).usb.desired = stepReport resolution

/-- The event is a report that parses and is processed by the mapper, with no button pressed that has an
action of the source. -/
def ProcessedWithout (source : StepSource) (r : Receiver) (e : Event) : Prop :=
  ∃ bytes nowMs raw, e = .bluetooth (.report bytes nowMs) ∧ r.parseReport bytes nowMs = some raw ∧ r.Unattended ∧
    r.productionMapping.presses source.actions raw.buttons = false

/-- A report after which a step key is wanted published it, from one of the sources. -/
theorem step_publishes {e : Event} {resolution : StepResolution} (he : e.reportMs ≠ none)
    (h : (step p r e).usb.desired = stepReport resolution) : ∃ source, PublishesStep p source resolution r e := by
  have hkey : reportHasKey (stepReport resolution) = true := stepReport_hasKey resolution
  rcases step_key (p := p) hkey r e h with hdrives | ⟨-, hno⟩
  · obtain ⟨bytes, nowMs, raw, rfl, hp, hreport, -, -, hu, harmed⟩ := hdrives
    have hmasso := (cncReport_key (hreport ▸ hkey)).1
    obtain ⟨source, hf, hr⟩ :=
      (update_isStep_source r.mapper (r.mapped raw, nowMs) resolution).1 (hmasso.symm.trans hreport.symm)
    exact ⟨source, bytes, nowMs, raw, rfl, hp, hu, harmed, hf, hr, h⟩
  · exact absurd (.inl he) hno

/-! ## What is remembered -/

/-- An armed receiver remembers the button of the source. -/
def Remembers (source : StepSource) (r : Receiver) : Prop :=
  r.rearmRequired = false → source.memory r.mapper = true

/-- A processed report is remembered, whether it re-arms or is published. -/
theorem processed_memory (hw : Wired r) {source : StepSource} {bytes : List UInt8} {nowMs : UInt32} {raw : GamepadState}
    (hp : r.parseReport bytes nowMs = some raw) (hu : r.Unattended) :
    source.memory (step p r (.bluetooth (.report bytes nowMs))).mapper =
      r.productionMapping.presses source.actions raw.buttons := by
  cases step_consumed (p := p) r bytes nowMs with
  | refused h hm hr =>
    rw [hp] at h
    cases h
  | withheld raw' h ha hm hr => exact absurd hu ha
  | processed raw' h hu' hm =>
    obtain rfl : raw = raw' := Option.some.inj (hp.symm.trans h)
    rw [hm, StepSource.memory_step (hw.live hp _)]
    exact StepSource.button_mapped _ hw.mapping

theorem publishes_remembers (hw : Wired r) {source : StepSource} {resolution : StepResolution} {e : Event}
    (h : PublishesStep p source resolution r e) : Remembers source (step p r e) := by
  obtain ⟨bytes, nowMs, raw, rfl, hp, hu, -, hf, -⟩ := h
  intro _
  rw [processed_memory hw hp hu, ← StepSource.button_mapped _ hw.mapping]
  exact (StepSource.fires_edge hf).1

/-- Only a processed report without the button makes an armed receiver forget it. -/
theorem step_remembers (hw : Wired r) {source : StepSource} {e : Event} (h : Remembers source r)
    (hno : ¬ ProcessedWithout source r e) : Remembers source (step p r e) := by
  intro harmed
  cases he : e.reportMs with
  | none =>
    obtain ⟨profile, hc, -⟩ := step_controls (p := p) r he hw.profile
    rw [show (step p r e).mapper = r.mapper from congrArg Prod.fst hc]
    rcases step_other (p := p) r he with ⟨-, hq⟩ | hclosed
    · exact h (hq.rearmRequired.symm.trans harmed)
    · exact Bool.noConfusion (hclosed.rearmRequired.symm.trans harmed)
  | some nowMs =>
    obtain ⟨bytes, rfl⟩ := Event.eq_report he
    cases step_consumed (p := p) r bytes nowMs with
    | refused hp hm hr => exact Bool.noConfusion (hr.symm.trans harmed)
    | withheld raw hp ha hm hr =>
      rw [hm]
      exact h (hr.symm.trans harmed)
    | processed raw hp hu hm =>
      rw [processed_memory hw hp hu]
      refine (Bool.not_eq_false _).mp fun hout => ?_
      exact hno ⟨bytes, nowMs, raw, rfl, hp, hu, hout⟩

/-- A receiver that remembers the button publishes no selection from its source. -/
theorem Remembers.not_publishes {source : StepSource} {resolution : StepResolution} {e : Event}
    (h : Remembers source r) : ¬ PublishesStep p source resolution r e := by
  rintro ⟨bytes, nowMs, raw, rfl, hp, hu, harmed, hf, -⟩
  exact Bool.noConfusion ((h harmed).symm.trans (StepSource.fires_edge hf).2)

/-! ## A held button -/

/-- A held button selects at most once: in every run from the boot, every step key that a report leaves
wanted was published from one of the two sources, and between two published from the same source the
mapper processed a report without a button of that source. -/
theorem held_selects_once (p : Platform) (flash : Flash) (reads : Option Flash) (es : List Event) :
    (∀ pre e post resolution, es = pre ++ e :: post → e.reportMs ≠ none →
      (Run.exec (step p) (boot p flash reads) (pre ++ [e])).usb.desired = stepReport resolution →
      ∃ source, PublishesStep p source resolution (Run.exec (step p) (boot p flash reads) pre) e) ∧
    ∀ source resolution resolution' pre e mid f post, es = pre ++ e :: (mid ++ f :: post) →
      PublishesStep p source resolution (Run.exec (step p) (boot p flash reads) pre) e →
      PublishesStep p source resolution' (Run.exec (step p) (boot p flash reads) (pre ++ e :: mid)) f →
      ∃ before g after, mid = before ++ g :: after ∧
        ProcessedWithout source (Run.exec (step p) (boot p flash reads) (pre ++ e :: before)) g := by
  constructor
  · rintro pre e post resolution rfl he h
    rw [Run.exec_concat] at h
    exact step_publishes he h
  · rintro source resolution resolution' pre e mid f post rfl he hf
    let start := step p (Run.exec (step p) (boot p flash reads) pre) e
    have hexec : ∀ fs, Run.exec (step p) (boot p flash reads) (pre ++ e :: fs) = Run.exec (step p) start fs :=
      fun fs => by simp [start]
    have hw : Wired (Run.exec (step p) (boot p flash reads) pre) := Run.invariant_all step_wired pre (boot_wired flash reads)
    simp only [hexec] at hf ⊢
    -- between events the receiver is wired, and remembers the button from the first selection on
    refine Run.broken_between (I := fun s => Wired s ∧ Remembers source s)
      (fun s g hs hno => ⟨step_wired s g hs.1, step_remembers hs.1 hs.2 hno⟩)
      ⟨step_wired _ e hw, publishes_remembers hw he⟩ ?_
    rintro ⟨-, hr⟩
    exact hr.not_publishes hf

/-- A Lite 2 report with its face buttons, the sticks centred. -/
def faceReport (faces : UInt8) : List UInt8 := [0xA1, 0x01, faces, 0, 0, 127, 127, 127, 128, 0, 0]

/-- A connection, and a report for each value of the face buttons. -/
def facesPressed (faces : List UInt8) : List Event :=
  [.bluetooth (.connectionOpened kSuccess 1), .bluetooth (.descriptorAvailable kSuccess (some (List.replicate 83 0)) none)] ++
    faces.map fun pressed => .bluetooth (.report (faceReport pressed) 10)

/-- A is held for two reports, released and pressed again: it selects twice. -/
theorem held_selects_once_pressed :
    let p := Platform.plain []
    ∃ before g after,
      [Event.bluetooth (.report (faceReport 1) 10), .bluetooth (.report (faceReport 0) 10)] = before ++ g :: after ∧
        ProcessedWithout .cycle (Run.exec (step p) (boot p (fun _ => none) none)
          (facesPressed [0] ++ .bluetooth (.report (faceReport 1) 10) :: before)) g := by
  intro p
  let raw := (Lite2.parse (faceReport 1) 10).get (by decide +kernel)
  exact (held_selects_once p (fun _ => none) none
    (facesPressed [0, 1, 1, 0, 1])).2 .cycle .mm001 .mm010 (facesPressed [0]) (.bluetooth (.report (faceReport 1) 10))
    [.bluetooth (.report (faceReport 1) 10), .bluetooth (.report (faceReport 0) 10)] (.bluetooth (.report (faceReport 1) 10)) []
    rfl ⟨faceReport 1, 10, raw, rfl, by decide +kernel⟩ ⟨faceReport 1, 10, raw, rfl, by decide +kernel⟩

/-! ## The step cycle -/

/-- The steps that the event publishes: a report's wanted key, when it is one of a step. -/
def published (p : Platform) (r : Receiver) (e : Event) : List StepResolution :=
  match e.reportMs with
  | none => []
  | some _ => (stepOf (step p r e).usb.desired).toList

/-- The only step actions of the mapping are those of the cycle. -/
def CycleOnly (m : ProductionMapping) : Prop := ∀ a ∈ m.faces, StepSource.direct.actions a = false

instance (m : ProductionMapping) : Decidable (CycleOnly m) :=
  inferInstanceAs (Decidable (∀ a ∈ m.faces, _))

/-- The action of a cancel button. -/
def cancels : ButtonAction → Bool
  | .cancel => true
  | _ => false

/-- The event is the report that arms the receiver, with a button of the cycle pressed and no cancel button. -/
def ArmsCycling (r : Receiver) (e : Event) : Prop :=
  ∃ bytes nowMs raw, e = .bluetooth (.report bytes nowMs) ∧ r.parseReport bytes nowMs = some raw ∧ r.Unattended ∧
    r.rearmRequired = true ∧ controlsAreSafeToArm (r.mapped raw) = true ∧
    r.productionMapping.presses StepSource.cycle.actions raw.buttons = true ∧
    r.productionMapping.presses cancels raw.buttons = false

theorem CycleOnly.presses {m : ProductionMapping} (h : CycleOnly m) (buttons : UInt32) :
    m.presses StepSource.direct.actions buttons = false := by
  unfold ProductionMapping.presses
  rw [List.any_eq_false]
  intro face hface
  have hmem : face.2 ∈ m.faces := (List.of_mem_zip (show (face.1, face.2) ∈ _ from hface)).2
  simp [h face.2 hmem]

/-- The mapper that starts a re-arm selects from the cycle exactly when the report arms the receiver with a
button of the cycle pressed, no cancel button and no button of a direct step. -/
theorem reset_cycles (hw : Wired r) (hc : CycleOnly r.productionMapping) {bytes : List UInt8} {nowMs : UInt32}
    {raw : GamepadState} (hp : r.parseReport bytes nowMs = some raw) :
    r.mapper.reset.cycles (r.mapped raw, nowMs) = true ↔
      controlsAreSafeToArm (r.mapped raw) = true ∧
        r.productionMapping.presses StepSource.cycle.actions raw.buttons = true ∧
        r.productionMapping.presses cancels raw.buttons = false := by
  have hconnected : (r.mapped raw).connected = true := (hw.live hp r.mapper).1
  have hfresh : r.mapper.config.stale (r.mapped raw) nowMs = false := (hw.live hp r.mapper).2
  have hcancel : (r.mapped raw).cancel = r.productionMapping.presses cancels raw.buttons :=
    applyProductionMapping_flag (·.cancel) (fun mapped a => by cases a <;> simp [applyAction, cancels]) hw.mapping
      fun _ _ _ => rfl
  have hdirect : (r.mapped raw).selectResolution = false :=
    (StepSource.button_mapped .direct hw.mapping).trans (hc.presses raw.buttons)
  have hcycle : (r.mapped raw).cycleResolution = r.productionMapping.presses StepSource.cycle.actions raw.buttons :=
    StepSource.button_mapped .cycle hw.mapping
  have hcentered : ∀ value, r.mapper.config.centered value = decide (magnitude value ≤ kCenterLimit) := by
    intro value
    rw [hw.config]
    rfl
  simp only [ControlMapper.cycles, ControlMapper.neutral, ControlMapper.reset, hconnected, hfresh, hcancel, hdirect,
    hcycle, MapperConfig.allCentered, hcentered, controlsAreSafeToArm, Bool.and_eq_true, Bool.not_eq_true',
    Bool.not_false, Bool.true_and, Bool.and_true, decide_eq_true_eq]
  tauto

/-- A valid mapping has the compiled profile. -/
theorem valid_masso {m : ProductionMapping} (h : validateProductionMapping m = .valid) (frame : OutputFrame) :
    cncControllerKeyboardReport m.cncProfile frame = massoG3KeyboardReport frame := by
  unfold validateProductionMapping at h
  cases hid : m.cncProfile with
  | massoG3Touch513 => rfl
  | unknown raw hraw =>
    rw [hid] at h
    cases h

/-- With no direct step action mapped, every published step comes from the cycle. -/
theorem publishes_cycle (hw : Wired r) (hc : CycleOnly r.productionMapping) {source : StepSource}
    {resolution : StepResolution} {e : Event} (h : PublishesStep p source resolution r e) :
    resolution = r.mapper.nextResolution ∧ (step p r e).mapper.nextResolution = r.mapper.nextResolution.next := by
  obtain ⟨bytes, nowMs, raw, rfl, hp, hu, harmed, hf, hr, -⟩ := h
  cases source with
  | direct =>
    have hpressed := (StepSource.fires_edge hf).1
    rw [show (r.mapped raw, nowMs).1 = applyProductionMapping raw r.productionMapping from rfl,
      StepSource.button_mapped _ hw.mapping, hc.presses] at hpressed
    cases hpressed
  | cycle =>
    refine ⟨hr.symm, ?_⟩
    cases step_consumed (p := p) r bytes nowMs with
    | refused h hm hr =>
      rw [hp] at h
      cases h
    | withheld raw' h ha hm hr => exact absurd hu ha
    | processed raw' h hu' hm =>
      obtain rfl : raw = raw' := Option.some.inj (hp.symm.trans h)
      have henter : r.entering = r.mapper := if_neg (by simp [harmed])
      rw [hm, henter, ControlMapper.step_nextResolution]
      exact if_pos hf

/-- A report with nothing published does not move the cycle, but for one that arms the receiver with a
button of the cycle pressed. -/
theorem unpublished_report (hw : Wired r) (hc : CycleOnly r.productionMapping) {bytes : List UInt8} {nowMs : UInt32}
    (h : published p r (.bluetooth (.report bytes nowMs)) = []) :
    (¬ ArmsCycling r (.bluetooth (.report bytes nowMs)) ∧
        (step p r (.bluetooth (.report bytes nowMs))).mapper.nextResolution = r.mapper.nextResolution) ∨
      (ArmsCycling r (.bluetooth (.report bytes nowMs)) ∧
        (step p r (.bluetooth (.report bytes nowMs))).mapper.nextResolution = r.mapper.nextResolution.next) := by
  cases step_consumed (p := p) r bytes nowMs with
  | refused hp hm hr =>
    refine .inl ⟨?_, by rw [hm]; rfl⟩
    rintro ⟨_, _, raw, heq, hp', -⟩
    cases heq
    rw [hp] at hp'
    cases hp'
  | withheld raw hp ha hm hr =>
    refine .inl ⟨?_, by rw [hm]⟩
    rintro ⟨_, _, _, heq, -, hu, -⟩
    cases heq
    exact ha hu
  | processed raw hp hu hm =>
    have hnext : r.entering.nextResolution = r.mapper.nextResolution := by
      unfold entering
      split <;> rfl
    rw [hm, ControlMapper.step_nextResolution, hnext]
    cases hr : r.rearmRequired with
    | true =>
      have henter : r.entering = r.mapper.reset := if_pos hr
      rw [henter]
      have hiff := reset_cycles hw hc hp
      by_cases hcyc : r.mapper.reset.cycles (r.mapped raw, nowMs) = true
      · exact .inr ⟨⟨bytes, nowMs, raw, rfl, hp, hu, hr, hiff.1 hcyc⟩, if_pos hcyc⟩
      · refine .inl ⟨?_, if_neg hcyc⟩
        rintro ⟨_, _, raw', heq, hp', -, -, hcond⟩
        cases heq
        obtain rfl : raw = raw' := Option.some.inj (hp.symm.trans hp')
        exact hcyc (hiff.2 hcond)
    | false =>
      have henter : r.entering = r.mapper := if_neg (by simp [hr])
      rw [henter]
      refine .inl ⟨?_, if_neg fun hcyc => ?_⟩
      · rintro ⟨_, _, _, heq, -, -, hr', -⟩
        cases heq
        exact Bool.noConfusion (hr.symm.trans hr')
      -- a selection of an armed receiver is published
      · cases step_report (p := p) r bytes nowMs with
        | refused hp' hclosed =>
          rw [hp] at hp'
          cases hp'
        | withheld raw' hp' ha hd hr' => exact ha hu
        | rearmed raw' hp' hu' hb hd hr' => exact Bool.noConfusion (hr.symm.trans hb)
        | driven raw' hp' hu' hb hd hr' ht =>
          obtain rfl : raw = raw' := Option.some.inj (hp.symm.trans hp')
          have hstep := (update_isStep_source r.mapper (r.mapped raw, nowMs) r.mapper.nextResolution).2
            ⟨.cycle, hcyc, rfl⟩
          have hkey : r.keyboardReport raw nowMs = stepReport r.mapper.nextResolution := by
            rw [← hstep, keyboardReport, valid_masso hw.mapping]
          have hpub : published p r (.bluetooth (.report bytes nowMs)) = [r.mapper.nextResolution] := by
            simp only [published, Event.reportMs, hd, hkey, stepOf_stepReport, Option.toList_some]
          rw [hpub] at h
          cases h

/-- What an event does to the cycle: it publishes the next step and moves on; or it publishes none, and
moves on exactly when it arms the receiver with a button of the cycle pressed. -/
theorem step_cycle (hw : Wired r) (hc : CycleOnly r.productionMapping) (e : Event) :
    (published p r e = [r.mapper.nextResolution] ∧ ¬ ArmsCycling r e ∧
        (step p r e).mapper.nextResolution = r.mapper.nextResolution.next) ∨
      (published p r e = [] ∧
        ((¬ ArmsCycling r e ∧ (step p r e).mapper.nextResolution = r.mapper.nextResolution) ∨
          (ArmsCycling r e ∧ (step p r e).mapper.nextResolution = r.mapper.nextResolution.next))) := by
  cases he : e.reportMs with
  | none =>
    refine .inr ⟨by simp [published, he], .inl ⟨?_, ?_⟩⟩
    · rintro ⟨_, _, _, rfl, -⟩
      cases he
    · obtain ⟨profile, hcontrols, -⟩ := step_controls (p := p) r he hw.profile
      rw [show (step p r e).mapper = r.mapper from congrArg Prod.fst hcontrols]
  | some t =>
    have hpub : published p r e = (stepOf (step p r e).usb.desired).toList := by simp [published, he]
    cases hstep : stepOf (step p r e).usb.desired with
    | some resolution =>
      obtain ⟨source, hsource⟩ := step_publishes (by simp [he]) (eq_of_stepOf hstep)
      obtain ⟨hnext, hafter⟩ := publishes_cycle hw hc hsource
      refine .inl ⟨by rw [hpub, hstep, hnext]; rfl, ?_, hafter⟩
      obtain ⟨_, _, _, -, -, -, harmed, -⟩ := hsource
      rintro ⟨_, _, _, -, -, -, hrearm, -⟩
      exact Bool.noConfusion (harmed.symm.trans hrearm)
    | none =>
      have hnone : published p r e = [] := by rw [hpub, hstep]; rfl
      obtain ⟨bytes, rfl⟩ := Event.eq_report he
      exact .inr ⟨hnone, unpublished_report hw hc hnone⟩

/-- A run in which no report arms the receiver with a button of the cycle pressed publishes the cycle, from
the next step on. -/
theorem collect_published {es : List Event} (hw : Wired r)
    (h : Run.Always (step p) (fun s e => CycleOnly s.productionMapping ∧ ¬ ArmsCycling s e) r es) :
    Run.collect (step p) (published p) r es =
      List.iterate StepResolution.next r.mapper.nextResolution (Run.collect (step p) (published p) r es).length := by
  induction es generalizing r with
  | nil => rfl
  | cons e es ih =>
    have hrest := ih (step_wired r e hw) h.2
    rw [Run.collect_cons]
    rcases step_cycle (p := p) hw h.1.1 e with ⟨hpub, -, hnext⟩ | ⟨hpub, ⟨-, hnext⟩ | ⟨harms, -⟩⟩
    · rw [hpub, List.singleton_append, List.length_cons, List.iterate, ← hnext, ← hrest]
    · rw [hpub, List.nil_append, ← hnext]
      exact hrest
    · exact absurd harms h.1.2

/-- The steps that the run publishes are those of the cycle, in its order, from 0.01 on. -/
def CycleInOrder (p : Platform) (r : Receiver) (es : List Event) : Prop :=
  ∀ pre post, es = pre ++ post → Run.collect (step p) (published p) r pre =
    List.iterate StepResolution.next .mm001 (Run.collect (step p) (published p) r pre).length

/-- An event that publishes no step leaves the cycle where it is. -/
def KeepsCycle (p : Platform) (r : Receiver) (e : Event) : Prop :=
  published p r e = [] → (step p r e).mapper.nextResolution = r.mapper.nextResolution

theorem keepsCycle_iff (hw : Wired r) (hc : CycleOnly r.productionMapping) (e : Event) :
    KeepsCycle p r e ↔ ¬ ArmsCycling r e := by
  have hmoves : ∀ resolution : StepResolution, resolution.next ≠ resolution := by
    intro resolution
    cases resolution <;> decide
  unfold KeepsCycle
  rcases step_cycle (p := p) hw hc e with ⟨hpub, hno, -⟩ | ⟨hpub, ⟨hno, hnext⟩ | ⟨harms, hnext⟩⟩
  · exact iff_of_true (fun hnil => by rw [hpub] at hnil; cases hnil) hno
  · exact iff_of_true (fun _ => hnext) hno
  · refine iff_of_false (fun hkeep => ?_) (not_not.2 harms)
    exact hmoves _ (hnext.symm.trans (hkeep hpub))

/-- The step cycle under a mapping whose only step actions are those of the cycle: the published steps are
0.01, 0.10, 0.50, 1.00 and so on from the boot, and no event without a published step moves the cycle,
exactly in the runs in which no report arms the receiver with a button of the cycle pressed. -/
theorem cycle_in_order_iff (p : Platform) (flash : Flash) (reads : Option Flash) (es : List Event)
    (hc : Run.Always (step p) (fun r _ => CycleOnly r.productionMapping) (boot p flash reads) es) :
    (CycleInOrder p (boot p flash reads) es ∧ Run.Always (step p) (KeepsCycle p) (boot p flash reads) es) ↔
      Run.Always (step p) (fun r e => ¬ ArmsCycling r e) (boot p flash reads) es := by
  have hwired : Wired (boot p flash reads) := boot_wired flash reads
  constructor
  · rintro ⟨-, hkeep⟩
    exact Run.always_of_invariant (I := Wired) (fun s e hs _ => step_wired s e hs)
      (fun s e hs h => (keepsCycle_iff hs h.1 e).1 h.2) (hc.and hkeep) hwired
  · intro hno
    refine ⟨?_, ?_⟩
    · rintro pre post rfl
      exact collect_published hwired ((Run.always_append _ _ _ _).1 (hc.and hno)).1
    · exact Run.always_of_invariant (I := Wired) (fun s e hs _ => step_wired s e hs)
        (fun s e hs h => (keepsCycle_iff hs h.1 e).2 h.2) (hc.and hno) hwired

/-- A neutral report arms the receiver, and A is held for two reports and pressed again. -/
theorem cycle_in_order_pressed :
    let p := Platform.plain []
    (CycleInOrder p (boot p (fun _ => none) none) (facesPressed [0, 1, 1, 0, 1]) ∧
        Run.Always (step p) (KeepsCycle p) (boot p (fun _ => none) none) (facesPressed [0, 1, 1, 0, 1])) ↔
      Run.Always (step p) (fun r e => ¬ ArmsCycling r e) (boot p (fun _ => none) none) (facesPressed [0, 1, 1, 0, 1]) :=
  cycle_in_order_iff (Platform.plain []) (fun _ => none) none (facesPressed [0, 1, 1, 0, 1]) (by decide +kernel)

/-- The default mapping, and A held by the report that arms: the first step published is 0.10. -/
theorem cycle_skips :
    ¬ ∀ (p : Platform) (flash : Flash) (reads : Option Flash) (es : List Event),
      Run.Always (step p) (fun r _ => CycleOnly r.productionMapping) (boot p flash reads) es →
        CycleInOrder p (boot p flash reads) es := by
  intro h
  have horder := h (Platform.plain []) (fun _ => none) none (facesPressed [1, 0, 1]) (by decide +kernel) _ []
    (List.append_nil _).symm
  revert horder
  decide +kernel

end RedMonkeyMpg.Gamepad.Receiver
