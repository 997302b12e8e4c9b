/-
Step selections of the iPhone receiver. A frame delivers a selection when its event number is new; the
mapper publishes its key when the frame is neutral and the command write before it delivered none; and
the status takes its value in any case. So the status shows the commanded resolution in exactly the
runs whose new selections are all published.
-/
import RedMonkeyMpg.Core.Selection
import RedMonkeyMpg.Input.Events
import RedMonkeyMpg.Mobile.Status

namespace RedMonkeyMpg

/-- A sample delivers one selection alone. -/
theorem GamepadState.discreteEvents_select {input : GamepadState} {resolution : StepResolution} :
    input.discreteEvents = [.select resolution] ↔
      input.selectResolution = true ∧ input.selectedResolution = resolution ∧ input.cancel = false := by
  unfold discreteEvents
  cases input.selectResolution <;> cases input.cancel <;> simp

namespace Mobile.Receiver

open ControlMapper (Live)

/-! ## The law -/

/-- The event is a command write of an accepted frame with this step selection, whose event number is
not the last one the session saw. -/
structure Selects (resolution : StepResolution) (r : Receiver) (e : UInt32 × Event) (buffer : List UInt8) :
    Prop where
  write : e.2.commandBuffer = some buffer
  accepted : r.session.accepts (buffer, e.1) = true
  event : eventByte buffer ≠ 0 ∧ DiscreteEvent.ofByte (eventByte buffer) = .select resolution
  new : r.session.lastEvent ≠ some (eventNumber buffer)

/-- The dead-man flag is clear and the direction 0. -/
def NeutralBuffer (buffer : List UInt8) : Prop := flagsByte buffer &&& 0x01 = 0 ∧ directionByte buffer = 0

/-- The event is an accepted frame that publishes the key of the resolution. -/
def PublishesStep (resolution : StepResolution) (r : Receiver) (e : UInt32 × Event) : Prop :=
  (∃ buffer frame, Accepts r e buffer frame) ∧ (r.step e).usb.desired = stepReport resolution

/-- The resolution field changes only with a published selection of its new value, and the status frame
has the value of the last published selection from the first one on. -/
structure Commanded (es : List (UInt32 × Event)) : Prop where
  changes : Run.Always step (fun r e => (r.step e).resolution ≠ r.resolution →
    ∃ resolution, PublishesStep resolution r e ∧ (r.step e).resolution = resolutionCode resolution) {} es
  reports : ∀ pre post resolution, es = pre ++ post →
    Run.Since step (fun r e => ∃ other, PublishesStep other r e) (PublishesStep resolution) {} pre →
    ∀ a, ((Run.exec step {} pre).statusFrame a).getD 6 0 = resolutionCode resolution

/-- The event delivers a selection of another value than the field's that the mapper does not publish:
the frame is not neutral, or the mapper still remembers a selection. -/
def Unheard (r : Receiver) (e : UInt32 × Event) : Prop :=
  ∃ resolution buffer, Selects resolution r e buffer ∧ resolutionCode resolution ≠ r.resolution ∧
    ¬ (NeutralBuffer buffer ∧ r.mapper.selectionButtonWasPressed = false)

/-- The event delivers a selection to the mapper: not a held direction under the neutral lock. -/
def Remembers (r : Receiver) (e : UInt32 × Event) : Prop :=
  ∃ resolution buffer, Selects resolution r e buffer ∧
    ¬ (r.neutralRequired = true ∧ flagsByte buffer &&& 0x01 ≠ 0 ∧ directionByte buffer ≠ 0)

/-! ## The selection of a frame -/

variable {r : Receiver} {e : UInt32 × Event} {buffer : List UInt8} {frame : MobileFrame}
  {resolution : StepResolution}

theorem accepts_session (h : Accepts r e buffer frame) : r.session.accepts (buffer, e.1) = true := by
  unfold MobileInputSession.accepts
  rw [h.2]
  rfl

/-- An accepted frame delivers its event when that is new, and nothing otherwise. -/
theorem Accepts.events (h : Accepts r e buffer frame) :
    ((eventByte buffer = 0 ∨ r.session.lastEvent = some (eventNumber buffer)) ∧
      frame.input.discreteEvents = []) ∨
    (eventByte buffer ≠ 0 ∧ r.session.lastEvent ≠ some (eventNumber buffer) ∧
      frame.input.discreteEvents = [DiscreteEvent.ofByte (eventByte buffer)]) := by
  obtain ⟨c, input, s', input', hbytes, hdir, hdel, hcon⟩ :=
    MobileInputSession.accepted_deliver (accepts_session h)
  obtain rfl : buffer = c.bytes := hbytes
  have hframe : frame.input = input' := by
    have hok := h.2
    rw [hcon] at hok
    obtain rfl := Except.ok.inj hok
    rfl
  rw [hframe]
  obtain ⟨-, hcan, hsel⟩ := MobileCommand.directed_sampled hdir
  rcases MobileInputSession.deliver_cases hsel hcan hdel with ⟨hold, rfl, -⟩ | ⟨h0, hnew, -, hev, -⟩
  · exact .inl ⟨hold, by simp [GamepadState.discreteEvents, hsel, hcan]⟩
  · exact .inr ⟨h0, hnew, hev⟩

/-- A delivered selection, on the frame the session makes of it. -/
theorem selects_iff :
    Selects resolution r e buffer ↔ ∃ frame, Accepts r e buffer frame ∧
      frame.input.selectResolution = true ∧ frame.input.selectedResolution = resolution := by
  constructor
  · rintro ⟨hwrite, hacc, ⟨h0, hof⟩, hnew⟩
    cases hres : (r.session.consume buffer e.1).2 with
    | error err => simp [MobileInputSession.accepts, hres, Except.isOk, Except.toBool] at hacc
    | ok frame =>
      have haccepts : Accepts r e buffer frame := ⟨hwrite, hres⟩
      rcases haccepts.events with ⟨hz | hold, -⟩ | ⟨-, -, hev⟩
      · exact absurd hz h0
      · exact absurd hold hnew
      · rw [hof] at hev
        obtain ⟨hsel, hval, -⟩ := GamepadState.discreteEvents_select.1 hev
        exact ⟨frame, haccepts, hsel, hval⟩
  · rintro ⟨frame, haccepts, hsel, rfl⟩
    rcases haccepts.events with ⟨-, hev⟩ | ⟨h0, hnew, hev⟩
    · simp [GamepadState.discreteEvents, hsel] at hev
    · refine ⟨haccepts.1, accepts_session haccepts, ⟨h0, ?_⟩, hnew⟩
      unfold GamepadState.discreteEvents at hev
      rw [if_pos hsel] at hev
      exact (List.cons.inj hev).1.symm

/-- A frame that selects does not cancel. -/
theorem Accepts.select_cancel (h : Accepts r e buffer frame) (hsel : frame.input.selectResolution = true) :
    frame.input.cancel = false := by
  rcases h.events with ⟨-, hev⟩ | ⟨-, -, hev⟩
  · simp [GamepadState.discreteEvents, hsel] at hev
  · cases hcan : frame.input.cancel with
    | false => rfl
    | true => simp [GamepadState.discreteEvents, hsel, hcan] at hev

theorem Accepts.centred (h : Accepts r e buffer frame) (h0 : directionByte buffer = 0) :
    MapperConfig.allCentered {} frame.input = true := by
  obtain ⟨c, rfl, -, hs⟩ := h.sampled
  rw [directionByte_bytes] at h0
  have haxis : ∀ axis, frame.input.axisValue axis = 0 := by
    intro axis
    rw [hs.axes, h0]
    cases axis <;> rfl
  have hx : frame.input.leftX = 0 := haxis .x
  have hy : frame.input.leftY = 0 := haxis .y
  have hz : frame.input.rightY = 0 := haxis .z
  unfold MapperConfig.allCentered
  rw [hx, hy, hz]
  decide

/-- The mapper selects on an accepted frame exactly when that is neutral and delivers a selection, and
no selection is remembered. -/
theorem accepted_selects_iff (hm : r.mapper.config = {}) (h : Accepts r e buffer frame) :
    r.mapper.selects (frame.input, e.1) = true ↔ frame.input.selectResolution = true ∧ NeutralBuffer buffer ∧
      r.mapper.selectionButtonWasPressed = false := by
  have hconnected : frame.input.connected = true := h.live.1
  have hfresh : r.mapper.config.stale frame.input e.1 = false := h.live.2
  have hdead : frame.input.deadman = false ↔ flagsByte buffer &&& 0x01 = 0 := by
    rw [h.deadman]
    simp
  have hcentre : r.mapper.config.allCentered frame.input = true ↔ directionByte buffer = 0 := by
    rw [hm]
    refine ⟨fun hc => ?_, h.centred⟩
    by_contra h0
    rw [h.off h0] at hc
    cases hc
  unfold ControlMapper.selects ControlMapper.neutral NeutralBuffer
  simp only [hconnected, hfresh, Bool.and_eq_true, Bool.not_eq_true', Bool.not_false, Bool.true_and, hdead,
    hcentre]
  constructor
  · rintro ⟨⟨⟨-, hflag⟩, h0⟩, hsel, hmem⟩
    exact ⟨hsel, ⟨hflag, h0⟩, hmem⟩
  · rintro ⟨hsel, ⟨hflag, h0⟩, hmem⟩
    exact ⟨⟨⟨h.select_cancel hsel, hflag⟩, h0⟩, hsel, hmem⟩

/-- The key of a selection is published exactly by a neutral frame that delivers it, with no selection
remembered. -/
theorem accepted_isStep (hm : r.mapper.config = {}) (h : Accepts r e buffer frame) :
    (r.step e).usb.desired = stepReport resolution ↔ frame.input.selectResolution = true ∧
      frame.input.selectedResolution = resolution ∧ NeutralBuffer buffer ∧
      r.mapper.selectionButtonWasPressed = false := by
  obtain ⟨-, -, hd⟩ := step_accepted h
  rcases hd with ⟨-, hheld, -, hrel, -⟩ | ⟨-, hpub, -⟩
  · refine iff_of_false (fun hkey => ?_) fun hsel => ?_
    · have hhas := stepReport_hasKey resolution
      rw [← hkey, hrel] at hhas
      simp at hhas
    · rw [h.deadman, hsel.2.2.1.1] at hheld
      cases hheld
  · have hcycles : r.mapper.cycles (frame.input, e.1) = false := by
      obtain ⟨c, rfl, -, hs⟩ := h.sampled
      simp [ControlMapper.cycles, hs.cycle]
    have hstep : (r.step e).usb.desired = massoG3KeyboardReport (r.mapper.update frame.input e.1).2 := hpub
    rw [hstep, update_isStep r.mapper (frame.input, e.1) resolution, hcycles, accepted_selects_iff hm h]
    simp only [Bool.false_eq_true, false_and, or_false]
    tauto

/-! ## The resolution field -/

@[simp] theorem emit_resolution (o : Output) : (r.emit o).resolution = r.resolution := rfl

@[simp] theorem requestStatusNotification_resolution :
    r.requestStatusNotification.resolution = r.resolution := by
  obtain ⟨o, h⟩ := r.requestStatusNotification_eq
  rw [h]

@[simp] theorem publishRelease_resolution : r.publishRelease.resolution = r.resolution := rfl

theorem failClosed_resolution (error : UInt8) (nowMs : UInt32) :
    (r.failClosed error nowMs).resolution = r.resolution := by
  simp [failClosed, resetMapper_eq]

/-- An accepted frame writes its delivered selection to the field, published or not. -/
theorem accept_resolution (r : Receiver) (frame : MobileFrame) (direction : UInt8) (nowMs : UInt32) :
    (r.accept frame direction nowMs).resolution =
      if frame.input.selectResolution then resolutionCode frame.input.selectedResolution else r.resolution := by
  have harmed : (r.armed frame direction nowMs).resolution =
      if frame.input.selectResolution then resolutionCode frame.input.selectedResolution else r.resolution := by
    have hgate : ((r.record frame direction nowMs).gateNeutral frame direction).resolution = r.resolution := by
      obtain ⟨active, hg⟩ := (r.record frame direction nowMs).gateNeutral_eq frame direction
      rw [hg]
      rfl
    have hselect : (((r.record frame direction nowMs).gateNeutral frame direction).selectResolution frame).resolution =
        if frame.input.selectResolution then resolutionCode frame.input.selectedResolution else r.resolution := by
      unfold selectResolution
      split
      · rfl
      · exact hgate
    unfold armed
    obtain ⟨active, hc⟩ := cancelEvent_eq
      (((r.record frame direction nowMs).gateNeutral frame direction).selectResolution frame) frame
    rw [hc]
    exact hselect
  rw [accept_eq]
  rcases drive_cases (r.armed frame direction nowMs) frame direction nowMs with ⟨-, -, -, h⟩ | ⟨-, h⟩ <;>
    rw [h] <;> simpa using harmed

theorem step_accepted_resolution (h : Accepts r e buffer frame) :
    (r.step e).resolution =
      if frame.input.selectResolution then resolutionCode frame.input.selectedResolution else r.resolution := by
  rw [step_commandWrite h.1, commandWrite_ok (r := r.silent) h.2]
  exact accept_resolution _ frame (buffer.getD 4 0) e.1

/-- No other event writes the field. -/
theorem step_other_resolution (h : ∀ buffer frame, ¬ Accepts r e buffer frame) :
    (r.step e).resolution = r.resolution := by
  cases hb : e.2.commandBuffer with
  | some buffer =>
    rw [step_commandWrite hb, commandWrite_error (r := r.silent) fun frame hf => h buffer frame ⟨hb, hf⟩]
    simp [reject, resetMapper_eq, silent]
  | none =>
    obtain ⟨nowMs, ev⟩ := e
    cases ev with
    | bluetooth b =>
      cases b with
      | write w =>
        have hw : w.commandBuffer = none := hb
        obtain ⟨notify, outputs, heq⟩ := writeCallback_other_eq (r := r.silent) hw nowMs
        have hfield : (r.silent.writeCallback w nowMs).resolution = r.silent.resolution := by rw [heq]
        exact hfield
      | connectionComplete handle => exact failClosed_resolution _ _
      | disconnectionComplete => exact failClosed_resolution _ _
      | canSendNow a =>
        simp only [step, bluetooth]
        split <;> rfl
    | usb cb => rfl
    | serviceUsbKeyboard a =>
      obtain ⟨usb, code, required, mapper, outputs, heq⟩ := r.silent.serviceUsbKeyboard_eq a nowMs
      have hfield : (r.silent.serviceUsbKeyboard a nowMs).resolution = r.silent.resolution := by rw [heq]
      exact hfield
    | serviceTimeout =>
      simp only [step, serviceTimeout]
      split
      · exact failClosed_resolution _ _
      · rfl

/-- The field after an event that selects nothing. -/
theorem step_unselected_resolution (h : ∀ resolution buffer, ¬ Selects resolution r e buffer) :
    (r.step e).resolution = r.resolution := by
  by_cases hacc : ∃ buffer frame, Accepts r e buffer frame
  · obtain ⟨buffer, frame, hacc⟩ := hacc
    rw [step_accepted_resolution hacc, if_neg]
    exact fun hsel => h _ buffer (selects_iff.2 ⟨frame, hacc, hsel, rfl⟩)
  · push Not at hacc
    exact step_other_resolution hacc

theorem Selects.field (h : Selects resolution r e buffer) : (r.step e).resolution = resolutionCode resolution := by
  obtain ⟨frame, hacc, hsel, rfl⟩ := selects_iff.1 h
  rw [step_accepted_resolution hacc, if_pos hsel]

/-- A selection is published exactly when its frame is neutral and no selection is remembered. -/
theorem Selects.published_iff (hm : r.mapper.config = {}) (h : Selects resolution r e buffer) :
    (r.step e).usb.desired = stepReport resolution ↔
      NeutralBuffer buffer ∧ r.mapper.selectionButtonWasPressed = false := by
  obtain ⟨frame, hacc, hsel, rfl⟩ := selects_iff.1 h
  rw [accepted_isStep hm hacc]
  exact ⟨fun hkey => hkey.2.2, fun hcond => ⟨hsel, rfl, hcond⟩⟩

/-- A published selection was delivered by its frame, and is in the field. -/
theorem PublishesStep.field (hm : r.mapper.config = {}) (h : PublishesStep resolution r e) :
    (r.step e).resolution = resolutionCode resolution := by
  obtain ⟨⟨buffer, frame, hacc⟩, hkey⟩ := h
  obtain ⟨hsel, rfl, -⟩ := (accepted_isStep hm hacc).1 hkey
  rw [step_accepted_resolution hacc, if_pos hsel]

/-! ## The field over a run -/

theorem resolutionCode_injective : Function.Injective resolutionCode := by
  intro a b
  cases a <;> cases b <;> decide

theorem statusFrame_resolution (r : Receiver) (a : UsbAnswer) : (r.statusFrame a).getD 6 0 = r.resolution := rfl

/-- A step changes the field to a published value, unless its selection is unheard. -/
theorem step_changes_iff (hm : r.mapper.config = {}) :
    ((r.step e).resolution ≠ r.resolution →
      ∃ resolution, PublishesStep resolution r e ∧ (r.step e).resolution = resolutionCode resolution) ↔
    ¬ Unheard r e := by
  constructor
  · rintro hchange ⟨resolution, buffer, hsel, hne, hno⟩
    obtain ⟨published, hpub, hfield⟩ := hchange (by rwa [hsel.field])
    rw [hsel.field] at hfield
    obtain rfl := resolutionCode_injective hfield
    exact hno ((hsel.published_iff hm).1 hpub.2)
  · intro hheard hchange
    by_cases hsel : ∃ resolution buffer, Selects resolution r e buffer
    · obtain ⟨resolution, buffer, hsel⟩ := hsel
      obtain ⟨frame, hacc, -⟩ := selects_iff.1 hsel
      refine ⟨resolution, ⟨⟨buffer, frame, hacc⟩, (hsel.published_iff hm).2 ?_⟩, hsel.field⟩
      by_contra hno
      exact hheard ⟨resolution, buffer, hsel, by rwa [← hsel.field], hno⟩
    · push Not at hsel
      exact absurd (step_unselected_resolution hsel) hchange

/-- Over every run from boot: the field is the commanded resolution exactly when every selection of
another value than the field's is published. -/
theorem commanded_iff (es : List (UInt32 × Event)) :
    Commanded es ↔ Run.Always step (fun r e => ¬ Unheard r e) {} es := by
  have hchanges : Run.Always step (fun r e => (r.step e).resolution ≠ r.resolution →
      ∃ resolution, PublishesStep resolution r e ∧ (r.step e).resolution = resolutionCode resolution) {} es ↔
      Run.Always step (fun r e => ¬ Unheard r e) {} es :=
    Run.always_congr (I := fun r => r.mapper.config = {}) (fun r e h _ => step_mapperConfig r e h)
      (fun _ _ => step_changes_iff) es rfl
  refine ⟨fun h => hchanges.1 h.changes, fun h => ⟨hchanges.2 h, ?_⟩⟩
  rintro pre post resolution rfl hsince a
  rw [statusFrame_resolution]
  have hall := hchanges.2 h
  rw [Run.always_append] at hall
  replace hall := hall.1
  revert hall
  refine Run.since_induct (motive := fun pre => Run.Always step (fun r e => (r.step e).resolution ≠ r.resolution →
    ∃ resolution, PublishesStep resolution r e ∧ (r.step e).resolution = resolutionCode resolution) {} pre →
      (Run.exec step {} pre).resolution = resolutionCode resolution) ?_ ?_ hsince
  · intro es e hpub _
    rw [Run.exec_concat]
    exact hpub.field (exec_mapperConfig es)
  · intro es e _ hno ih hall
    rw [Run.always_append] at hall
    rw [Run.exec_concat]
    by_contra hne
    obtain ⟨other, hpub, -⟩ := hall.2.1 fun hsame => hne (by rw [hsame, ih hall.1])
    exact hno ⟨other, hpub⟩

/-! ## Selections that are dropped -/

/-- An accepted frame leaves a selection remembered exactly when it delivers one to the mapper. -/
theorem accepted_memory (h : Accepts r e buffer frame) :
    (r.step e).mapper.selectionButtonWasPressed = true ↔ Remembers r e := by
  obtain ⟨hn, -, hd⟩ := step_accepted h
  have hunique : ∀ {other buffer'}, Selects other r e buffer' →
      buffer' = buffer ∧ frame.input.selectResolution = true := by
    intro other buffer' hsel
    obtain ⟨frame', h', hsel', -⟩ := selects_iff.1 hsel
    obtain rfl : buffer = buffer' := Option.some.inj (h.1.symm.trans h'.1)
    obtain rfl : frame = frame' := Except.ok.inj (h.2.symm.trans h'.2)
    exact ⟨rfl, hsel'⟩
  have hdead : frame.input.deadman = true ↔ flagsByte buffer &&& 0x01 ≠ 0 := by
    rw [h.deadman]
    simp
  rcases hd with ⟨hlock, hheld, hdir, -, hmap⟩ | ⟨hopen, -, hmap⟩
  · rw [hmap]
    refine iff_of_false Bool.false_ne_true ?_
    rintro ⟨other, buffer', hsel, hno⟩
    obtain ⟨rfl, hselect⟩ := hunique hsel
    rw [hn, h.select_cancel hselect, Bool.false_or, Bool.and_eq_true] at hlock
    exact hno ⟨hlock.1, hdead.1 hheld, hdir⟩
  · have hstep : (r.step e).mapper = ControlMapper.step r.mapper (frame.input, e.1) := hmap
    rw [hstep, (ControlMapper.step_buttons_live h.live).1]
    constructor
    · intro hselect
      refine ⟨_, buffer, selects_iff.2 ⟨frame, h, hselect, rfl⟩, ?_⟩
      rintro ⟨hlock, hflag, hdir⟩
      have hzero : (buffer.getD 4 0 == 0) = false := by simpa [directionByte] using hdir
      rw [hn, hlock, hdead.2 hflag, hzero] at hopen
      rcases hopen with hopen | hopen | hopen
      · simp at hopen
      · cases hopen
      · exact hdir hopen
    · rintro ⟨other, buffer', hsel, -⟩
      exact (hunique hsel).2

theorem step_memory_iff (r : Receiver) (e : UInt32 × Event) :
    (r.step e).mapper.selectionButtonWasPressed = true ↔
      Remembers r e ∨ r.mapper.selectionButtonWasPressed = true ∧ ¬ Disturbs r e := by
  have hnone : (∀ buffer frame, ¬ Accepts r e buffer frame) → ¬ Remembers r e := by
    rintro hno ⟨resolution, buffer, hsel, -⟩
    obtain ⟨frame, hacc, -⟩ := selects_iff.1 hsel
    exact hno buffer frame hacc
  have hclosed : Closed r (r.step e) → (r.step e).mapper.selectionButtonWasPressed = false := by
    intro hc
    rw [hc.mapper]
    rfl
  cases hb : e.2.commandBuffer with
  | some buffer =>
    have hdisturbs : Disturbs r e := .inl (by simp [hb])
    have hkept : ¬ (r.mapper.selectionButtonWasPressed = true ∧ ¬ Disturbs r e) := fun h => h.2 hdisturbs
    rw [or_iff_left hkept]
    by_cases hacc : ∃ frame, (r.session.consume buffer e.1).2 = .ok frame
    · obtain ⟨frame, hf⟩ := hacc
      exact accepted_memory ⟨hb, hf⟩
    · push Not at hacc
      refine iff_of_false (by simp [hclosed (step_rejected hb hacc)]) (hnone fun buffer' frame h => ?_)
      obtain rfl : buffer = buffer' := Option.some.inj (hb.symm.trans h.1)
      exact hacc frame h.2
  | none =>
    have hno : ¬ Remembers r e := hnone fun buffer frame h => by
      have hwrite := h.1
      rw [hb] at hwrite
      cases hwrite
    rw [or_iff_right hno]
    rcases step_other (r := r) hb with ⟨hf, hq⟩ | ⟨hf, hc⟩
    · have hquiet : ¬ Disturbs r e := by
        rintro (hd | hd)
        · exact hd hb
        · exact hf hd
      rw [hq.mapper]
      exact (and_iff_left hquiet).symm
    · exact iff_of_false (by simp [hclosed hc]) fun h => h.2 (.inr hf)

/-- The mapper remembers a selection exactly when the last command write delivered it one, and no
fault came since. -/
theorem selectionMemory_iff (es : List (UInt32 × Event)) :
    (Run.exec step {} es).mapper.selectionButtonWasPressed = true ↔ Run.Since step Disturbs Remembers {} es :=
  Run.latch_iff_since (fun r : Receiver => r.mapper.selectionButtonWasPressed = true) step_memory_iff es
    Bool.false_ne_true

/-- A neutral frame that delivers a selection publishes its key exactly when the command write before
it delivered none to the mapper, or a fault came in between. -/
theorem neutral_selection_iff (es : List (UInt32 × Event)) {e : UInt32 × Event} {resolution : StepResolution}
    {buffer : List UInt8} (h : Selects resolution (Run.exec step {} es) e buffer) (hn : NeutralBuffer buffer) :
    ((Run.exec step {} es).step e).usb.desired = stepReport resolution ↔
      ¬ Run.Since step Disturbs Remembers {} es := by
  rw [h.published_iff (exec_mapperConfig es), ← selectionMemory_iff, Bool.not_eq_true]
  exact ⟨fun hcond => hcond.2, fun hmem => ⟨hn, hmem⟩⟩

/-- A connect, and a neutral frame that selects 0.01. -/
def selected001 : List (UInt32 × Event) :=
  [(10, .bluetooth (.connectionComplete 64)), frameAt 20 { sequenceLow := 1, eventSequence := 1, event := 1 }]

/-- A neutral frame that selects 1.00, with the next event number. -/
def select100 : MobileCommand := { sequenceLow := 2, eventSequence := 2, event := 4 }

/-- Two selections in successive frames: the second is in the field, and its key is not published. -/
theorem commanded_successive : ¬ ∀ es, Commanded es := by
  intro h
  have hchanges := (h (selected001 ++ [frameAt 40 select100])).changes
  rw [Run.always_append] at hchanges
  obtain ⟨resolution, hpub, -⟩ := hchanges.2.1 (by decide +kernel)
  have hrelease : ((Run.exec step {} selected001).step (frameAt 40 select100)).usb.desired = .release := by
    decide +kernel
  have hkey := hpub.2
  rw [hrelease] at hkey
  revert hkey
  cases resolution <;> decide

theorem neutral_selection_successive :
    ¬ ∀ (es : List (UInt32 × Event)) (e : UInt32 × Event) (resolution : StepResolution) (buffer : List UInt8),
      Selects resolution (Run.exec step {} es) e buffer → NeutralBuffer buffer →
      ((Run.exec step {} es).step e).usb.desired = stepReport resolution := by
  intro h
  have hkey := h selected001 (frameAt 40 select100) .mm100 select100.sealed.bytes
    ⟨rfl, by decide +kernel, by decide, by decide +kernel⟩ ⟨rfl, rfl⟩
  revert hkey
  decide +kernel

/-- The same two selections with a frame without an event between them. -/
theorem neutral_selection_spaced :
    ((Run.exec step {} (selected001 ++ [frameAt 30 { sequenceLow := 2 }])).step
        (frameAt 40 { select100 with sequenceLow := 3 })).usb.desired = stepReport .mm100 ↔
      ¬ Run.Since step Disturbs Remembers {} (selected001 ++ [frameAt 30 { sequenceLow := 2 }]) := by
  have hselects : Selects .mm100 (Run.exec step {} (selected001 ++ [frameAt 30 { sequenceLow := 2 }]))
      (frameAt 40 { select100 with sequenceLow := 3 })
      (MobileCommand.bytes (MobileCommand.sealed { select100 with sequenceLow := 3 })) :=
    ⟨rfl, by decide +kernel, by decide, by decide +kernel⟩
  exact neutral_selection_iff _ hselects ⟨rfl, rfl⟩

end Mobile.Receiver

end RedMonkeyMpg
