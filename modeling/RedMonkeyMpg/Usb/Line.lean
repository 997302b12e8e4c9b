/-
The USB keyboard line: the device state TinyUSB's callbacks write, the sender both receivers run
over it, and the host at the other end. `host` is no variable of the firmware: it is the last
report the host took since the last unmount, and so the keys the host holds. Suspend counts as not
mounted for the sender, and leaves the host's keys alone.
-/
import RedMonkeyMpg.Core.Keyboard

namespace RedMonkeyMpg

structure UsbLine where
  tudMounted : Bool := false
  usbSuspended : Bool := false
  wasMounted : Bool := false
  desired : KeyboardReport := .release
  sent : KeyboardReport := .release
  host : KeyboardReport := .release
  deriving DecidableEq

/-- The TinyUSB callbacks that run inside the USB task. -/
inductive UsbCallback where
  | mount
  | umount
  | suspend
  | resume
  deriving DecidableEq, Repr

/-- What TinyUSB answers in one pass: `tud_hid_ready`, and whether it takes a report. -/
structure UsbAnswer where
  hidReady : Bool := true
  taken : Bool := true
  deriving DecidableEq, Repr

namespace UsbLine

/-! ## The device -/

/-- `red_monkey_mpg_usb_keyboard_mounted`. -/
def keyboardMounted (l : UsbLine) : Bool := l.tudMounted && !l.usbSuspended

/-- `red_monkey_mpg_usb_keyboard_ready`. -/
def keyboardReady (l : UsbLine) (a : UsbAnswer) : Bool := l.keyboardMounted && a.hidReady

/-- `red_monkey_mpg_usb_keyboard_send`: its result, and the host after it. -/
def keyboardSend (l : UsbLine) (a : UsbAnswer) (report : KeyboardReport) : Bool × UsbLine :=
  if l.keyboardReady a && a.taken then (true, { l with host := report }) else (false, l)

/-- `tud_mount_cb`, `tud_umount_cb`, `tud_suspend_cb` and `tud_resume_cb`. An unmount clears the
host's keys. -/
def callback (l : UsbLine) : UsbCallback → UsbLine
  | .mount => { l with tudMounted := true, usbSuspended := false }
  | .umount => { l with tudMounted := false, usbSuspended := false, host := .release }
  | .suspend => { l with usbSuspended := true }
  | .resume => { l with usbSuspended := false }

/-! ## The sender -/

/-- `publish_report`. -/
def publish (l : UsbLine) (report : KeyboardReport) : UsbLine := { l with desired := report }

/-- `publish_release`. -/
def publishRelease (l : UsbLine) : UsbLine := l.publish .release

/-- The line after any number of publishes: its desired report may differ, and nothing else. -/
def Published (l l' : UsbLine) : Prop := ∃ report, l' = l.publish report

/-- One pass of the sender: the line after it, the report it handed to
`red_monkey_mpg_usb_keyboard_send`, if any, and whether it met a fault, a mount change or a refused
report. -/
structure Served where
  line : UsbLine
  offered : Option KeyboardReport := none
  fault : Bool := false
  deriving DecidableEq

/-- The mount change at the head of a pass. -/
def sampleMounted (l : UsbLine) : UsbLine :=
  if l.keyboardMounted != l.wasMounted then
    -- the shadow is cleared although a suspension leaves the host its keys
    { l.publishRelease with sent := .release, wasMounted := l.keyboardMounted }
  else l

/-- The report a pass sends towards the desired one: all keys up between two different keys. -/
def nextReport (l : UsbLine) : KeyboardReport :=
  if reportHasKey l.sent && reportHasKey l.desired then .release else l.desired

/-- The part of `service_usb_keyboard` that both receivers share. -/
def service (l : UsbLine) (a : UsbAnswer) : Served :=
  let changed := l.keyboardMounted != l.wasMounted
  let l := l.sampleMounted
  if !l.keyboardReady a then { line := l, fault := changed }
  else if l.desired = l.sent then { line := l, fault := changed }
  else
    match l.keyboardSend a l.nextReport with
    | (true, l') => { line := { l' with sent := l.nextReport }, offered := some l.nextReport, fault := changed }
    | (false, l') => { line := l'.publishRelease, offered := some l.nextReport, fault := true }

/-! ## One pass, case by case -/

section Passes

variable {l : UsbLine} {a : UsbAnswer}

@[simp] theorem publish_desired (r : KeyboardReport) : (l.publish r).desired = r := rfl

@[simp] theorem publishRelease_desired : l.publishRelease.desired = .release := rfl

@[simp] theorem publish_keyboardMounted (r : KeyboardReport) :
    (l.publish r).keyboardMounted = l.keyboardMounted := rfl

theorem Published.of_eq {l' : UsbLine} (h : l' = l) : Published l l' := ⟨l.desired, h⟩

theorem Published.release : Published l l.publishRelease := ⟨.release, rfl⟩

theorem Published.trans {l' l'' : UsbLine} (h : Published l l') (h' : Published l' l'') : Published l l'' := by
  obtain ⟨a, rfl⟩ := h
  obtain ⟨b, rfl⟩ := h'
  exact ⟨b, rfl⟩

theorem sampleMounted_same (h : l.keyboardMounted = l.wasMounted) : l.sampleMounted = l := by
  simp [sampleMounted, h]

theorem sampleMounted_changed (h : l.keyboardMounted ≠ l.wasMounted) :
    l.sampleMounted = { l.publishRelease with sent := .release, wasMounted := l.keyboardMounted } := by
  simp [sampleMounted, h]

/-- A pass that sees the mounted state change publishes a release and sends nothing. -/
theorem service_changed (h : l.keyboardMounted ≠ l.wasMounted) :
    l.service a =
      { line := { l.publishRelease with sent := .release, wasMounted := l.keyboardMounted }, fault := true } := by
  unfold service
  rw [sampleMounted_changed h]
  simp [h, publishRelease]

/-- A pass with the device not ready, or with nothing new to send, does nothing. -/
theorem service_idle (h : l.keyboardMounted = l.wasMounted)
    (hi : l.keyboardReady a = false ∨ l.desired = l.sent) : l.service a = { line := l } := by
  unfold service
  rw [sampleMounted_same h]
  rcases hi with hi | hi <;> simp [h, hi]

theorem service_taken (h : l.keyboardMounted = l.wasMounted) (hr : l.keyboardReady a = true)
    (hd : l.desired ≠ l.sent) (ht : a.taken = true) :
    l.service a =
      { line := { l with host := l.nextReport, sent := l.nextReport }, offered := some l.nextReport } := by
  unfold service
  rw [sampleMounted_same h]
  simp [h, hr, hd, keyboardSend, ht]

theorem service_refused (h : l.keyboardMounted = l.wasMounted) (hr : l.keyboardReady a = true)
    (hd : l.desired ≠ l.sent) (ht : a.taken = false) :
    l.service a = { line := l.publishRelease, offered := some l.nextReport, fault := true } := by
  unfold service
  rw [sampleMounted_same h]
  simp [hr, hd, keyboardSend, ht]

/-- Everything a pass can do. -/
theorem service_cases (l : UsbLine) (a : UsbAnswer) :
    (l.keyboardMounted ≠ l.wasMounted ∧
      l.service a =
        { line := { l.publishRelease with sent := .release, wasMounted := l.keyboardMounted }, fault := true }) ∨
    (l.keyboardMounted = l.wasMounted ∧ (l.keyboardReady a = false ∨ l.desired = l.sent) ∧
      l.service a = { line := l }) ∨
    (l.keyboardMounted = l.wasMounted ∧ l.keyboardReady a = true ∧ l.desired ≠ l.sent ∧ a.taken = true ∧
      l.service a =
        { line := { l with host := l.nextReport, sent := l.nextReport }, offered := some l.nextReport }) ∨
    (l.keyboardMounted = l.wasMounted ∧ l.keyboardReady a = true ∧ l.desired ≠ l.sent ∧ a.taken = false ∧
      l.service a = { line := l.publishRelease, offered := some l.nextReport, fault := true }) := by
  by_cases h : l.keyboardMounted = l.wasMounted
  · by_cases hi : l.keyboardReady a = false ∨ l.desired = l.sent
    · exact .inr (.inl ⟨h, hi, service_idle h hi⟩)
    · simp only [not_or, Bool.not_eq_false] at hi
      cases ht : a.taken with
      | true => exact .inr (.inr (.inl ⟨h, hi.1, hi.2, rfl, service_taken h hi.1 hi.2 ht⟩))
      | false => exact .inr (.inr (.inr ⟨h, hi.1, hi.2, rfl, service_refused h hi.1 hi.2 ht⟩))
  · exact .inl ⟨h, service_changed h⟩

/-- A pass leaves the desired report alone, or meets a fault and publishes a release. -/
theorem service_desired (l : UsbLine) (a : UsbAnswer) :
    ((l.service a).fault = false ∧ (l.service a).line.desired = l.desired) ∨
      ((l.service a).fault = true ∧ (l.service a).line.desired = .release) := by
  rcases service_cases l a with ⟨-, h⟩ | ⟨-, -, h⟩ | ⟨-, -, -, -, h⟩ | ⟨-, -, -, -, h⟩ <;> rw [h]
  · exact .inr ⟨rfl, rfl⟩
  · exact .inl ⟨rfl, rfl⟩
  · exact .inl ⟨rfl, rfl⟩
  · exact .inr ⟨rfl, rfl⟩

/-- The faults of a pass: a mount change, and a report that is due and refused. -/
theorem service_fault_iff (l : UsbLine) (a : UsbAnswer) :
    (l.service a).fault = true ↔ l.keyboardMounted ≠ l.wasMounted ∨
      l.keyboardReady a = true ∧ l.desired ≠ l.sent ∧ a.taken = false := by
  rcases service_cases l a with ⟨hm, h⟩ | ⟨hm, hi, h⟩ | ⟨hm, -, -, ht, h⟩ | ⟨-, hr, hd, ht, h⟩ <;> rw [h]
  · exact iff_of_true rfl (.inl hm)
  · refine iff_of_false Bool.false_ne_true ?_
    rintro (hne | ⟨hr, hd, -⟩)
    · exact hne hm
    · rcases hi with hi | hi
      · rw [hr] at hi
        cases hi
      · exact hd hi
  · refine iff_of_false Bool.false_ne_true ?_
    rintro (hne | ⟨-, -, hno⟩)
    · exact hne hm
    · rw [ht] at hno
      cases hno
  · exact iff_of_true rfl (.inr ⟨hr, hd, ht⟩)

/-- A key is offered only as the desired report, by a pass that sees no mount change, finds the
interface ready and no key sent. -/
theorem service_offered_key {r : KeyboardReport} (h : (l.service a).offered = some r)
    (hk : reportHasKey r = true) :
    r = l.desired ∧ l.keyboardReady a = true ∧ l.keyboardMounted = l.wasMounted ∧
      reportHasKey l.sent = false := by
  have hnext : l.nextReport = r → r = l.desired ∧ reportHasKey l.sent = false := by
    rintro rfl
    unfold nextReport at hk ⊢
    split at hk
    · simp at hk
    · rename_i hn
      rw [if_neg hn]
      refine ⟨rfl, ?_⟩
      simpa [hk] using hn
  rcases service_cases l a with ⟨-, hs⟩ | ⟨-, -, hs⟩ | ⟨hm, hr, -, -, hs⟩ | ⟨hm, hr, -, -, hs⟩ <;> rw [hs] at h
  · cases h
  · cases h
  · obtain ⟨he, hsent⟩ := hnext (Option.some.inj h)
    exact ⟨he, hr, hm, hsent⟩
  · obtain ⟨he, hsent⟩ := hnext (Option.some.inj h)
    exact ⟨he, hr, hm, hsent⟩

/-- The pass finds a key wanted and none sent, on a line that is up and ready. -/
def keyPending (l : UsbLine) (a : UsbAnswer) : Bool :=
  l.wasMounted && l.keyboardReady a && reportHasKey l.desired && !reportHasKey l.sent

theorem keyboardReady_mounted (h : l.keyboardReady a = true) : l.keyboardMounted = true :=
  (Bool.and_eq_true_iff.1 h).1

/-- A key is offered exactly when one is pending. -/
theorem offered_key_iff : (l.service a).offered.any reportHasKey = true ↔ l.keyPending a = true := by
  constructor
  · intro h
    obtain ⟨r, hr, hk⟩ := (Option.any_eq_true _ _).1 h
    obtain ⟨rfl, hready, hm, hs⟩ := service_offered_key hr hk
    simp [keyPending, hready, ← hm, keyboardReady_mounted hready, hk, hs]
  · intro h
    simp only [keyPending, Bool.and_eq_true, Bool.not_eq_true'] at h
    obtain ⟨⟨⟨hw, hr⟩, hk⟩, hs⟩ := h
    have hne : l.desired ≠ l.sent := by
      intro he
      rw [he, hs] at hk
      cases hk
    have hnext : l.nextReport = l.desired := by simp [nextReport, hs]
    have hm : l.keyboardMounted = l.wasMounted := by rw [hw, keyboardReady_mounted hr]
    cases ht : a.taken with
    | true => simp [service_taken hm hr hne ht, hnext, hk]
    | false => simp [service_refused hm hr hne ht, hnext, hk]

end Passes

end UsbLine

end RedMonkeyMpg
