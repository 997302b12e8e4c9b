/-
The sender's shadow of the host. The line alone is a small system: publishes of any report, the
device callbacks, and passes of the sender. Over its runs the shadow `sent` is the host's last
report as long as no mount change is lost on the sender while a key is held: no suspension that a
pass saw ends with the host still holding a key, and no unmount and mount fall between two passes
with a key sent. Each of the two losses alone makes the shadow wrong.
-/
import RedMonkeyMpg.Lib.Run
import RedMonkeyMpg.Usb.Line

namespace RedMonkeyMpg.UsbLine

/-- One step of the line. -/
inductive Op where
  | publish (report : KeyboardReport)
  | callback (cb : UsbCallback)
  | service (a : UsbAnswer)
  deriving DecidableEq

def step (l : UsbLine) : Op → UsbLine
  | .publish r => l.publish r
  | .callback cb => l.callback cb
  | .service a => (l.service a).line

/-- The law of one pass: if it sees the device mounted, the shadow after it is the host's last
report, and if it runs ready with nothing refused and no key wanted, the host holds no key. -/
def ShadowTrue (l : UsbLine) (a : UsbAnswer) : Prop :=
  l.keyboardMounted = true →
    (l.service a).line.sent = (l.service a).line.host ∧
      (a.hidReady = true → a.taken = true → (l.service a).line.desired = .release →
        (l.service a).line.host = .release)

/-- No mount change is lost on the sender while a key is held: a mount comes after a pass that saw
the unmount, or with no key sent; and a pass that finds the device usable again finds the host
holding no key. -/
def Seen (l : UsbLine) : Op → Prop
  | .callback .mount => l.tudMounted = false → l.wasMounted = true → l.sent = .release
  | .service _ => l.keyboardMounted = true → l.wasMounted = false → l.host = .release
  | _ => True

instance (l : UsbLine) : ∀ op, Decidable (Seen l op)
  | .publish _ => .isTrue trivial
  | .callback .mount => inferInstanceAs (Decidable (_ → _ → _))
  | .callback .umount => .isTrue trivial
  | .callback .suspend => .isTrue trivial
  | .callback .resume => .isTrue trivial
  | .service _ => inferInstanceAs (Decidable (_ → _ → _))

instance (l : UsbLine) (a : UsbAnswer) : Decidable (ShadowTrue l a) :=
  inferInstanceAs (Decidable (_ → _ ∧ (_ → _ → _ → _)))

/-! ## The shadow's invariant -/

/-- After a pass that saw the device mounted, the shadow is the host's last report until an
unmount, and the host holds nothing from there until a pass sees it. -/
def Shadowed (l : UsbLine) : Prop :=
  l.wasMounted = true → (l.tudMounted = true ∧ l.sent = l.host) ∨ (l.tudMounted = false ∧ l.host = .release)

theorem callback_shadowed {l : UsbLine} (cb : UsbCallback) (h : Shadowed l) (hs : Seen l (.callback cb)) :
    Shadowed (l.callback cb) := by
  cases cb with
  | mount =>
    intro hw
    rcases h hw with ⟨-, he⟩ | ⟨ht, hh⟩
    · exact .inl ⟨rfl, he⟩
    · exact .inl ⟨rfl, by simpa [callback, hh] using hs ht hw⟩
  | umount => exact fun _ => .inr ⟨rfl, rfl⟩
  | suspend => exact h
  | resume => exact h

theorem mounted_tudMounted {l : UsbLine} (h : l.keyboardMounted = true) : l.tudMounted = true :=
  (Bool.and_eq_true_iff.1 h).1

theorem service_shadowed {l : UsbLine} {a : UsbAnswer} (h : Shadowed l) (hs : Seen l (.service a)) :
    Shadowed (l.service a).line := by
  rcases service_cases l a with ⟨hm, he⟩ | ⟨-, -, he⟩ | ⟨-, hr, -, -, he⟩ | ⟨-, -, -, -, he⟩ <;> rw [he]
  · intro hw
    -- only here is the shadow written without a send: `Seen` says the host holds nothing
    have hmount : l.keyboardMounted = true := hw
    refine .inl ⟨mounted_tudMounted hmount, ?_⟩
    exact (hs hmount (by simpa [hmount] using hm)).symm
  · exact h
  · intro hw
    exact .inl ⟨mounted_tudMounted (Bool.and_eq_true_iff.1 hr).1, rfl⟩
  · exact h

/-- A pass leaves its sample of the device behind, and the device alone. -/
theorem service_sampled (l : UsbLine) (a : UsbAnswer) :
    (l.service a).line.wasMounted = l.keyboardMounted ∧ (l.service a).line.tudMounted = l.tudMounted := by
  rcases service_cases l a with ⟨-, he⟩ | ⟨hw, -, he⟩ | ⟨hw, -, -, -, he⟩ | ⟨hw, -, -, -, he⟩ <;> rw [he]
  · exact ⟨rfl, rfl⟩
  · exact ⟨hw.symm, rfl⟩
  · exact ⟨hw.symm, rfl⟩
  · exact ⟨hw.symm, rfl⟩

theorem service_keyboardMounted (l : UsbLine) (a : UsbAnswer) :
    (l.service a).line.keyboardMounted = l.keyboardMounted := by
  rcases service_cases l a with ⟨-, he⟩ | ⟨-, -, he⟩ | ⟨-, -, -, -, he⟩ | ⟨-, -, -, -, he⟩ <;> rw [he] <;> rfl

theorem step_shadowed (l : UsbLine) (op : Op) (h : Shadowed l) (hs : Seen l op) : Shadowed (l.step op) := by
  cases op with
  | publish r => exact h
  | callback cb => exact callback_shadowed cb h hs
  | service a => exact service_shadowed h hs

/-- A pass from a true shadow that loses no mount change keeps the law. -/
theorem shadowTrue_of_shadowed {l : UsbLine} {a : UsbAnswer} (h : Shadowed l) (hs : Seen l (.service a)) :
    ShadowTrue l a := by
  intro hm
  have hsent : (l.service a).line.sent = (l.service a).line.host := by
    obtain ⟨hw, ht⟩ := service_sampled l a
    rcases service_shadowed h hs (hw.trans hm) with ⟨-, he⟩ | ⟨hf, -⟩
    · exact he
    · rw [ht, mounted_tudMounted hm] at hf
      cases hf
  refine ⟨hsent, fun hr ht hd => ?_⟩
  rw [← hsent]
  have hready : l.keyboardReady a = true := by simp [keyboardReady, hm, hr]
  rcases service_cases l a with ⟨-, he⟩ | ⟨-, hi, he⟩ | ⟨-, -, hne, -, he⟩ | ⟨-, -, -, hno, -⟩
  · rw [he]
  · rw [he] at hd ⊢
    rcases hi with hi | hi
    · rw [hready] at hi
      cases hi
    · exact hi ▸ hd
  · rw [he] at hd ⊢
    simp only [nextReport, show l.desired = .release from hd, reportHasKey_release, Bool.and_false,
      Bool.false_eq_true, if_false]
  · rw [ht] at hno
    cases hno

/-! ## A receiver's line -/

/-- What an event of a receiver does to its line: a step of the line's own, or publishes. -/
def Performs (l l' : UsbLine) : Option Op → Prop
  | some op => l' = l.step op
  | none => Published l l'

theorem performs_shadowed {l l' : UsbLine} {op : Option Op} (h : Shadowed l) (hl : Performs l l' op)
    (hs : ∀ o ∈ op, Seen l o) : Shadowed l' := by
  cases op with
  | none =>
    obtain ⟨report, rfl⟩ := hl
    exact h
  | some op =>
    have hl' : l' = l.step op := hl
    rw [hl']
    exact step_shadowed l op h (hs op rfl)

/-- Over a run of a receiver that loses no mount change, every pass leaves a true shadow. -/
theorem shadow_run {σ ε : Type*} {step : σ → ε → σ} (usb : σ → UsbLine) {op : ε → Option Op}
    (hline : ∀ s e, Performs (usb s) (usb (step s e)) (op e)) {s : σ} {es : List ε} (hs : Shadowed (usb s))
    (hseen : Run.Always step (fun s e => ∀ o ∈ op e, Seen (usb s) o) s es) :
    Run.Always step (fun s e => ∀ a, op e = some (.service a) → ShadowTrue (usb s) a) s es :=
  Run.always_of_invariant (I := fun s => Shadowed (usb s))
    (fun s e h hse => performs_shadowed h (hline s e) hse)
    (fun _ _ h hse _ ha => shadowTrue_of_shadowed h (hse _ ha)) hseen hs

/-! ## The losses -/

/-- A pass that finds the device usable again while the host holds a key leaves a wrong shadow. -/
theorem shadow_lost_resume {l : UsbLine} (a : UsbAnswer) (hm : l.keyboardMounted = true)
    (hw : l.wasMounted = false) (hh : l.host ≠ .release) : ¬ ShadowTrue l a := by
  intro h
  have hs := (h hm).1
  rw [service_changed (by simp [hm, hw])] at hs
  exact hh hs.symm

/-- An unmount and a mount between two passes with a key sent leave a wrong shadow: a pass that
finds the interface busy keeps it. -/
theorem shadow_lost_remount {l : UsbLine} {a : UsbAnswer} (hw : l.wasMounted = true) (hs : l.sent ≠ .release) (ha : a.hidReady = false) :
    ¬ ShadowTrue ((l.callback .umount).callback .mount) a := by
  intro h
  have hmount : ((l.callback .umount).callback .mount).keyboardMounted = true := rfl
  have hsent := (h hmount).1
  rw [service_idle (by rw [hmount]; exact hw.symm) (.inl (by simp [keyboardReady, ha]))] at hsent
  exact hs hsent

end RedMonkeyMpg.UsbLine
