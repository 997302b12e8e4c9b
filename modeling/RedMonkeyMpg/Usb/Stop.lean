/-
Stopping, end to end. A property of all keys up and of every report that is wanted reaches the host:
the first pass that finds the device ready and has its report taken leaves the host with it, and the
host keeps it. For the jog keys this says that letting go of the dead-man stops the machine: after a
report or a frame without it, or a fault, the host holds no jog key from such a pass on, until the
dead-man is held again. The shadow has to be true for it, so no mount change may be lost.
-/
import RedMonkeyMpg.Mobile.Bench
import RedMonkeyMpg.Usb.Delivery

namespace RedMonkeyMpg

open UsbLine

namespace LineSystem

variable {σ ε : Type} {g : LineSystem σ ε}

/-- The event is a pass that samples no mount change, finds the interface ready and has its report taken. -/
def Works (g : LineSystem σ ε) (s : σ) (e : ε) : Prop :=
  ∃ a, g.lineOp e = some (.service a) ∧ (g.usb s).keyboardMounted = (g.usb s).wasMounted ∧
    (g.usb s).keyboardReady a = true ∧ a.taken = true

section Reach

variable {P : KeyboardReport → Prop} (hrelease : P .release)
include hrelease

theorem next_reaches {l : UsbLine} (h : P l.desired) : P l.nextReport := by
  unfold nextReport
  split
  · exact hrelease
  · exact h

/-- What the host has it keeps, as long as only such reports are wanted. -/
theorem step_host {s : σ} {e : ε} (hdesired : P (g.usb s).desired) (h : P (g.usb s).host) : P (g.usb (g.step s e)).host := by
  have hline := g.line s e
  cases hop : g.lineOp e with
  | none =>
    rw [hop] at hline
    obtain ⟨report, hpub⟩ := hline
    rw [hpub]
    exact h
  | some op =>
    rw [hop] at hline
    have husb : g.usb (g.step s e) = (g.usb s).step op := hline
    rw [husb]
    cases op with
    | publish report => exact h
    | callback cb =>
      cases cb with
      | umount => exact hrelease
      | mount => exact h
      | suspend => exact h
      | resume => exact h
    | service a =>
      show P ((g.usb s).service a).line.host
      rcases service_cases (g.usb s) a with ⟨-, hs⟩ | ⟨-, -, hs⟩ | ⟨-, -, -, -, hs⟩ | ⟨-, -, -, -, hs⟩ <;> rw [hs]
      · exact h
      · exact h
      · exact next_reaches hrelease hdesired
      · exact h

/-- A working pass over a true shadow brings it to the host. -/
theorem works_host {s : σ} {e : ε} (hshadow : Shadowed (g.usb s)) (hdesired : P (g.usb s).desired) (hw : g.Works s e) :
    P (g.usb (g.step s e)).host := by
  obtain ⟨a, hop, hsame, hready, htaken⟩ := hw
  have hmounted := keyboardReady_mounted hready
  rw [usb_service hop]
  by_cases hd : (g.usb s).desired = (g.usb s).sent
  · -- nothing is sent: what was sent is what the host holds
    rw [service_idle hsame (.inr hd)]
    rcases hshadow (hsame ▸ hmounted) with ⟨-, hhost⟩ | ⟨hno, -⟩
    · show P (g.usb s).host
      rw [← hhost, ← hd]
      exact hdesired
    · rw [mounted_tudMounted hmounted] at hno
      cases hno
  · rw [service_taken hsame hready hd htaken]
    exact next_reaches hrelease hdesired

/-- In a run that loses no mount change and wants only such reports, the host has one from the first working
pass on. -/
theorem reaches_host {s : σ} {es : List ε} (hshadow : Shadowed (g.usb s))
    (hseen : Run.Always g.step (fun s e => ∀ op ∈ g.lineOp e, Seen (g.usb s) op) s es)
    (hwanted : ∀ pre post, es = pre ++ post → P (g.usb (Run.exec g.step s pre)).desired)
    (hworks : ∃ pre e post, es = pre ++ e :: post ∧ g.Works (Run.exec g.step s pre) e) :
    P (g.usb (Run.exec g.step s es)).host := by
  obtain ⟨pre, e, post, rfl, hw⟩ := hworks
  have hpre : Shadowed (g.usb (Run.exec g.step s pre)) :=
    Run.invariant (I := fun t => Shadowed (g.usb t)) (fun t f ht hf => performs_shadowed ht (g.line t f) hf)
      ((Run.always_append _ _ _ _).1 hseen).1 hshadow
  have hreached : P (g.usb (Run.exec g.step s (pre ++ [e]))).host := by
    rw [Run.exec_concat]
    exact works_host hrelease hpre (hwanted pre _ rfl) hw
  have hkept : ∀ mid rest, post = mid ++ rest → P (g.usb (Run.exec g.step s (pre ++ e :: mid))).host := by
    intro mid
    induction mid using List.reverseRecOn with
    | nil => exact fun _ _ => hreached
    | append_singleton mid f ih =>
      intro rest hsplit
      have hsplit' : post = mid ++ f :: rest := by rw [hsplit, List.append_assoc, List.singleton_append]
      have hsnoc : pre ++ e :: (mid ++ [f]) = (pre ++ e :: mid) ++ [f] := by simp
      rw [hsnoc, Run.exec_concat]
      apply step_host hrelease
      · exact hwanted (pre ++ e :: mid) (f :: rest) (by rw [hsplit']; simp)
      · exact ih _ hsplit'
  exact hkept post [] (List.append_nil _).symm

end Reach

/-- Stopping, from a start: in every run that loses no mount change, an event lets go of a jog, none after it
holds one, and a working pass follows; then the host holds no jog key. -/
def Stops (g : LineSystem σ ε) (letsGo held : σ → ε → Prop) (s : σ) : Prop :=
  ∀ before e after, Run.Always g.step (fun t f => ∀ op ∈ g.lineOp f, Seen (g.usb t) op) s (before ++ e :: after) →
    letsGo (Run.exec g.step s before) e →
    Run.Always g.step (fun t f => ¬ held t f) (Run.exec g.step s (before ++ [e])) after →
    (∃ pre f post, after = pre ++ f :: post ∧ g.Works (Run.exec g.step s (before ++ e :: pre)) f) →
    (g.usb (Run.exec g.step s (before ++ e :: after))).host.isJog = false

/-- A jog that is wanted after an event without the dead-man was wanted before it, and the event did not disturb it. -/
theorem stops {letsGo held disturbs : σ → ε → Prop} {I : σ → Prop} (hI : ∀ s e, I s → I (g.step s e))
    (hgo : ∀ s e, letsGo s e → disturbs s e ∧ ¬ held s e)
    (hreleased : ∀ s e, I s → ¬ held s e → (g.usb (g.step s e)).desired.isJog = true →
      (g.usb s).desired.isJog = true ∧ ¬ disturbs s e)
    {s : σ} (hs : I s) (hshadow : Shadowed (g.usb s)) : g.Stops letsGo held s := by
  intro before e after hseen hlets hquiet hworks
  obtain ⟨hdisturbs, hheld⟩ := hgo _ _ hlets
  have hsplit : ∀ mid, Run.exec g.step s (before ++ e :: mid) = Run.exec g.step (Run.exec g.step s (before ++ [e])) mid :=
    fun mid => by simp
  have hinv : ∀ es, I (Run.exec g.step s es) := fun es => Run.invariant_all hI es hs
  -- the event leaves no jog wanted, and none comes after it
  have hstart : (g.usb (Run.exec g.step s (before ++ [e]))).desired.isJog = false := by
    rw [← Bool.not_eq_true, Run.exec_concat]
    intro hjog
    exact (hreleased _ _ (hinv before) hheld hjog).2 hdisturbs
  have hwanted : ∀ pre post, after = pre ++ post →
      (g.usb (Run.exec g.step (Run.exec g.step s (before ++ [e])) pre)).desired.isJog = false := by
    intro pre post hafter
    rw [hafter, Run.always_append] at hquiet
    refine (Run.invariant (I := fun t => I t ∧ (g.usb t).desired.isJog = false) ?_ hquiet.1 ⟨hinv _, hstart⟩).2
    rintro t f ⟨ht, hno⟩ hf
    refine ⟨hI t f ht, ?_⟩
    rw [← Bool.not_eq_true]
    intro hjog
    rw [(hreleased t f ht hf hjog).1] at hno
    cases hno
  have hseen' : Run.Always g.step (fun t f => ∀ op ∈ g.lineOp f, Seen (g.usb t) op) s ((before ++ [e]) ++ after) := by
    rw [List.append_assoc, List.singleton_append]
    exact hseen
  rw [Run.always_append] at hseen'
  rw [hsplit]
  apply reaches_host (P := fun report => report.isJog = false) release_notJog
  · exact Run.invariant (I := fun t => Shadowed (g.usb t)) (fun t f ht hf => performs_shadowed ht (g.line t f) hf) hseen'.1 hshadow
  · exact hseen'.2
  · exact hwanted
  · obtain ⟨pre, f, post, hafter, hw⟩ := hworks
    rw [hsplit] at hw
    exact ⟨pre, f, post, hafter, hw⟩

end LineSystem

/-! ## The gamepad receiver -/

namespace Gamepad.Receiver

variable {p : Platform}

/-- The event is a report that parses, and is mapped with the dead-man held. -/
def Held (r : Receiver) (e : Event) : Prop :=
  ∃ bytes nowMs raw, e = .bluetooth (.report bytes nowMs) ∧ r.parseReport bytes nowMs = some raw ∧
    (r.mapped raw).deadman = true

/-- After an event without the dead-man no jog is wanted that was not before. -/
theorem step_released {r : Receiver} {e : Event} (hheld : ¬ Held r e) (h : (step p r e).usb.desired.isJog = true) :
    r.usb.desired.isJog = true ∧ ¬ Disturbs r e := by
  have hkey := Mobile.isJog_key h
  rcases step_key (p := p) hkey r e rfl with ⟨bytes, nowMs, raw, rfl, hp, -, -, hjog, -⟩ | ⟨hd, hno⟩
  · exact absurd ⟨bytes, nowMs, raw, rfl, hp, (hjog h).1⟩ hheld
  · rw [← hd] at h
    exact ⟨h, hno⟩

/-- The event lets go: a report without the dead-man, or a fault. -/
def LetsGo (r : Receiver) (e : Event) : Prop := Disturbs r e ∧ ¬ Held r e

end Gamepad.Receiver

/-! ## The iPhone receiver -/

namespace Mobile.Receiver

/-- The event is an accepted frame with the dead-man flag set and a direction. -/
def Held (r : Receiver) (e : UInt32 × Event) : Prop :=
  ∃ buffer frame, Accepts r e buffer frame ∧ flagsByte buffer &&& 0x01 ≠ 0 ∧ directionByte buffer ≠ 0

theorem step_released {r : Receiver} {e : UInt32 × Event} (hm : r.mapper.config = {}) (hheld : ¬ Held r e)
    (h : (r.step e).usb.desired.isJog = true) : r.usb.desired.isJog = true ∧ ¬ Disturbs r e := by
  rcases step_jog h r e hm rfl with ⟨buffer, frame, hacc, hflag, -, hlo, -⟩ | ⟨hd, hno⟩
  · refine absurd ⟨buffer, frame, hacc, hflag, ?_⟩ hheld
    intro hzero
    rw [hzero] at hlo
    exact absurd hlo (by decide)
  · rw [← hd] at h
    exact ⟨h, hno⟩

/-- The event lets go: a command write other than an accepted one with the dead-man and a direction, or a fault. -/
def LetsGo (r : Receiver) (e : UInt32 × Event) : Prop := Disturbs r e ∧ ¬ Held r e

end Mobile.Receiver

/-! ## Both receivers -/

/-- Letting go stops the machine: after it, and until the dead-man is held again, the host holds no jog key from
the first working pass on. -/
theorem stop_reaches_host (p : Gamepad.Platform) (flash : Flash) (reads : Option Flash) :
    (Gamepad.Receiver.lineSystem p).Stops Gamepad.Receiver.LetsGo Gamepad.Receiver.Held (Gamepad.Receiver.boot p flash reads) ∧
      Mobile.Receiver.lineSystem.Stops Mobile.Receiver.LetsGo Mobile.Receiver.Held {} := by
  constructor
  · exact LineSystem.stops (I := fun _ => True) (fun _ _ _ => trivial) (fun _ _ h => h)
      (fun _ _ _ hheld hjog => Gamepad.Receiver.step_released hheld hjog) trivial (fun h => by cases h)
  · exact LineSystem.stops (I := fun r => r.mapper.config = {}) Mobile.Receiver.step_mapperConfig (fun _ _ h => h)
      (fun _ _ hm hheld hjog => Mobile.Receiver.step_released hm hheld hjog) rfl (fun h => by cases h)

/-- The dead-man is let go with the stick still at the left. -/
def letGo : Gamepad.Receiver.Event := .bluetooth (.report (Gamepad.Receiver.lite2Report 0x00 0) 30)

/-- A jog that the host holds is stopped: by letting go on the gamepad, and by losing the iPhone. -/
theorem stop_reaches_host_held :
    ((Run.exec (Gamepad.Receiver.step (.plain [])) (Gamepad.Receiver.boot (.plain []) (fun _ => none) none)
          gamepadHeld).usb.host.isJog = true ∧
        (Run.exec (Gamepad.Receiver.step (.plain [])) (Gamepad.Receiver.boot (.plain []) (fun _ => none) none)
          (gamepadHeld ++ letGo :: [.serviceStaleInput 40, .serviceUsbKeyboard {}])).usb.host.isJog = false) ∧
      (Run.exec Mobile.Receiver.step {} mobileHeld).usb.host.isJog = true ∧
        (Run.exec Mobile.Receiver.step {}
          (mobileHeld ++ (60, .bluetooth .disconnectionComplete) :: [(70, .serviceUsbKeyboard {})])).usb.host.isJog = false := by
  obtain ⟨hgamepad, hmobile⟩ := stop_reaches_host (.plain []) (fun _ => none) none
  dsimp only [LineSystem.Stops, Gamepad.Receiver.lineSystem, Mobile.Receiver.lineSystem] at hgamepad hmobile
  constructor
  · have hseen : Run.Always (Gamepad.Receiver.step (.plain [])) (fun r e => ∀ op ∈ e.lineOp, Seen r.usb op)
        (Gamepad.Receiver.boot (.plain []) (fun _ => none) none)
        (gamepadHeld ++ letGo :: [.serviceStaleInput 40, .serviceUsbKeyboard {}]) := by decide +kernel
    have hlets : Gamepad.Receiver.LetsGo (Run.exec (Gamepad.Receiver.step (.plain []))
        (Gamepad.Receiver.boot (.plain []) (fun _ => none) none) gamepadHeld) letGo := by
      refine ⟨.inl (by decide), ?_⟩
      rintro ⟨bytes, nowMs, raw, he, hraw, hdeadman⟩
      cases he
      have hnone : ∀ raw ∈ (Run.exec (Gamepad.Receiver.step (.plain []))
          (Gamepad.Receiver.boot (.plain []) (fun _ => none) none) gamepadHeld).parseReport
            (Gamepad.Receiver.lite2Report 0x00 0) 30,
          ((Run.exec (Gamepad.Receiver.step (.plain []))
            (Gamepad.Receiver.boot (.plain []) (fun _ => none) none) gamepadHeld).mapped raw).deadman = false := by
        decide +kernel
      rw [hnone raw hraw] at hdeadman
      cases hdeadman
    refine ⟨by decide +kernel, hgamepad gamepadHeld letGo _ hseen hlets ⟨?_, ?_, trivial⟩ ?_⟩
    · rintro ⟨bytes, nowMs, raw, he, -⟩
      cases he
    · rintro ⟨bytes, nowMs, raw, he, -⟩
      cases he
    · exact ⟨[.serviceStaleInput 40], .serviceUsbKeyboard {}, [], rfl, {}, rfl, by decide +kernel, by decide +kernel, rfl⟩
  · have hseen : Run.Always Mobile.Receiver.step (fun r e => ∀ op ∈ e.2.lineOp, Seen r.usb op) {}
        (mobileHeld ++ (60, .bluetooth .disconnectionComplete) :: [(70, .serviceUsbKeyboard {})]) := by decide +kernel
    refine ⟨by decide +kernel, hmobile mobileHeld (60, .bluetooth .disconnectionComplete) _ hseen ⟨.inr trivial, ?_⟩
      ⟨?_, trivial⟩ ?_⟩
    · rintro ⟨buffer, frame, hacc, -⟩
      cases hacc.1
    · rintro ⟨buffer, frame, hacc, -⟩
      cases hacc.1
    · exact ⟨[], (70, .serviceUsbKeyboard {}), [], rfl, {}, rfl, by decide +kernel, by decide +kernel, rfl⟩

end RedMonkeyMpg
