/-
The iPhone receiver in time: a clock of milliseconds that does not wrap, the 32-bit timestamps the
firmware reads from it, and the passes of the main loop with any time between and inside them. The
send in a pass comes before the timeout of that pass and checks no age, and the timeout takes a
frame stamped 0 for none; so the stale law holds in a run exactly when no key is sent late and no
stale frame escapes the timeout's test. How late a key can be sent follows from the times of the passes.
-/
import RedMonkeyMpg.Lib.Run
import RedMonkeyMpg.Mobile.Steps

namespace RedMonkeyMpg.Mobile

open Receiver

/-! ## The clock -/

/-- A receiver, the milliseconds since boot, and when the newest frame was accepted. -/
structure Clocked where
  rx : Receiver := {}
  clock : Nat := 0
  acceptedAt : Option Nat := none

inductive Tick where
  | elapse (ms : Nat)
  | event (e : Event)
  deriving DecidableEq

/-- The time that passes. -/
def Tick.ms : Tick → ℕ
  | .elapse ms => ms
  | .event _ => 0

/-- The session accepts the event's frame. -/
def Receiver.acceptsFrame (r : Receiver) (e : UInt32 × Event) : Bool :=
  match e.2.commandBuffer with
  | none => false
  | some buffer => (r.session.consume buffer e.1).2.toBool

namespace Clocked

/-- `to_ms_since_boot(get_absolute_time())`. -/
def nowMs (w : Clocked) : UInt32 := UInt32.ofNat w.clock

def step (w : Clocked) : Tick → Clocked
  | .elapse ms => { w with clock := w.clock + ms }
  | .event e =>
    { w with
      rx := w.rx.step (w.nowMs, e)
      acceptedAt := if w.rx.acceptsFrame (w.nowMs, e) then some w.clock else w.acceptedAt }

/-- One pass of `main`: what the Bluetooth poll and the USB task handle, each after some delay,
then the send, the timeout and the sleep. -/
structure Pass where
  poll : List (Nat × BleEvent) := []
  usbTask : List (Nat × UsbCallback) := []
  beforeSend : Nat := 0
  answer : UsbAnswer := {}
  beforeTimeout : Nat := 0
  sleep : Nat := 2

def Pass.ticks (p : Pass) : List Tick :=
  p.poll.flatMap (fun d => [.elapse d.1, .event (.bluetooth d.2)]) ++
    p.usbTask.flatMap (fun d => [.elapse d.1, .event (.usb d.2)]) ++
    [.elapse p.beforeSend, .event (.serviceUsbKeyboard p.answer), .elapse p.beforeTimeout,
      .event .serviceTimeout, .elapse p.sleep]

/-- The main loop. -/
def loop (passes : List Pass) : List Tick := passes.flatMap Pass.ticks

/-! ## The law and its condition -/

/-- The newest accepted frame is at most 150 ms old. -/
def Fresh (w : Clocked) : Prop := ∃ t ∈ w.acceptedAt, w.clock ≤ t + 150

instance (w : Clocked) : Decidable w.Fresh := inferInstanceAs (Decidable (∃ t ∈ w.acceptedAt, _))

/-- No key is handed to USB, and none is wanted after the timeout, on an older frame. -/
def StaleLaw (w : Clocked) : Tick → Prop
  | .event (.serviceUsbKeyboard a) => (w.rx.usb.service a).offered.any reportHasKey = true → w.Fresh
  | .event .serviceTimeout => reportHasKey (w.step (.event .serviceTimeout)).rx.usb.desired = true → w.Fresh
  | _ => True

/-- The newest frame passes the timeout's test whatever its age: it was stamped 0, or its age is a
whole number of clock wraps and at most 150 ms. -/
def Untimed (w : Clocked) : Prop :=
  ∀ t ∈ w.acceptedAt, t % 2 ^ 32 = 0 ∨ (w.clock - t) % 2 ^ 32 ≤ 150

instance (w : Clocked) : Decidable w.Untimed := inferInstanceAs (Decidable (∀ t ∈ w.acceptedAt, _))

/-- No send comes more than 150 ms after the newest frame while a key is pending, and no timeout
does while a key is wanted on a frame that its test lets pass. -/
def Timely (w : Clocked) : Tick → Prop
  | .event (.serviceUsbKeyboard a) => w.rx.usb.keyPending a = true → w.Fresh
  | .event .serviceTimeout => reportHasKey w.rx.usb.desired = true → w.Untimed → w.Fresh
  | _ => True

instance (w : Clocked) (t : Tick) : Decidable (StaleLaw w t) :=
  match t with
  | .elapse _ => .isTrue trivial
  | .event (.bluetooth _) => .isTrue trivial
  | .event (.usb _) => .isTrue trivial
  | .event (.serviceUsbKeyboard a) =>
    inferInstanceAs (Decidable ((w.rx.usb.service a).offered.any reportHasKey = true → w.Fresh))
  | .event .serviceTimeout =>
    inferInstanceAs
      (Decidable (reportHasKey (w.step (.event .serviceTimeout)).rx.usb.desired = true → w.Fresh))

/-! ## The timestamp of a wanted key -/

/-- A wanted key has the timestamp of the newest accepted frame. -/
def Stamped (w : Clocked) : Prop :=
  reportHasKey w.rx.usb.desired = true →
    ∃ t ∈ w.acceptedAt, t ≤ w.clock ∧ w.rx.lastValidMs = UInt32.ofNat t

theorem acceptsFrame_iff {r : Receiver} {e : UInt32 × Event} :
    r.acceptsFrame e = true ↔ ∃ buffer frame, Accepts r e buffer frame := by
  unfold Receiver.acceptsFrame Accepts
  cases e.2.commandBuffer with
  | none => simp
  | some buffer =>
    cases hc : (r.session.consume buffer e.1).2 with
    | error err => simp [Except.toBool, hc]
    | ok frame => simp [Except.toBool, hc]

/-- A key that is wanted after an event is of the event's frame, or was wanted on the newest frame before it. -/
theorem event_wanted (w : Clocked) (e : Event) (hk : reportHasKey (w.step (.event e)).rx.usb.desired = true) :
    ((w.step (.event e)).acceptedAt = some w.clock ∧ (w.step (.event e)).rx.lastValidMs = w.nowMs) ∨
      (reportHasKey w.rx.usb.desired = true ∧ (w.step (.event e)).acceptedAt = w.acceptedAt ∧
        (w.step (.event e)).rx.lastValidMs = w.rx.lastValidMs) := by
  have hclosed : ¬ Closed w.rx (w.rx.step (w.nowMs, e)) := by
    intro hc
    rw [show (w.step (.event e)).rx.usb.desired = .release from hc.desired] at hk
    cases hk
  cases ha : w.rx.acceptsFrame (w.nowMs, e) with
  | true =>
    obtain ⟨buffer, frame, hacc⟩ := acceptsFrame_iff.1 ha
    exact .inl ⟨by simp [step, ha], (step_accepted hacc).lastValidMs⟩
  | false =>
    -- an event that accepts no frame keeps the key only by leaving the motion state alone
    have hno : ∀ buffer frame, ¬ Accepts w.rx (w.nowMs, e) buffer frame := by
      intro buffer frame hacc
      rw [acceptsFrame_iff.2 ⟨buffer, frame, hacc⟩] at ha
      cases ha
    cases hb : Event.commandBuffer e with
    | some buffer => exact absurd (step_rejected hb fun frame hf => hno buffer frame ⟨hb, hf⟩) hclosed
    | none =>
      rcases step_other (r := w.rx) (e := (w.nowMs, e)) hb with ⟨-, hq⟩ | ⟨-, hc⟩
      · rw [show (w.step (.event e)).rx.usb.desired = w.rx.usb.desired from hq.desired] at hk
        exact .inr ⟨hk, by simp [step, ha], hq.lastValidMs⟩
      · exact absurd hc hclosed

theorem step_stamped (w : Clocked) (t : Tick) (h : Stamped w) : Stamped (w.step t) := by
  intro hk
  cases t with
  | elapse ms =>
    obtain ⟨t, ht, hle, hv⟩ := h hk
    exact ⟨t, ht, Nat.le_add_right_of_le hle, hv⟩
  | event e =>
    rcases event_wanted w e hk with ⟨ha, hv⟩ | ⟨hbefore, ha, hv⟩
    · exact ⟨w.clock, ha, le_rfl, hv⟩
    · obtain ⟨t, ht, hle, hstamp⟩ := h hbefore
      exact ⟨t, ha ▸ ht, hle, hv.trans hstamp⟩

/-! ## Send and timeout -/

/-- The timeout's difference of timestamps is the age, modulo the wrap. -/
theorem age_toNat {clock t : Nat} (h : t ≤ clock) :
    (UInt32.ofNat clock - UInt32.ofNat t).toNat = (clock - t) % 2 ^ 32 := by
  rw [UInt32.toNat_sub, UInt32.toNat_ofNat', UInt32.toNat_ofNat']
  omega

theorem stamp_zero_iff (t : Nat) : UInt32.ofNat t = 0 ↔ t % 2 ^ 32 = 0 := by
  rw [← UInt32.toNat_inj, UInt32.toNat_ofNat']
  exact Iff.rfl

theorem stale_iff {clock t : Nat} (h : t ≤ clock) :
    UInt32.ofNat clock - UInt32.ofNat t > kStaleMs ↔ 150 < (clock - t) % 2 ^ 32 := by
  rw [gt_iff_lt, UInt32.lt_iff_toNat_lt, age_toNat h]
  exact Iff.rfl

/-- The timeout's test fails exactly on a frame that passes it whatever its age. -/
theorem staleKey_iff {w : Clocked} (h : Stamped w) (hk : reportHasKey w.rx.usb.desired = true) :
    w.rx.silent.staleKey w.nowMs = true ↔ ¬ w.Untimed := by
  obtain ⟨t, ht, hle, hv⟩ := h hk
  have hkey : reportHasKey w.rx.silent.usb.desired = true := hk
  have hlast : w.rx.silent.lastValidMs = UInt32.ofNat t := hv
  -- a wanted key has a newest frame, so `Untimed` speaks of that one
  have hun : w.Untimed ↔ t % 2 ^ 32 = 0 ∨ (w.clock - t) % 2 ^ 32 ≤ 150 := by
    rw [Option.mem_def] at ht
    simp [Untimed, ht]
  rw [hun, not_or, not_le, ← stamp_zero_iff, ← stale_iff hle]
  simp [staleKey, hkey, hlast, nowMs]

/-- A wanted key survives the timeout exactly on a frame that passes its test. -/
theorem timeout_key_iff {w : Clocked} (h : Stamped w) :
    reportHasKey (w.step (.event .serviceTimeout)).rx.usb.desired = true ↔
      reportHasKey w.rx.usb.desired = true ∧ w.Untimed := by
  have hstep : (w.step (.event .serviceTimeout)).rx = w.rx.silent.serviceTimeout w.nowMs := rfl
  rw [hstep, serviceTimeout]
  by_cases hk : reportHasKey w.rx.usb.desired = true
  · split
    · rename_i hs
      have hrel := (failClosed_closed w.rx.silent kErrorStale w.nowMs).desired
      simp [hrel, (staleKey_iff h hk).1 hs]
    · rename_i hs
      rw [staleKey_iff h hk, not_not] at hs
      exact ⟨fun _ => ⟨hk, hs⟩, fun _ => hk⟩
  · have hs : w.rx.silent.staleKey w.nowMs = false := by
      have hkey : reportHasKey w.rx.silent.usb.desired = false := (Bool.not_eq_true _).mp hk
      simp [staleKey, hkey]
    rw [hs]
    exact ⟨fun hl => absurd hl hk, fun hl => absurd hl.1 hk⟩

/-- The law of a step is its condition. -/
theorem staleLaw_iff_timely (w : Clocked) (t : Tick) (h : Stamped w) : StaleLaw w t ↔ Timely w t := by
  cases t with
  | elapse ms => exact Iff.rfl
  | event e =>
    cases e with
    | bluetooth b => exact Iff.rfl
    | usb cb => exact Iff.rfl
    | serviceUsbKeyboard a => simp only [StaleLaw, Timely, UsbLine.offered_key_iff]
    | serviceTimeout =>
      simp only [StaleLaw, Timely, timeout_key_iff h]
      exact and_imp

/-- In every run of the main loop the stale law holds exactly when every send and every timeout of
the run is timely. -/
theorem stale_release_iff (passes : List Pass) :
    Run.Always step StaleLaw {} (loop passes) ↔ Run.Always step Timely {} (loop passes) :=
  Run.always_congr (fun w e h _ => step_stamped w e h) staleLaw_iff_timely (loop passes) (by intro hk; cases hk)

/-- A neutral frame and a frame held to the left come in one poll, and the USB task after it takes
200 ms: the send still hands the key to USB. -/
theorem stale_release_late : ¬ ∀ passes : List Pass, Run.Always step StaleLaw {} (loop passes) := by
  intro h
  have hlate := h
    [{ usbTask := [(0, .mount)] },
      { poll :=
          [(10, .connectionComplete 64),
            (10, .write { buffer := ({ sequenceLow := 1 } : MobileCommand).sealed.bytes }),
            (20, .write { buffer := ({ sequenceLow := 2, direction := 1, flags := 1 } : MobileCommand).sealed.bytes })]
        beforeSend := 200 }]
  revert hlate
  decide +kernel

/-! ## How late a key can be -/

/-- The part of a pass up to its send. -/
def Pass.front (p : Pass) : List Tick :=
  p.poll.flatMap (fun d => [.elapse d.1, .event (.bluetooth d.2)]) ++
    p.usbTask.flatMap (fun d => [.elapse d.1, .event (.usb d.2)]) ++ [.elapse p.beforeSend]

/-- The milliseconds from the start of a pass to its send. -/
def Pass.untilSend (p : Pass) : ℕ := (p.front.map Tick.ms).sum

/-- A wanted key is of a frame at most `n` ms old. -/
def Within (n : ℕ) (w : Clocked) : Prop := reportHasKey w.rx.usb.desired = true → ∃ t ∈ w.acceptedAt, w.clock ≤ t + n

/-- A key that is handed to USB is of a frame at most `n` ms old. -/
def SentWithin (n : ℕ) (w : Clocked) : Tick → Prop
  | .event (.serviceUsbKeyboard a) => (w.rx.usb.service a).offered.any reportHasKey = true →
    ∃ t ∈ w.acceptedAt, w.clock ≤ t + n
  | _ => True

/-- No timeout runs more than 150 ms after a frame that its test lets pass. -/
def Timed (w : Clocked) : Tick → Prop
  | .event .serviceTimeout => ∀ t ∈ w.acceptedAt, w.Untimed → w.clock ≤ t + 150
  | _ => True

theorem Within.mono {m n : ℕ} {w : Clocked} (h : Within m w) (hle : m ≤ n) : Within n w := fun hk =>
  (h hk).imp fun _ ht => ⟨ht.1, by omega⟩

theorem step_within {n : ℕ} {w : Clocked} (t : Tick) (h : Within n w) : Within (n + t.ms) (w.step t) := by
  intro hk
  cases t with
  | elapse ms =>
    obtain ⟨t, ht, hle⟩ := h hk
    exact ⟨t, ht, show w.clock + ms ≤ t + (n + ms) by omega⟩
  | event e =>
    rcases event_wanted w e hk with ⟨ha, -⟩ | ⟨hbefore, ha, -⟩
    · exact ⟨w.clock, ha, Nat.le_add_right _ _⟩
    · obtain ⟨t, ht, hle⟩ := h hbefore
      exact ⟨t, ha ▸ ht, hle⟩

theorem exec_within {n : ℕ} {w : Clocked} (ts : List Tick) (h : Within n w) :
    Within (n + (ts.map Tick.ms).sum) (Run.exec step w ts) := by
  induction ts generalizing n w with
  | nil => exact h
  | cons t ts ih =>
    rw [List.map_cons, List.sum_cons, ← Nat.add_assoc]
    exact ih (step_within t h)

/-- A timeout on time leaves only keys of frames at most 150 ms old. -/
theorem timeout_within {w : Clocked} (h : Stamped w) (ht : Timed w (.event .serviceTimeout)) :
    Within 150 (w.step (.event .serviceTimeout)) := by
  intro hk
  obtain ⟨hbefore, huntimed⟩ := (timeout_key_iff h).1 hk
  obtain ⟨t, hat, -⟩ := h hbefore
  exact ⟨t, hat, ht t hat huntimed⟩

/-- Nothing is sent on the way to the send. -/
theorem front_sentWithin (p : Pass) (n : ℕ) (w : Clocked) : Run.Always step (SentWithin n) w p.front := by
  refine (Run.always_iff_split _ _ _).2 fun pre t post hsplit => ?_
  have ht : t ∈ p.front := hsplit ▸ List.mem_append_right _ List.mem_cons_self
  unfold Pass.front at ht
  simp only [List.mem_append, List.mem_flatMap, List.mem_cons, List.not_mem_nil, or_false] at ht
  rcases ht with (⟨d, -, rfl | rfl⟩ | ⟨d, -, rfl | rfl⟩) | rfl <;> trivial

/-- Over every run of the main loop whose timeouts run on time, a key is handed to USB on a frame that is older than
150 ms by at most the sleep of a pass and the way to the next send. -/
theorem sent_within {passes : List Pass} {s n : ℕ} (hpasses : ∀ p ∈ passes, p.sleep ≤ s ∧ p.untilSend ≤ n)
    (htimed : Run.Always step Timed {} (loop passes)) : Run.Always step (SentWithin (150 + s + n)) {} (loop passes) := by
  have hrun : ∀ w : Clocked, Stamped w → Within (150 + s) w → Run.Always step Timed w (loop passes) →
      Run.Always step (SentWithin (150 + s + n)) w (loop passes) := by
    clear htimed
    induction passes with
    | nil => exact fun _ _ _ _ => trivial
    | cons p passes ih =>
      intro w hstamped hw htimed
      rw [List.forall_mem_cons] at hpasses
      obtain ⟨⟨hsleep, huntil⟩, hrest⟩ := hpasses
      have hticks : loop (p :: passes) = p.front ++ ([.event (.serviceUsbKeyboard p.answer), .elapse p.beforeTimeout,
          .event .serviceTimeout, .elapse p.sleep] ++ loop passes) := by
        simp [loop, Pass.ticks, Pass.front]
      rw [hticks, Run.always_append] at htimed ⊢
      have hstep : ∀ v t, Stamped v → Stamped (v.step t) := step_stamped
      generalize hv : Run.exec step w p.front = v at htimed ⊢
      have hsv : Stamped v := hv ▸ Run.invariant_all hstep p.front hstamped
      have hwv : Within (150 + s + n) v := hv ▸ (exec_within p.front hw).mono (by unfold Pass.untilSend at huntil; omega)
      obtain ⟨-, -, -, htimeout, -, hlater⟩ := htimed
      have hsend := hstep _ (.elapse p.beforeTimeout) (hstep v (.event (.serviceUsbKeyboard p.answer)) hsv)
      have hafter := step_within (.elapse p.sleep) (timeout_within hsend htimeout)
      refine ⟨front_sentWithin p _ w, fun hoffered => ?_, trivial, trivial, trivial, ?_⟩
      · have hpending := UsbLine.offered_key_iff.1 hoffered
        simp only [UsbLine.keyPending, Bool.and_eq_true] at hpending
        exact hwv hpending.1.2
      · exact ih hrest _ (hstep _ _ (hstep _ _ hsend)) (hafter.mono (Nat.add_le_add_left hsleep 150)) hlater
  exact hrun {} (fun hk => by cases hk) (fun hk => by cases hk) htimed

end Clocked

end RedMonkeyMpg.Mobile
