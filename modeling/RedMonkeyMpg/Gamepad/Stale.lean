/-
The stale release of the gamepad receiver. A wanted key carries the millisecond at which its report
was consumed as the time of the last valid report, so the stale check sees the age of the key, but
for the one millisecond whose number is the mark for no report: a key produced at 0 is never stale.
-/
import RedMonkeyMpg.Gamepad.Gate

namespace RedMonkeyMpg.Gamepad.Receiver

variable {p : Platform} {s : Receiver} {es : List Event} {t : UInt32}

/-- The report wanted after the events was driven by a report consumed at `t`, and nothing disturbed
it since. -/
def ProducedAt (p : Platform) (s : Receiver) (es : List Event) (t : UInt32) : Prop :=
  ∃ pre bytes post, es = pre ++ .bluetooth (.report bytes t) :: post ∧
    Drives (Run.exec (step p) s es).usb.desired (Run.exec (step p) s pre) (.bluetooth (.report bytes t)) ∧
    Run.Always (step p) (fun r e => ¬ Disturbs r e)
      (Run.exec (step p) s (pre ++ [.bluetooth (.report bytes t)])) post

/-- A wanted key was produced at some time. -/
theorem produced_of_key (hs : s.usb.desired = .release)
    (hkey : reportHasKey (Run.exec (step p) s es).usb.desired = true) : ∃ t, ProducedAt p s es t := by
  have hsince : Run.Since (step p) Disturbs (Drives (Run.exec (step p) s es).usb.desired) s es := by
    refine Run.since_of_latch (fun _ => True) (fun _ _ => True)
      (fun r => r.usb.desired = (Run.exec (step p) s es).usb.desired) (fun _ _ _ _ => trivial)
      (fun r e _ _ hl => step_key hkey r e hl) (Run.always_of_forall (fun _ _ => trivial) s es) trivial ?_ rfl
    intro h
    rw [← h, hs] at hkey
    cases hkey
  obtain ⟨pre, e, post, hes, hd, hpost⟩ := hsince
  obtain ⟨bytes, t, raw, rfl, -⟩ := id hd
  exact ⟨t, pre, bytes, post, hes, hd, hpost⟩

/-- An event that disturbs nothing keeps a wanted report and its time, or publishes a release. -/
theorem step_undisturbed {report : KeyboardReport} (r : Receiver) (e : Event)
    (h : (r.usb.desired = report ∧ r.lastValidReportMs = t) ∨ r.usb.desired = .release) (hno : ¬ Disturbs r e) :
    ((step p r e).usb.desired = report ∧ (step p r e).lastValidReportMs = t) ∨
      (step p r e).usb.desired = .release := by
  have he : e.reportMs = none := by
    by_contra hne
    exact hno (.inl hne)
  rcases step_other (p := p) r he with ⟨-, hq⟩ | hc
  · rw [hq.desired, hq.lastValidReportMs]
    exact h
  · exact .inr hc.desired

/-- The time of the last valid report is the one at which a wanted key was produced. -/
theorem ProducedAt.time (h : ProducedAt p s es t)
    (hkey : reportHasKey (Run.exec (step p) s es).usb.desired = true) :
    (Run.exec (step p) s es).lastValidReportMs = t := by
  obtain ⟨pre, bytes, post, hes, ⟨bytes', t', raw, he, hp, hrep, -, -, hu, harmed⟩, hpost⟩ := h
  cases he
  have hstart : (Run.exec (step p) s (pre ++ [.bluetooth (.report bytes t)])).usb.desired =
        (Run.exec (step p) s es).usb.desired ∧
      (Run.exec (step p) s (pre ++ [.bluetooth (.report bytes t)])).lastValidReportMs = t := by
    rw [Run.exec_concat]
    cases step_report (p := p) (Run.exec (step p) s pre) bytes t with
    | refused hp' hc =>
      rw [hp] at hp'
      cases hp'
    | withheld raw' hp' ha hd hr => exact absurd hu ha
    | rearmed raw' hp' hu' hb hd hr =>
      rw [harmed] at hb
      cases hb
    | driven raw' hp' hu' hb hd hr ht =>
      rw [hp] at hp'
      cases hp'
      exact ⟨hd.trans hrep.symm, ht⟩
  have hend : Run.exec (step p) (Run.exec (step p) s (pre ++ [.bluetooth (.report bytes t)])) post =
      Run.exec (step p) s es := by
    rw [← Run.exec_append, hes, List.append_assoc, List.singleton_append]
  have hkept := Run.invariant (I := fun r => (r.usb.desired = (Run.exec (step p) s es).usb.desired ∧
    r.lastValidReportMs = t) ∨ r.usb.desired = .release) step_undisturbed hpost (.inl hstart)
  rw [hend] at hkept
  rcases hkept with ⟨-, ht⟩ | hrel
  · exact ht
  · rw [hrel] at hkey
    cases hkey

/-- The stale law of a pass: after its stale check a key is wanted only if it was produced at most
150 ms before, modulo the wrap of the clock. -/
def StaleLaw (p : Platform) (s : Receiver) (es : List Event) (nowMs : UInt32) : Prop :=
  reportHasKey (Run.exec (step p) s (es ++ [.serviceStaleInput nowMs])).usb.desired = true →
    ∃ t, ProducedAt p s (es ++ [.serviceStaleInput nowMs]) t ∧ nowMs - t ≤ kStaleMs

/-- No key that was produced at 0 is wanted at the check more than 150 ms later. -/
def Timed (p : Platform) (s : Receiver) (es : List Event) (nowMs : UInt32) : Prop :=
  reportHasKey (Run.exec (step p) s es).usb.desired = true → ProducedAt p s es 0 → nowMs ≤ kStaleMs

/-- A key survives the stale check exactly when its report's time is 0 or at most 150 ms ago. -/
theorem staleKey_false_iff {r : Receiver} {nowMs : UInt32} (hkey : reportHasKey r.usb.desired = true) :
    r.staleKey nowMs = false ↔ r.lastValidReportMs = 0 ∨ nowMs - r.lastValidReportMs ≤ kStaleMs := by
  simp only [staleKey, hkey, Bool.true_and, Bool.and_eq_false_iff, bne_eq_false_iff_eq, decide_eq_false_iff_not,
    gt_iff_lt, UInt32.not_lt]

theorem step_stale_kept {r : Receiver} {nowMs : UInt32} (h : r.staleKey nowMs = false) :
    step p r (.serviceStaleInput nowMs) = r.silent := by
  have h' : r.silent.staleKey nowMs = false := h
  simp [step, serviceStaleInput, h']

/-- In every pass of every run from the boot, the stale law holds exactly when the wanted key's
report was not consumed at 0, or the check comes at most 150 ms after that. -/
theorem stale_input_released_iff (p : Platform) (flash : Flash) (reads : Option Flash) (passes : List Pass) (pass : Pass) :
    StaleLaw p (boot p flash reads) (loop passes ++ pass.before) pass.nowMs ↔
      Timed p (boot p flash reads) (loop passes ++ pass.before) pass.nowMs := by
  generalize loop passes ++ pass.before = es
  let b := boot p flash reads
  let r := Run.exec (step p) b es
  have hrel : b.usb.desired = .release := rfl
  have hlast : Run.exec (step p) b (es ++ [.serviceStaleInput pass.nowMs]) = step p r (.serviceStaleInput pass.nowMs) :=
    Run.exec_concat _ _ _ _
  constructor
  · intro hlaw hkey hzero
    have htime : r.lastValidReportMs = 0 := hzero.time hkey
    have hkept : step p r (.serviceStaleInput pass.nowMs) = r.silent :=
      step_stale_kept ((staleKey_false_iff hkey).2 (.inl htime))
    have hkey' : reportHasKey (Run.exec (step p) b (es ++ [.serviceStaleInput pass.nowMs])).usb.desired = true := by
      rw [hlast, hkept]
      exact hkey
    obtain ⟨t, ht, hle⟩ := hlaw hkey'
    have ht0 : t = 0 := by
      rw [← ht.time hkey', hlast, hkept]
      exact htime
    rw [ht0, UInt32.sub_zero] at hle
    exact hle
  · intro htimed hkey
    obtain ⟨t, ht⟩ := produced_of_key hrel hkey
    refine ⟨t, ht, ?_⟩
    have htime := ht.time hkey
    -- the check kept the key, so it found no stale one
    have hstale : r.staleKey pass.nowMs = false := by
      refine (Bool.not_eq_true _).mp fun hs => ?_
      rcases r.silent.serviceStaleInput_cases pass.nowMs with ⟨hf, -⟩ | ⟨-, hc⟩
      · rw [show r.silent.staleKey pass.nowMs = true from hs] at hf
        cases hf
      · rw [hlast, show (step p r (.serviceStaleInput pass.nowMs)).usb.desired = .release from hc.desired] at hkey
        cases hkey
    rw [hlast, step_stale_kept hstale] at hkey htime
    have hkeyr : reportHasKey r.usb.desired = true := hkey
    have htr : r.lastValidReportMs = t := htime
    rcases (staleKey_false_iff hkeyr).1 hstale with h0 | hle
    · obtain ⟨t', ht'⟩ := produced_of_key hrel hkeyr
      have h0' : t' = 0 := (ht'.time hkeyr).symm.trans h0
      rw [← htr, h0, UInt32.sub_zero]
      exact htimed hkeyr (h0' ▸ ht')
    · rw [← htr]
      exact hle

/-- A neutral report 20 ms before the clock wraps and a held one at the wrap; the passes after it
bring nothing. -/
def heldAtWrap : Pass where
  poll :=
    [.connectionOpened kSuccess 1, .descriptorAvailable kSuccess (some (List.replicate 83 0)) none,
      .report (lite2Report 0x00 127) 0xFFFFFFEC, .report (lite2Report 0x01 0) 0]
  nowMs := 0

/-- A key produced at 0 is still wanted 200 ms later. -/
theorem stale_input_wanted :
    ¬ ∀ (flash : Flash) (reads : Option Flash) (passes : List Pass) (pass : Pass),
      StaleLaw (Platform.plain []) (boot (Platform.plain []) flash reads) (loop passes ++ pass.before) pass.nowMs := by
  intro h
  obtain ⟨t, ht, hle⟩ := h (fun _ => none) none [heldAtWrap] { nowMs := 200 } (by decide +kernel)
  have h0 : t = 0 := by
    rw [← ht.time (by decide +kernel)]
    decide +kernel
  rw [h0] at hle
  revert hle
  decide

end RedMonkeyMpg.Gamepad.Receiver
