/-
The bounded keyboard test for a normal computer: seven jog keys, each pressed and released, after a
startup delay and at a fixed interval. A USB reset does not restart the sequence; a key that was
down then is pressed again. Times of the runs are unbounded milliseconds since boot; the test reads
them as 32 bits that wrap.
-/
import RedMonkeyMpg.Core.Keyboard
import RedMonkeyMpg.Lib.Run

namespace RedMonkeyMpg.KeyboardBench

def kStartupDelayMs : UInt32 := 8000

def kReportIntervalMs : UInt32 := 600

def kSequence : List JogCommand :=
  [{ axis := .x, direction := .negative, rate := .normal },
   { axis := .x, direction := .positive, rate := .normal },
   { axis := .y, direction := .negative, rate := .normal },
   { axis := .y, direction := .positive, rate := .normal },
   { axis := .z, direction := .negative, rate := .normal },
   { axis := .z, direction := .positive, rate := .normal },
   { axis := .x, direction := .positive, rate := .rapid }]

/-- The state of the test. Its index names a command of the sequence until it has finished. -/
structure Bench where
  mountedAtMs : UInt32 := 0
  lastReportMs : UInt32 := 0
  commandIndex : ℕ := 0
  keyIsDown : Bool := false
  finished : Bool := false
  index_lt : finished = false → commandIndex < kSequence.length := by decide

/-- The report of a command. -/
def commandReport (jog : JogCommand) : KeyboardReport :=
  massoG3KeyboardReport { releaseAll := false, hasJog := true, jog := jog }

namespace Bench

/-- The checks at the head of `run_bounded_test`. -/
def due (b : Bench) (nowMs : UInt32) (tudMounted tudHidReady : Bool) : Bool :=
  !b.finished && tudMounted && tudHidReady && !(nowMs - b.mountedAtMs < kStartupDelayMs) &&
    !(nowMs - b.lastReportMs < kReportIntervalMs)

/-- The release of the key that is down, and the next command. -/
def release (b : Bench) (nowMs : UInt32) : Bench where
  mountedAtMs := b.mountedAtMs
  lastReportMs := nowMs
  commandIndex := b.commandIndex + 1
  keyIsDown := false
  finished := b.finished || b.commandIndex + 1 == kSequence.length
  index_lt := by
    intro h
    simp only [Bool.or_eq_false_iff, beq_eq_false_iff_ne] at h
    have := b.index_lt h.1
    omega

/-- `run_bounded_test`, and the report it hands to TinyUSB, whose answer it ignores. -/
def runBoundedTest (b : Bench) (nowMs : UInt32) (tudMounted tudHidReady : Bool) : Bench × Option KeyboardReport :=
  if b.due nowMs tudMounted tudHidReady then
    if b.keyIsDown then (b.release nowMs, some .release)
    else ({ b with lastReportMs := nowMs, keyIsDown := true }, (kSequence[b.commandIndex]?).map commandReport)
  else (b, none)

/-- `tud_mount_cb`. -/
def mountCb (b : Bench) (nowMs : UInt32) : Bench := if b.mountedAtMs = 0 then { b with mountedAtMs := nowMs } else b

/-- `tud_umount_cb`. -/
def umountCb (b : Bench) : Bench := { b with keyIsDown := false }

end Bench

/-! ## Runs -/

/-- What happens to the test: a USB callback, or a pass of the main loop with what TinyUSB answers. -/
inductive Event where
  | mount
  | umount
  | pass (tudMounted tudHidReady : Bool)
  deriving DecidableEq, Repr

/-- An event and its time, in milliseconds since boot. -/
structure Moment where
  atMs : ℕ
  event : Event
  deriving DecidableEq, Repr

/-- The time as the firmware reads it. -/
def Moment.nowMs (m : Moment) : UInt32 := UInt32.ofNat m.atMs

def boot : Bench := {}

def step (b : Bench) (m : Moment) : Bench :=
  match m.event with
  | .mount => b.mountCb m.nowMs
  | .umount => b.umountCb
  | .pass tudMounted tudHidReady => (b.runBoundedTest m.nowMs tudMounted tudHidReady).1

/-- What a computer at the other end notices: a report and its time, or the loss of the keyboard. -/
inductive Mark where
  | report (atMs : ℕ) (report : KeyboardReport)
  | gone
  deriving DecidableEq

def marks (b : Bench) (m : Moment) : List Mark :=
  match m.event with
  | .mount => []
  | .umount => [.gone]
  | .pass tudMounted tudHidReady => ((b.runBoundedTest m.nowMs tudMounted tudHidReady).2.map (Mark.report m.atMs)).toList

/-- All marks of a run from boot. -/
def trace (ms : List Moment) : List Mark := Run.collect step marks boot ms

/-- The clock never goes back. -/
def Clocked (ms : List Moment) : Prop := (ms.map Moment.atMs).Pairwise (· ≤ ·)

instance (ms : List Moment) : Decidable (Clocked ms) := inferInstanceAs (Decidable (List.Pairwise _ _))

/-! ## The script -/

/-- What the test is to send: each command's report, and all keys up after it. -/
def script : List KeyboardReport := kSequence.flatMap fun jog => [commandReport jog, .release]

/-- The reports that stand: losing the keyboard takes back a key that is still down. -/
def settle (reports : List KeyboardReport) : Mark → List KeyboardReport
  | .report _ r => reports ++ [r]
  | .gone => if reports.getLast?.any reportHasKey then reports.dropLast else reports

def settled (trace : List Mark) : List KeyboardReport := trace.foldl settle []

/-- The times of the reports. -/
def reportTimes (trace : List Mark) : List ℕ :=
  trace.filterMap fun
    | .report t _ => some t
    | .gone => none

/-- The time of the first mount that the firmware does not read as 0; the time of boot before it. -/
def mountTime (ms : List Moment) : ℕ :=
  (ms.findSome? fun m => if m.event = .mount ∧ m.nowMs ≠ 0 then some m.atMs else none).getD 0

theorem settle_gone (reports : List KeyboardReport) :
    settle reports .gone = if reports.getLast?.any reportHasKey then reports.dropLast else reports := rfl

@[simp] theorem settled_concat (trace : List Mark) (mark : Mark) : settled (trace ++ [mark]) = settle (settled trace) mark := by
  simp [settled]

theorem trace_concat (ms : List Moment) (m : Moment) :
    trace (ms ++ [m]) = trace ms ++ marks (Run.exec step boot ms) m := by
  simp [trace]

theorem reportTimes_append (trace trace' : List Mark) :
    reportTimes (trace ++ trace') = reportTimes trace ++ reportTimes trace' := List.filterMap_append

/-! ## One event -/

/-- Everything an event can do to the test, and what it puts out. -/
theorem step_cases (b : Bench) (m : Moment) :
    (m.event = .mount ∧ marks b m = [] ∧ step b m = b.mountCb m.nowMs) ∨
    (m.event = .umount ∧ marks b m = [.gone] ∧ step b m = b.umountCb) ∨
    (m.event ≠ .mount ∧ marks b m = [] ∧ step b m = b) ∨
    (b.finished = false ∧ kStartupDelayMs ≤ m.nowMs - b.mountedAtMs ∧ kReportIntervalMs ≤ m.nowMs - b.lastReportMs ∧
      m.event ≠ .mount ∧
      (b.keyIsDown = true ∧ marks b m = [.report m.atMs .release] ∧ step b m = b.release m.nowMs ∨
        b.keyIsDown = false ∧ ∃ jog, kSequence[b.commandIndex]? = some jog ∧
          marks b m = [.report m.atMs (commandReport jog)] ∧
          step b m = { b with lastReportMs := m.nowMs, keyIsDown := true })) := by
  obtain ⟨atMs, event⟩ := m
  cases event with
  | mount => exact .inl ⟨rfl, rfl, rfl⟩
  | umount => exact .inr (.inl ⟨rfl, rfl, rfl⟩)
  | pass tudMounted tudHidReady =>
    by_cases hdue : b.due (UInt32.ofNat atMs) tudMounted tudHidReady = true
    · have hchecks := hdue
      simp only [Bench.due, Bool.and_eq_true, Bool.not_eq_true', decide_eq_false_iff_not, UInt32.not_lt] at hchecks
      obtain ⟨⟨⟨⟨hfinished, -⟩, -⟩, hstartup⟩, hinterval⟩ := hchecks
      refine .inr (.inr (.inr ⟨hfinished, hstartup, hinterval, nofun, ?_⟩))
      cases hdown : b.keyIsDown with
      | true =>
        left
        simp [marks, step, Bench.runBoundedTest, Moment.nowMs, hdue, hdown]
      | false =>
        right
        obtain ⟨jog, hjog⟩ : ∃ jog, kSequence[b.commandIndex]? = some jog :=
          ⟨_, List.getElem?_eq_getElem (b.index_lt hfinished)⟩
        exact ⟨rfl, jog, hjog, by simp [marks, step, Bench.runBoundedTest, Moment.nowMs, hdue, hdown, hjog]⟩
    · refine .inr (.inr (.inl ⟨nofun, ?_⟩))
      simp [marks, step, Bench.runBoundedTest, Moment.nowMs, hdue]

/-! ## The order of the reports -/

/-- The text of a list of commands, each with what follows it. -/
theorem flatMap_pair {α β : Type} (f g : α → β) (l : List α) (i : ℕ) :
    (l.flatMap fun a => [f a, g a])[2 * i]? = l[i]?.map f ∧ (l.flatMap fun a => [f a, g a])[2 * i + 1]? = l[i]?.map g := by
  induction l generalizing i with
  | nil => simp
  | cons a l ih =>
    cases i with
    | zero => simp
    | succ i =>
      have heven : 2 * (i + 1) = 2 * i + 1 + 1 := by omega
      rw [List.flatMap_cons, heven]
      simpa using ih i

theorem script_command {i : ℕ} {jog : JogCommand} (h : kSequence[i]? = some jog) :
    script.take (2 * i + 1) = script.take (2 * i) ++ [commandReport jog] := by
  rw [List.take_add_one, script, (flatMap_pair _ _ _ _).1, h]
  rfl

theorem script_release {i : ℕ} (h : i < kSequence.length) :
    script.take (2 * (i + 1)) = script.take (2 * i + 1) ++ [.release] := by
  have heven : 2 * (i + 1) = 2 * i + 1 + 1 := by omega
  rw [heven, List.take_add_one, script, (flatMap_pair _ _ _ _).2, List.getElem?_eq_getElem h]
  rfl

@[simp] theorem reportHasKey_commandReport (jog : JogCommand) : reportHasKey (commandReport jog) = true := by
  obtain ⟨axis, direction, rate⟩ := jog
  cases axis <;> cases direction <;> cases rate <;> rfl

theorem length_script : script.length = 2 * kSequence.length := rfl

/-- The reports that stand are those of the commands before the index, and the one that is down. -/
structure Follows (b : Bench) (reports : List KeyboardReport) : Prop where
  reports_eq : reports = script.take (2 * b.commandIndex + if b.keyIsDown then 1 else 0)
  index_le : b.commandIndex ≤ kSequence.length
  finished_iff : b.finished = true ↔ b.commandIndex = kSequence.length
  up : b.finished = true → b.keyIsDown = false

theorem Follows.umount {b : Bench} {reports : List KeyboardReport} (h : Follows b reports) :
    Follows b.umountCb (settle reports .gone) := by
  have hrest : settle reports .gone = script.take (2 * b.commandIndex) := by
    have heq := h.reports_eq
    cases hdown : b.keyIsDown with
    | true =>
      have hlt : b.commandIndex < kSequence.length := by
        apply b.index_lt
        cases hf : b.finished with
        | true => exact absurd (h.up hf) (by rw [hdown]; decide)
        | false => rfl
      rw [hdown, if_pos rfl, script_command (List.getElem?_eq_getElem hlt)] at heq
      rw [heq]
      simp [settle]
    | false =>
      simp only [hdown, Bool.false_eq_true, if_false, Nat.add_zero] at heq
      have hlast : (script.take (2 * b.commandIndex)).getLast?.any reportHasKey = false := by
        cases hi : b.commandIndex with
        | zero => rfl
        | succ i =>
          have hlt : i < kSequence.length := by
            have := h.index_le
            omega
          rw [script_release hlt]
          simp
      rw [heq, settle, hlast]
      rfl
  constructor
  · exact hrest
  · exact h.index_le
  · exact h.finished_iff
  · exact fun _ => rfl

theorem Follows.step {b : Bench} {reports : List KeyboardReport} (h : Follows b reports) (m : Moment) :
    Follows (step b m) ((marks b m).foldl settle reports) := by
  rcases step_cases b m with ⟨-, hmarks, hstep⟩ | ⟨-, hmarks, hstep⟩ | ⟨-, hmarks, hstep⟩ |
    ⟨hfinished, -, -, -, hsent⟩
  · rw [hmarks, hstep]
    unfold Bench.mountCb
    split
    · exact ⟨h.reports_eq, h.index_le, h.finished_iff, h.up⟩
    · exact h
  · rw [hmarks, hstep]
    exact h.umount
  · rw [hmarks, hstep]
    exact h
  · have hlt : b.commandIndex < kSequence.length := b.index_lt hfinished
    rcases hsent with ⟨hdown, hmarks, hstep⟩ | ⟨hup, jog, hjog, hmarks, hstep⟩ <;> rw [hmarks, hstep]
    · constructor
      · have heq := h.reports_eq
        rw [hdown, if_pos rfl] at heq
        simp [settle, heq, Bench.release, script_release hlt]
      · exact hlt
      · simp [Bench.release, hfinished]
      · exact fun _ => rfl
    · constructor
      · have heq := h.reports_eq
        simp only [hup, Bool.false_eq_true, if_false, Nat.add_zero] at heq
        simp [settle, heq, script_command hjog]
      · exact hlt.le
      · exact h.finished_iff
      · intro hf
        rw [show b.finished = true from hf] at hfinished
        cases hfinished

theorem follows (ms : List Moment) : Follows (Run.exec step boot ms) (settled (trace ms)) := by
  induction ms using List.reverseRecOn with
  | nil => exact ⟨rfl, by decide, by decide, nofun⟩
  | append_singleton ms m ih =>
    rw [Run.exec_concat, trace_concat, settled, List.foldl_append]
    exact ih.step m

/-! ## How many reports -/

/-- Each loss of the keyboard takes back at most one report. -/
theorem length_reportTimes_le (trace : List Mark) :
    (reportTimes trace).length ≤ (settled trace).length + trace.count .gone := by
  induction trace using List.reverseRecOn with
  | nil => rfl
  | append_singleton trace mark ih =>
    rw [settled_concat, reportTimes_append, List.count_append, List.length_append]
    cases mark with
    | report t r =>
      have hcount : List.count Mark.gone [Mark.report t r] = 0 := rfl
      have hone : reportTimes [Mark.report t r] = [t] := rfl
      rw [hcount, hone, settle, List.length_append, List.length_singleton, List.length_singleton]
      omega
    | gone =>
      have hdrop : (settled trace).length ≤ (settle (settled trace) .gone).length + 1 := by
        rw [settle_gone]
        split
        · rw [List.length_dropLast]
          omega
        · omega
      have hcount : List.count Mark.gone [Mark.gone] = 1 := rfl
      have hnone : reportTimes [Mark.gone] = [] := rfl
      rw [hcount, hnone, List.length_nil]
      omega

/-! ## The pace of the reports -/

/-- The difference of two readings is the time between them, modulo the wrap. -/
theorem interval_le {t t' : ℕ} {d : UInt32} (h : t ≤ t') (hd : d ≤ UInt32.ofNat t' - UInt32.ofNat t) : t + d.toNat ≤ t' := by
  rw [UInt32.le_iff_toNat_le, UInt32.toNat_sub, UInt32.toNat_ofNat', UInt32.toNat_ofNat'] at hd
  omega

/-- The reports so far are apart, none is later than the clock, and the newest one is remembered. -/
structure Paced (b : Bench) (ms : List Moment) (times : List ℕ) : Prop where
  apart : times.Pairwise fun t t' => t + kReportIntervalMs.toNat ≤ t'
  past : ∀ t ∈ times, t ∈ ms.map Moment.atMs
  last : b.lastReportMs = UInt32.ofNat (times.getLast?.getD 0)

theorem step_times (b : Bench) (m : Moment) :
    (reportTimes (marks b m) = [] ∧ (step b m).lastReportMs = b.lastReportMs) ∨
    (b.finished = false ∧ kStartupDelayMs ≤ m.nowMs - b.mountedAtMs ∧ kReportIntervalMs ≤ m.nowMs - b.lastReportMs ∧
      reportTimes (marks b m) = [m.atMs] ∧ (step b m).lastReportMs = m.nowMs) := by
  rcases step_cases b m with ⟨-, hmarks, hstep⟩ | ⟨-, hmarks, hstep⟩ | ⟨-, hmarks, hstep⟩ |
    ⟨hfinished, hstartup, hinterval, -, hsent⟩
  · left
    rw [hmarks, hstep]
    unfold Bench.mountCb
    split <;> exact ⟨rfl, rfl⟩
  · left
    rw [hmarks, hstep]
    exact ⟨rfl, rfl⟩
  · left
    rw [hmarks, hstep]
    exact ⟨rfl, rfl⟩
  · refine .inr ⟨hfinished, hstartup, hinterval, ?_⟩
    rcases hsent with ⟨-, hmarks, hstep⟩ | ⟨-, jog, -, hmarks, hstep⟩ <;> rw [hmarks, hstep]
    · exact ⟨rfl, rfl⟩
    · exact ⟨rfl, rfl⟩

theorem paced {ms : List Moment} (h : Clocked ms) : Paced (Run.exec step boot ms) ms (reportTimes (trace ms)) := by
  induction ms using List.reverseRecOn with
  | nil => exact ⟨List.Pairwise.nil, nofun, rfl⟩
  | append_singleton ms m ih =>
    unfold Clocked at h
    rw [List.map_append, List.pairwise_append] at h
    obtain ⟨hapart, hpast, hlast⟩ := ih h.1
    have hearlier : ∀ t ∈ reportTimes (trace ms), t ≤ m.atMs := fun t ht => h.2.2 t (hpast t ht) _ (by simp)
    rw [Run.exec_concat, trace_concat, reportTimes_append]
    rcases step_times (Run.exec step boot ms) m with ⟨hnone, hstep⟩ | ⟨-, -, hinterval, hone, hstep⟩
    · rw [hnone, List.append_nil]
      refine ⟨hapart, fun t ht => ?_, ?_⟩
      · rw [List.map_append]
        exact List.mem_append_left _ (hpast t ht)
      · rw [hstep]
        exact hlast
    · rw [hone]
      constructor
      · refine List.pairwise_append.2 ⟨hapart, List.pairwise_singleton _ _, ?_⟩
        intro t ht t' ht'
        obtain rfl := List.mem_singleton.1 ht'
        -- the newest report before this one is at least as late as `t`
        obtain ⟨newest, hnewest⟩ : ∃ newest, newest ∈ (reportTimes (trace ms)).getLast? := by
          cases hlist : (reportTimes (trace ms)).getLast? with
          | none =>
            rw [List.getLast?_eq_none_iff.1 hlist] at ht
            cases ht
          | some newest => exact ⟨newest, rfl⟩
        have hgap : newest + kReportIntervalMs.toNat ≤ m.atMs := by
          apply interval_le (hearlier newest (List.mem_of_getLast? hnewest))
          rw [hnewest, Option.getD_some] at hlast
          rw [← hlast]
          exact hinterval
        have hle : t ≤ newest := by
          obtain ⟨front, hfront⟩ := List.getLast?_eq_some_iff.1 hnewest
          rw [hfront] at hapart ht
          rcases List.mem_append.1 ht with ht | ht
          · have := (List.pairwise_append.1 hapart).2.2 t ht newest (by simp)
            omega
          · exact (List.mem_singleton.1 ht).le
        omega
      · intro t ht
        rw [List.map_append]
        rcases List.mem_append.1 ht with ht | ht
        · exact List.mem_append_left _ (hpast t ht)
        · obtain rfl := List.mem_singleton.1 ht
          simp
      · rw [List.getLast?_concat, hstep]
        rfl

/-- The firmware remembers the first mount. -/
theorem mountedAtMs_eq (ms : List Moment) : (Run.exec step boot ms).mountedAtMs = UInt32.ofNat (mountTime ms) := by
  induction ms using List.reverseRecOn with
  | nil => rfl
  | append_singleton ms m ih =>
    have hstep : (step (Run.exec step boot ms) m).mountedAtMs =
        if m.event = .mount ∧ (Run.exec step boot ms).mountedAtMs = 0 then m.nowMs else (Run.exec step boot ms).mountedAtMs := by
      rcases step_cases (Run.exec step boot ms) m with ⟨hevent, -, hstep⟩ | ⟨hevent, -, hstep⟩ | ⟨hevent, -, hstep⟩ |
        ⟨-, -, -, hevent, ⟨-, -, hstep⟩ | ⟨-, jog, -, -, hstep⟩⟩ <;> rw [hstep]
      · unfold Bench.mountCb
        split <;> rename_i hzero <;> simp [hevent, hzero]
      · simp [hevent, Bench.umountCb]
      · simp [hevent]
      · simp [hevent, Bench.release]
      · simp [hevent]
    rw [Run.exec_concat, hstep, ih]
    unfold mountTime
    rw [List.findSome?_append]
    cases hfirst : ms.findSome? (fun m => if m.event = .mount ∧ m.nowMs ≠ 0 then some m.atMs else none) with
    | some t =>
      obtain ⟨n, -, hn⟩ := List.exists_of_findSome?_eq_some hfirst
      have hne : UInt32.ofNat t ≠ 0 := by
        split at hn
        · rename_i hmount
          obtain rfl := Option.some.inj hn
          exact hmount.2
        · cases hn
      simp [hne]
    | none =>
      by_cases hevent : m.event = .mount
      · by_cases hnow : m.nowMs = 0
        · simp [hevent, hnow]
        · have hread : m.nowMs = UInt32.ofNat m.atMs := rfl
          simp [hevent, hnow]
          exact hread
      · simp [hevent]

/-- The first mount is past, as boot is. -/
theorem mountTime_le {ms : List Moment} {t : ℕ} (h : ∀ m ∈ ms, m.atMs ≤ t) : mountTime ms ≤ t := by
  unfold mountTime
  cases hfirst : ms.findSome? (fun m => if m.event = .mount ∧ m.nowMs ≠ 0 then some m.atMs else none) with
  | none => exact Nat.zero_le t
  | some t' =>
    obtain ⟨n, hn, hsome⟩ := List.exists_of_findSome?_eq_some hfirst
    split at hsome
    · obtain rfl := Option.some.inj hsome
      exact h n hn
    · cases hsome

/-! ## The law -/

/-- The test has finished exactly when the whole script stands. -/
theorem finished_iff (ms : List Moment) : (Run.exec step boot ms).finished = true ↔ settled (trace ms) = script := by
  have h := follows ms
  have hcount : (settled (trace ms)).length =
      min (2 * (Run.exec step boot ms).commandIndex + if (Run.exec step boot ms).keyIsDown then 1 else 0) script.length := by
    rw [h.reports_eq, List.length_take]
  constructor
  · intro hf
    rw [h.reports_eq, h.up hf, h.finished_iff.1 hf]
    rfl
  · intro hscript
    rw [h.finished_iff]
    rw [hscript, length_script] at hcount
    have hle := h.index_le
    split at hcount <;> omega

/-- A test that has finished sends nothing any more. -/
theorem silent_of_finished {b : Bench} (h : b.finished = true) (more : List Moment) :
    reportTimes (Run.collect step marks b more) = [] := by
  induction more generalizing b with
  | nil => rfl
  | cons m more ih =>
    rw [Run.collect_cons, reportTimes_append]
    rcases step_times b m with ⟨hnone, -⟩ | ⟨hfinished, -⟩
    · rw [hnone, List.nil_append]
      apply ih
      rcases step_cases b m with ⟨-, -, hstep⟩ | ⟨-, -, hstep⟩ | ⟨-, -, hstep⟩ | ⟨hno, -⟩
      · rw [hstep, Bench.mountCb]
        split <;> exact h
      · rw [hstep]
        exact h
      · rw [hstep]
        exact h
      · rw [h] at hno
        cases hno
    · rw [h] at hfinished
      cases hfinished

/-- A reading at least an interval later, before the clock wraps around to it. -/
theorem le_interval {t t' : ℕ} {d : UInt32} (h : t + d.toNat ≤ t') (hwrap : t' < t + 2 ^ 32) :
    ¬ UInt32.ofNat t' - UInt32.ofNat t < d := by
  rw [UInt32.lt_iff_toNat_lt, UInt32.toNat_sub, UInt32.toNat_ofNat', UInt32.toNat_ofNat']
  omega

/-- A pass that is due sends a report. -/
theorem marks_due {b : Bench} {m : Moment} (hpass : m.event = .pass true true) (hdue : b.due m.nowMs true true = true) :
    ∃ r, marks b m = [.report m.atMs r] := by
  have hfinished : b.finished = false := by
    simp only [Bench.due, Bool.and_eq_true, Bool.not_eq_true'] at hdue
    exact hdue.1.1.1.1
  have hlt := b.index_lt hfinished
  unfold marks Bench.runBoundedTest
  rw [hpass]
  cases hdown : b.keyIsDown with
  | true => exact ⟨.release, by simp [hdue]⟩
  | false => exact ⟨commandReport kSequence[b.commandIndex], by simp [hdue, List.getElem?_eq_getElem hlt]⟩

/-- A ready pass at the pace sends the next report of the script. -/
theorem next_report {ms : List Moment} {m : Moment} (h : Clocked ms) (hpass : m.event = .pass true true)
    (hunfinished : settled (trace ms) ≠ script) (hstartup : mountTime ms + 8000 ≤ m.atMs)
    (hmounted : m.atMs < mountTime ms + 2 ^ 32) (hpace : (reportTimes (trace ms)).getLast?.getD 0 + 600 ≤ m.atMs)
    (hlast : m.atMs < (reportTimes (trace ms)).getLast?.getD 0 + 2 ^ 32) :
    (settled (trace (ms ++ [m]))).length = (settled (trace ms)).length + 1 := by
  have hfinished : (Run.exec step boot ms).finished = false := by
    rw [← Bool.not_eq_true, finished_iff]
    exact hunfinished
  have hdue : (Run.exec step boot ms).due m.nowMs true true = true := by
    have hmount : ¬ m.nowMs - (Run.exec step boot ms).mountedAtMs < kStartupDelayMs := by
      rw [mountedAtMs_eq]
      exact le_interval hstartup hmounted
    have hreport : ¬ m.nowMs - (Run.exec step boot ms).lastReportMs < kReportIntervalMs := by
      rw [(paced h).last]
      exact le_interval hpace hlast
    simp [Bench.due, hfinished, hmount, hreport]
  obtain ⟨r, hr⟩ := marks_due hpass hdue
  rw [trace_concat, hr, settled_concat, settle, List.length_append]
  rfl

/-- The bounded test, over every run: leaving out the keys cut off by a loss of the keyboard, it sends a
prefix of the script, and nothing after the whole of it; at most one report more for each loss; no report
sooner than 600 ms after another, or 8 s after the first mount; and a ready pass at that pace sends the
next one. -/
theorem bounded_test {ms : List Moment} (h : Clocked ms) :
    settled (trace ms) <+: script ∧
    (settled (trace ms) = script → ∀ more, reportTimes (trace (ms ++ more)) = reportTimes (trace ms)) ∧
    (reportTimes (trace ms)).length ≤ script.length + (trace ms).count .gone ∧
    (reportTimes (trace ms)).Pairwise (fun t t' => t + 600 ≤ t') ∧
    (∀ pre m post, ms = pre ++ m :: post → ∀ t ∈ reportTimes (marks (Run.exec step boot pre) m), mountTime pre + 8000 ≤ t) ∧
    ∀ m, m.event = .pass true true → settled (trace ms) ≠ script →
      mountTime ms + 8000 ≤ m.atMs → m.atMs < mountTime ms + 2 ^ 32 →
      (reportTimes (trace ms)).getLast?.getD 0 + 600 ≤ m.atMs →
      m.atMs < (reportTimes (trace ms)).getLast?.getD 0 + 2 ^ 32 →
      (settled (trace (ms ++ [m]))).length = (settled (trace ms)).length + 1 := by
  have hstands : ∀ ms, settled (trace ms) <+: script := fun ms => by
    rw [(follows ms).reports_eq]
    exact List.take_prefix _ _
  refine ⟨hstands ms, ?_, ?_, (paced h).apart, ?_, fun m => next_report h⟩
  · intro hscript more
    have hsilent := silent_of_finished ((finished_iff ms).2 hscript) more
    rw [trace, Run.collect_append, reportTimes_append, hsilent, List.append_nil]
    rfl
  · have hcount := length_reportTimes_le (trace ms)
    have hle := (hstands ms).length_le
    omega
  · rintro pre m post rfl t ht
    have hearlier : ∀ n ∈ pre, n.atMs ≤ m.atMs := by
      unfold Clocked at h
      rw [List.map_append, List.pairwise_append] at h
      exact fun n hn => h.2.2 _ (List.mem_map_of_mem hn) _ (by simp)
    rcases step_times (Run.exec step boot pre) m with ⟨hnone, -⟩ | ⟨-, hstartup, -, hone, -⟩
    · rw [hnone] at ht
      cases ht
    · rw [hone] at ht
      obtain rfl := List.mem_singleton.1 ht
      rw [mountedAtMs_eq] at hstartup
      exact interval_le (mountTime_le hearlier) hstartup

/-- A key cut off by a loss of the keyboard, and pressed again. -/
def cutOff : List Moment :=
  [⟨20, .mount⟩, ⟨9000, .pass true true⟩, ⟨9100, .umount⟩, ⟨9300, .mount⟩, ⟨9500, .pass true true⟩,
    ⟨9600, .pass true true⟩, ⟨10200, .pass true true⟩]

/-- The rest of the script. -/
def scriptSent : List Moment := cutOff ++ (List.range 12).map fun i => ⟨10800 + 600 * i, .pass true true⟩

theorem bounded_test_cutOff :
    settled (trace cutOff) = script.take 2 ∧
      (reportTimes (trace cutOff)).length ≤ script.length + (trace cutOff).count .gone ∧
      (reportTimes (trace cutOff)).Pairwise (fun t t' => t + 600 ≤ t') ∧
      (settled (trace (cutOff ++ [⟨10800, .pass true true⟩]))).length = (settled (trace cutOff)).length + 1 ∧
      ∀ more, reportTimes (trace (scriptSent ++ more)) = reportTimes (trace scriptSent) := by
  have hcut : Clocked cutOff := by decide
  have hsent : Clocked scriptSent := by decide
  obtain ⟨-, -, hcount, hapart, -, hnext⟩ := bounded_test hcut
  obtain ⟨-, hsilent, -⟩ := bounded_test hsent
  refine ⟨by decide, hcount, hapart, hnext _ rfl ?_ ?_ ?_ ?_ ?_, hsilent (by decide +kernel)⟩ <;> decide

end RedMonkeyMpg.KeyboardBench
