/-
The raw HID diagnostic: it keeps a connection to one controller, and prints the reports that differ from the
last one it retained. A connection that failed may still be held by BTstack, so its ID is kept for one
disconnect; that disconnect must not meet a connection that came after. A report too long to retain is printed
each time and retained never.
-/
import RedMonkeyMpg.Lib.Run
import RedMonkeyMpg.Store.Address
import Mathlib.Data.List.Destutter

namespace RedMonkeyMpg.HidDump

def kSuccess : UInt8 := 0
def kCommandDisallowed : UInt8 := 0x0c

/-! ## The last report -/

/-- `sizeof(last_report)`. -/
def kLastReportSize : ℕ := 64

/-- `last_report` and `last_report_len`. -/
structure LastReport where
  bytes : List UInt8 := List.replicate kLastReportSize 0
  len : ℕ := 0
  bytes_length : bytes.length = kLastReportSize := by rfl
  len_le : len ≤ kLastReportSize := by omega

namespace LastReport

/-- The retained report. -/
def held (l : LastReport) : List UInt8 := l.bytes.take l.len

def clear (l : LastReport) : LastReport where
  bytes := l.bytes
  len := 0
  bytes_length := l.bytes_length
  len_le := Nat.zero_le _

/-- The comparison with the last report; `memcmp` reads no more than both have. -/
def repeats (l : LastReport) (report : List UInt8) : Bool :=
  report.length == l.len && report.length ≤ kLastReportSize && report == l.bytes.take report.length

/-- The `memcpy` over the last report, when it fits. -/
def keep (l : LastReport) (report : List UInt8) : LastReport :=
  if h : report.length ≤ kLastReportSize then
    { bytes := report ++ l.bytes.drop report.length
      len := report.length
      bytes_length := by rw [List.length_append, List.length_drop, l.bytes_length]; omega
      len_le := h }
  else l

variable {l : LastReport} {report : List UInt8}

@[simp] theorem held_clear : l.clear.held = [] := List.take_zero

theorem length_held : l.held.length = l.len := by
  have hlen := l.len_le
  rw [held, List.length_take, l.bytes_length]
  omega

theorem repeats_iff : l.repeats report = true ↔ report = l.held := by
  simp only [repeats, Bool.and_eq_true, beq_iff_eq, decide_eq_true_eq]
  constructor
  · rintro ⟨⟨hlen, -⟩, hsame⟩
    rw [held, ← hlen]
    exact hsame
  · rintro rfl
    have hle := l.len_le
    rw [length_held]
    exact ⟨⟨rfl, hle⟩, rfl⟩

theorem held_keep (h : report.length ≤ kLastReportSize) : (l.keep report).held = report := by
  unfold keep
  rw [dif_pos h]
  exact List.take_left

theorem keep_long (h : ¬ report.length ≤ kLastReportSize) : l.keep report = l := by
  unfold keep
  rw [dif_neg h]

end LastReport

/-! ## The diagnostic -/

inductive Output where
  | connect (address : BdAddr)
  | disconnect (cid : UInt16)
  | decline (cid : UInt16)
  | accept (cid : UInt16)
  | pinCodeNegative (address : BdAddr)
  | sspConfirm (address : BdAddr)
  | printed (report : List UInt8)
  deriving DecidableEq

/-- `outputs` are those of the last step only. -/
structure Dump where
  hidCid : UInt16 := 0
  lastHidCid : UInt16 := 0
  reconnectTimer : Option UInt32 := none
  descriptorReady : Bool := false
  lastReport : LastReport := {}
  outputs : List Output := []

namespace Dump

def emit (d : Dump) (o : Output) : Dump := { d with outputs := d.outputs ++ [o] }

/-- `schedule_connect`. -/
def scheduleConnect (d : Dump) (delayMs : UInt32) : Dump := { d with reconnectTimer := some delayMs }

/-- `connect_controller`: `hid_host_connect` answers a status, and a connection ID when it succeeds. -/
def connectController (controller : BdAddr) (d : Dump) (status : UInt8) (cid : UInt16) : Dump :=
  if d.hidCid ≠ 0 then d
  else
    let d := d.emit (.connect controller)
    if status ≠ kSuccess then
      -- a prior attempt can leave its control channel closing
      let d := if status = kCommandDisallowed ∧ d.lastHidCid ≠ 0 then d.emit (.disconnect d.lastHidCid) else d
      { d with hidCid := 0 }.scheduleConnect 5000
    else { d with hidCid := cid, lastHidCid := 0 }

/-- `HID_SUBEVENT_INCOMING_CONNECTION`. -/
def incomingConnection (controller : BdAddr) (d : Dump) (address : BdAddr) (cid : UInt16) (status acceptStatus : UInt8) :
    Dump :=
  if status ≠ kSuccess ∨ address ≠ controller then d.emit (.decline cid)
  else
    let d := { d with reconnectTimer := none, hidCid := cid, lastHidCid := 0 }.emit (.accept cid)
    if acceptStatus ≠ kSuccess then { d with hidCid := 0 }.scheduleConnect 3000 else d

/-- `HID_SUBEVENT_CONNECTION_OPENED`. -/
def connectionOpened (d : Dump) (status : UInt8) (cid : UInt16) : Dump :=
  if status = kSuccess then
    { d with
      reconnectTimer := none
      lastHidCid := 0
      descriptorReady := false
      lastReport := d.lastReport.clear
      hidCid := cid }
  else { d.emit (.disconnect cid) with lastHidCid := cid, hidCid := 0 }.scheduleConnect 5000

/-- `HID_SUBEVENT_CONNECTION_CLOSED`. -/
def connectionClosed (d : Dump) : Dump :=
  { d with hidCid := 0, lastHidCid := 0, descriptorReady := false, lastReport := d.lastReport.clear }.scheduleConnect 3000

/-- `HID_SUBEVENT_REPORT`: the raw line of a report that is not the last one again. -/
def report (d : Dump) (bytes : List UInt8) : Dump :=
  if d.lastReport.repeats bytes then d else { d with lastReport := d.lastReport.keep bytes }.emit (.printed bytes)

end Dump

/-- What BTstack and its run loop hand to the diagnostic. -/
inductive Event where
  | state (working : Bool)
  | reconnectTimer (status : UInt8) (cid : UInt16)
  | pinCodeRequest (address : BdAddr)
  | userConfirmationRequest (address : BdAddr)
  | incomingConnection (address : BdAddr) (cid : UInt16) (status acceptStatus : UInt8)
  | connectionOpened (status : UInt8) (cid : UInt16)
  | descriptorAvailable (status : UInt8)
  | report (bytes : List UInt8)
  | connectionClosed

/-- `packet_handler`, and `connect_controller` when its timer expires. -/
def step (controller : BdAddr) (d : Dump) (e : Event) : Dump :=
  let d := { d with outputs := [] }
  match e with
  | .state working => if working then d.scheduleConnect 100 else d
  | .reconnectTimer status cid =>
    if d.reconnectTimer.isSome then { d with reconnectTimer := none }.connectController controller status cid else d
  | .pinCodeRequest address => d.emit (.pinCodeNegative address)
  | .userConfirmationRequest address => d.emit (.sspConfirm address)
  | .incomingConnection address cid status acceptStatus => d.incomingConnection controller address cid status acceptStatus
  | .connectionOpened status cid => d.connectionOpened status cid
  | .descriptorAvailable status => if status = kSuccess then { d with descriptorReady := true } else d
  | .report bytes => d.report bytes
  | .connectionClosed => d.connectionClosed

variable {controller : BdAddr} {d : Dump} {e : Event}

/-! ## The printed reports -/

def Event.heard : Event → List (List UInt8)
  | .report bytes => [bytes]
  | _ => []

theorem Event.eq_report {bytes : List UInt8} {rest : List (List UInt8)} (h : e.heard = bytes :: rest) :
    e = .report bytes ∧ rest = [] := by
  cases e with
  | report heard =>
    obtain ⟨rfl, rfl⟩ := List.cons.inj h
    exact ⟨rfl, rfl⟩
  | _ => cases h

/-- The event forgets the last report. -/
def Event.restarts : Event → Bool
  | .connectionOpened status _ => status == kSuccess
  | .connectionClosed => true
  | _ => false

def Output.report : Output → Option (List UInt8)
  | .printed bytes => some bytes
  | _ => none

/-- The reports that a step prints. -/
def printed (controller : BdAddr) (d : Dump) (e : Event) : List (List UInt8) :=
  (step controller d e).outputs.filterMap Output.report

/-- A report that fits. -/
def short (bytes : List UInt8) : Bool := bytes.length ≤ kLastReportSize

/-- An event that is no report prints none, and keeps the last one unless it restarts. -/
theorem step_other (controller : BdAddr) (d : Dump) (hheard : e.heard = []) (hrestarts : e.restarts = false) :
    (step controller d e).lastReport = d.lastReport ∧ printed controller d e = [] := by
  cases e with
  | state working =>
    unfold printed step
    dsimp only
    split <;> exact ⟨rfl, rfl⟩
  | reconnectTimer status cid =>
    unfold printed step Dump.connectController
    dsimp only
    split_ifs <;> exact ⟨rfl, rfl⟩
  | pinCodeRequest address => exact ⟨rfl, rfl⟩
  | userConfirmationRequest address => exact ⟨rfl, rfl⟩
  | incomingConnection address cid status acceptStatus =>
    unfold printed step Dump.incomingConnection
    dsimp only
    split_ifs <;> exact ⟨rfl, rfl⟩
  | connectionOpened status cid =>
    have hfailed : status ≠ kSuccess := by simpa [Event.restarts] using hrestarts
    unfold printed step Dump.connectionOpened
    dsimp only
    rw [if_neg hfailed]
    exact ⟨rfl, rfl⟩
  | descriptorAvailable status =>
    unfold printed step
    dsimp only
    split <;> exact ⟨rfl, rfl⟩
  | report bytes => cases hheard
  | connectionClosed => cases hrestarts

/-- A report is the last one again, or is printed. -/
theorem step_report (controller : BdAddr) (d : Dump) (bytes : List UInt8) :
    (bytes = d.lastReport.held ∧ (step controller d (.report bytes)).lastReport = d.lastReport ∧
        printed controller d (.report bytes) = []) ∨
      (bytes ≠ d.lastReport.held ∧ (step controller d (.report bytes)).lastReport = d.lastReport.keep bytes ∧
        printed controller d (.report bytes) = [bytes]) := by
  unfold printed step Dump.report
  dsimp only
  by_cases h : bytes = d.lastReport.held
  · left
    rw [if_pos (LastReport.repeats_iff.2 h)]
    exact ⟨h, rfl, rfl⟩
  · right
    rw [if_neg fun hrepeats => h (LastReport.repeats_iff.1 hrepeats)]
    exact ⟨h, rfl, rfl⟩

/-- While the last report is not forgotten, the reports printed are the changes among those that fit, the retained
report before them, and all that do not fit. -/
theorem prints_changes (controller : BdAddr) (d : Dump) (es : List Event) (hes : ∀ e ∈ es, e.restarts = false) :
    d.lastReport.held :: (Run.collect (step controller) (printed controller) d es).filter short =
        (d.lastReport.held :: (es.flatMap Event.heard).filter short).destutter (· ≠ ·) ∧
      (Run.collect (step controller) (printed controller) d es).filter (! short ·) =
        (es.flatMap Event.heard).filter (! short ·) := by
  rw [List.destutter_cons']
  induction es generalizing d with
  | nil => exact ⟨rfl, rfl⟩
  | cons e es ih =>
    obtain ⟨hshort, hlong⟩ := ih (step controller d e) fun f hf => hes f (List.mem_cons_of_mem _ hf)
    rw [Run.collect_cons, List.flatMap_cons, List.filter_append, List.filter_append, List.filter_append, List.filter_append,
      hlong]
    cases hheard : e.heard with
    | nil =>
      obtain ⟨hkept, hnone⟩ := step_other controller d hheard (hes e List.mem_cons_self)
      rw [hkept] at hshort
      rw [hnone]
      exact ⟨hshort, rfl⟩
    | cons bytes rest =>
      obtain ⟨rfl, rfl⟩ := Event.eq_report hheard
      by_cases hfits : bytes.length ≤ kLastReportSize
      · have hyes : short bytes = true := decide_eq_true hfits
        rcases step_report controller d bytes with ⟨hsame, hkept, hnone⟩ | ⟨hnew, hkept, hone⟩
        · rw [hkept] at hshort
          rw [hnone, List.filter_cons_of_pos hyes, List.filter_cons_of_neg (by simp [hyes])]
          refine ⟨hshort.trans (List.destutter'_cons_neg _ ?_).symm, rfl⟩
          exact fun hne => hne hsame.symm
        · rw [hkept, LastReport.held_keep hfits] at hshort
          rw [hone, List.filter_cons_of_pos hyes, List.filter_cons_of_neg (by simp [hyes])]
          refine ⟨?_, rfl⟩
          rw [List.filter_nil, List.singleton_append, List.singleton_append, hshort]
          exact (List.destutter'_cons_pos _ (Ne.symm hnew)).symm
      · -- a report that does not fit is not the last one, and is not retained
        have hno : ¬ short bytes = true := fun h => hfits (of_decide_eq_true h)
        rcases step_report controller d bytes with ⟨hsame, -, -⟩ | ⟨-, hkept, hone⟩
        · have hle := d.lastReport.len_le
          rw [hsame, LastReport.length_held] at hfits
          exact absurd hle hfits
        · rw [hkept, LastReport.keep_long hfits] at hshort
          rw [hone, List.filter_cons_of_neg hno, List.filter_cons_of_pos (by simpa using hno)]
          exact ⟨hshort, rfl⟩

/-- A report twice, one that does not fit, the first again, and another. -/
def pressedOnce : List Event :=
  [.report [0xA1, 1], .report [0xA1, 1], .report (List.replicate 70 0xA1), .report [0xA1, 1], .report [0xA1, 2]]

theorem prints_changes_pressedOnce :
    [] :: (Run.collect (step {}) (printed {}) {} pressedOnce).filter short =
        ([] :: (pressedOnce.flatMap Event.heard).filter short).destutter (· ≠ ·) ∧
      (Run.collect (step {}) (printed {}) {} pressedOnce).filter (! short ·) =
        (pressedOnce.flatMap Event.heard).filter (! short ·) :=
  prints_changes {} {} pressedOnce (by decide)

/-! ## The connection -/

/-- BTstack has a new connection object for the diagnostic, or none any more. -/
def Owns (controller : BdAddr) (d : Dump) : Event → Prop
  | .reconnectTimer status _ => d.reconnectTimer.isSome = true ∧ d.hidCid = 0 ∧ status = kSuccess
  | .incomingConnection address _ status _ => status = kSuccess ∧ address = controller
  | .connectionOpened status _ => status = kSuccess
  | .connectionClosed => True
  | _ => False

/-- The attempt of this ID failed. -/
def Fails (cid : UInt16) (_ : Dump) (e : Event) : Prop := ∃ status, status ≠ kSuccess ∧ e = .connectionOpened status cid

/-- The event that has to do with the connection or with an attempt. -/
def Event.connects : Event → Bool
  | .reconnectTimer _ _ => true
  | .incomingConnection _ _ _ _ => true
  | .connectionOpened _ _ => true
  | .connectionClosed => true
  | _ => false

/-- Any other event leaves both IDs, keeps an attempt that is due, and hands over no disconnect. -/
structure Apart (d d' : Dump) : Prop where
  hidCid : d'.hidCid = d.hidCid
  lastHidCid : d'.lastHidCid = d.lastHidCid
  due : d.reconnectTimer.isSome = true → d'.reconnectTimer.isSome = true
  outputs : ∀ cid, .disconnect cid ∉ d'.outputs

theorem step_apart (controller : BdAddr) (d : Dump) (h : e.connects = false) : Apart d (step controller d e) := by
  cases e with
  | state working =>
    unfold step
    dsimp only
    split
    · exact ⟨rfl, rfl, fun _ => rfl, fun _ => List.not_mem_nil⟩
    · exact ⟨rfl, rfl, id, fun _ => List.not_mem_nil⟩
  | pinCodeRequest address => exact ⟨rfl, rfl, id, by simp [step, Dump.emit]⟩
  | userConfirmationRequest address => exact ⟨rfl, rfl, id, by simp [step, Dump.emit]⟩
  | descriptorAvailable status =>
    unfold step
    dsimp only
    split <;> exact ⟨rfl, rfl, id, fun _ => List.not_mem_nil⟩
  | report bytes =>
    unfold step Dump.report
    dsimp only
    split
    · exact ⟨rfl, rfl, id, fun _ => List.not_mem_nil⟩
    · exact ⟨rfl, rfl, id, by simp [Dump.emit]⟩
  | _ => cases h

theorem not_owns (h : e.connects = false) : ¬ Owns controller d e := by
  cases e <;> first
    | exact id
    | cases h

/-- A failed ID that is kept is that of a failure, or was kept before by an event that owns no connection. -/
theorem step_lastHidCid {cid : UInt16} (hcid : cid ≠ 0) (h : (step controller d e).lastHidCid = cid) :
    Fails cid d e ∨ d.lastHidCid = cid ∧ ¬ Owns controller d e := by
  cases e with
  | reconnectTimer status new =>
    unfold step Dump.connectController at h
    dsimp only at h
    split_ifs at h with harmed hlive hfailed hheld
    · exact .inr ⟨h, fun ⟨_, hfree, _⟩ => hlive hfree⟩
    · exact .inr ⟨h, fun ⟨_, _, hok⟩ => hfailed hok⟩
    · exact .inr ⟨h, fun ⟨_, _, hok⟩ => hfailed hok⟩
    · exact absurd h.symm hcid
    · exact .inr ⟨h, fun ⟨hdue, _, _⟩ => harmed hdue⟩
  | incomingConnection address new status acceptStatus =>
    unfold step Dump.incomingConnection at h
    dsimp only at h
    split_ifs at h with hdeclined
    · refine .inr ⟨h, ?_⟩
      rintro ⟨hok, haddress⟩
      exact hdeclined.elim (fun hno => hno hok) fun hno => hno haddress
    · exact absurd h.symm hcid
    · exact absurd h.symm hcid
  | connectionOpened status new =>
    unfold step Dump.connectionOpened at h
    dsimp only at h
    split_ifs at h with hok
    · exact absurd h.symm hcid
    · obtain rfl : new = cid := h
      exact .inl ⟨status, hok, rfl⟩
  | connectionClosed => exact absurd h.symm hcid
  | _ => exact .inr ⟨(step_apart controller d rfl).lastHidCid.symm.trans h, not_owns rfl⟩

/-- A disconnect is of an attempt that fails at once, or of the failed one that is kept; and then there is no
connection. -/
theorem step_disconnect {cid : UInt16} (h : .disconnect cid ∈ (step controller d e).outputs) :
    (step controller d e).hidCid = 0 ∧
      (Fails cid d e ∨ cid ≠ 0 ∧ d.lastHidCid = cid ∧ ¬ Owns controller d e) := by
  cases e with
  | reconnectTimer status new =>
    unfold step Dump.connectController at h ⊢
    dsimp only at h ⊢
    split_ifs at h ⊢ with harmed hlive hfailed hheld
    · cases h
    · simp [Dump.emit, Dump.scheduleConnect] at h
      refine ⟨rfl, .inr ⟨fun hzero => hheld.2 (h.symm.trans hzero), h.symm, ?_⟩⟩
      rintro ⟨-, -, hok⟩
      exact hfailed hok
    · simp [Dump.emit, Dump.scheduleConnect] at h
    · simp [Dump.emit] at h
    · cases h
  | incomingConnection address new status acceptStatus =>
    unfold step Dump.incomingConnection at h
    dsimp only at h
    split_ifs at h <;> simp [Dump.emit, Dump.scheduleConnect] at h
  | connectionOpened status new =>
    unfold step Dump.connectionOpened at h ⊢
    dsimp only at h ⊢
    split_ifs at h ⊢ with hok
    · cases h
    · simp [Dump.emit, Dump.scheduleConnect] at h
      subst h
      exact ⟨rfl, .inl ⟨status, hok, rfl⟩⟩
  | connectionClosed => cases h
  | _ => exact absurd h ((step_apart controller d rfl).outputs cid)

/-- A new connection object has an ID. -/
def Numbered : Event → Prop
  | .reconnectTimer status cid => status = kSuccess → cid ≠ 0
  | .incomingConnection _ cid status _ => status = kSuccess → cid ≠ 0
  | .connectionOpened status cid => status = kSuccess → cid ≠ 0
  | _ => True

/-- There is a connection, or an attempt is due. -/
def Awake (d : Dump) : Prop := d.hidCid ≠ 0 ∨ d.reconnectTimer.isSome = true

theorem Apart.awake {d' : Dump} (h : Apart d d') (ha : Awake d) : Awake d' :=
  ha.imp (fun hlive => h.hidCid ▸ hlive) h.due

theorem step_awake (d : Dump) (e : Event) (h : Awake d) (he : Numbered e) : Awake (step controller d e) := by
  cases e with
  | reconnectTimer status new =>
    unfold step Dump.connectController
    dsimp only
    split_ifs with harmed hlive hfailed hheld
    · exact .inl hlive
    · exact .inr rfl
    · exact .inr rfl
    · exact .inl (he (not_not.1 hfailed))
    · exact h
  | incomingConnection address new status acceptStatus =>
    unfold step Dump.incomingConnection
    dsimp only
    split_ifs with hdeclined
    · exact h
    · exact .inr rfl
    · rw [not_or, not_not] at hdeclined
      exact .inl (he hdeclined.1)
  | connectionOpened status new =>
    unfold step Dump.connectionOpened
    dsimp only
    split_ifs with hok
    · exact .inl (he hok)
    · exact .inr rfl
  | connectionClosed => exact .inr rfl
  | _ => exact Apart.awake (step_apart controller d rfl) h

/-- The connection to the controller, over every run. A disconnect handed to BTstack is of an attempt that failed
with no connection object after it, and there is no connection then; and once the stack works there is always a
connection or an attempt that is due, if BTstack numbers its connections from 1. -/
theorem keeps_connection (controller : BdAddr) (es : List Event) :
    (∀ e cid, .disconnect cid ∈ (Run.exec (step controller) {} (es ++ [e])).outputs →
      (Run.exec (step controller) {} (es ++ [e])).hidCid = 0 ∧
        Run.Since (step controller) (Owns controller) (Fails cid) {} (es ++ [e])) ∧
      ((∀ e ∈ es, Numbered e) → .state true ∈ es → Awake (Run.exec (step controller) {} es)) := by
  constructor
  · intro e cid hout
    rw [Run.exec_concat] at hout ⊢
    obtain ⟨hfree, hfails | ⟨hcid, hlast, hno⟩⟩ := step_disconnect hout
    · exact ⟨hfree, Run.since_concat (.inl hfails)⟩
    · refine ⟨hfree, Run.since_concat (.inr ⟨?_, hno⟩)⟩
      exact Run.since_of_latch (fun _ => True) (fun _ _ => True) (fun d => d.lastHidCid = cid) (fun _ _ _ _ => trivial)
        (fun d f _ _ hl => step_lastHidCid hcid hl) (Run.always_of_forall (fun _ _ => trivial) _ _) trivial
        (fun hzero => hcid hzero.symm) hlast
  · intro hes hworking
    obtain ⟨pre, post, rfl⟩ := List.append_of_mem hworking
    have hpost : Run.Always (step controller) (fun _ e => Numbered e)
        (Run.exec (step controller) {} (pre ++ [.state true])) post := by
      rw [Run.always_iff_split]
      rintro before e after rfl
      exact hes e (by simp)
    rw [show pre ++ Event.state true :: post = (pre ++ [.state true]) ++ post by simp, Run.exec_append]
    apply Run.invariant step_awake hpost
    rw [Run.exec_concat]
    exact .inr rfl

/-- An attempt that fails. -/
def failedAttempt : List Event :=
  [.state true, .reconnectTimer kSuccess 5, .connectionOpened 4 5]

/-- The next attempt is not allowed, and lets go of the failed one. -/
theorem keeps_connection_failed :
    Awake (Run.exec (step {}) {} failedAttempt) ∧
      Run.Since (step {}) (Owns {}) (Fails 5) {} (failedAttempt ++ [.reconnectTimer kCommandDisallowed 0]) := by
  obtain ⟨hdisconnect, hawake⟩ := keeps_connection {} failedAttempt
  constructor
  · apply hawake
    · simp [failedAttempt, Numbered, kSuccess]
    · exact List.mem_cons_self
  · exact (hdisconnect (.reconnectTimer kCommandDisallowed 0) 5 (by decide)).2

end RedMonkeyMpg.HidDump
