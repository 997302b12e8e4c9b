/-
The three-second chord that confirms a selected candidate, over the runs of the receiver and its
connection. The start of the chord is a time that a report without the chord clears, and so do a
selection and its end; an unparsable report and the end of a connection leave it, and so the chord of
one connection may count for the next. In a run in which nothing comes in between, a chord is confirmed
only after it was held for three seconds over one connection to the candidate.
-/
import RedMonkeyMpg.Gamepad.Committed
import RedMonkeyMpg.Gamepad.Controls

namespace RedMonkeyMpg.Gamepad

/-- The trial of a candidate: whether there is one, its address, and its chord. -/
structure Trial where
  selected : Bool
  address : BdAddr
  confirmed : Bool
  startedMs : UInt32
  deriving DecidableEq

/-- A parsed report in the trial, with the chord pressed or not. -/
def Trial.report (t : Trial) (pressed : Bool) (nowMs : UInt32) : Trial :=
  if pressed then
    let started := if t.startedMs = 0 then nowMs else t.startedMs
    { t with confirmed := t.confirmed || nowMs - started ≥ 3000, startedMs := started }
  else { t with startedMs := 0 }

/-- No chord is confirmed or started. -/
def Trial.Fresh (t : Trial) : Prop := t.confirmed = false ∧ t.startedMs = 0

namespace Receiver

variable {p : Platform} {r : Receiver}

def trial (r : Receiver) : Trial :=
  { selected := r.pairingCandidateSelected
    address := r.controllerAddress
    confirmed := r.pairingChordConfirmed
    startedMs := r.pairingChordStartedMs }

theorem trial_congr {s : Receiver} (hsel : s.pairingCandidateSelected = r.pairingCandidateSelected)
    (haddr : s.controllerAddress = r.controllerAddress) (hc : s.chord = r.chord) : s.trial = r.trial := by
  have hconf : s.pairingChordConfirmed = r.pairingChordConfirmed := congrArg Prod.fst hc
  have hstart : s.pairingChordStartedMs = r.pairingChordStartedMs := congrArg Prod.snd hc
  unfold trial
  rw [hsel, haddr, hconf, hstart]

theorem trial_of_bond {s : Receiver} (hb : s.bond = r.bond) (hc : s.chord = r.chord) : s.trial = r.trial :=
  trial_congr (congrArg Bond.pairingCandidateSelected hb) (congrArg Bond.controllerAddress hb) hc

theorem fresh_of_chord {s : Receiver} (h : s.chord = (false, 0)) : s.trial.Fresh :=
  ⟨congrArg Prod.fst h, congrArg Prod.snd h⟩

/-! ## Reports -/

/-- The event is a report that parses and has L2, R2 and Plus pressed. -/
def Event.hasChord (r : Receiver) : Event → Bool
  | .bluetooth (.report bytes nowMs) =>
    (r.parseReport bytes nowMs).any fun raw => raw.buttons &&& kConfirmationChord == kConfirmationChord
  | _ => false

/-- The event is a report that does not parse. -/
def Event.unparsable (r : Receiver) : Event → Bool
  | .bluetooth (.report bytes nowMs) => (r.parseReport bytes nowMs).isNone
  | _ => false

theorem emitPairingState_trial (s : String) : (r.emitPairingState s).trial = r.trial := by
  unfold emitPairingState
  split <;> rfl

theorem confirmationChord_trial (ha : r.configActive = true) (input : GamepadState) (nowMs : UInt32) :
    (r.confirmationChord input nowMs).trial =
      r.trial.report (input.buttons &&& kConfirmationChord == kConfirmationChord) nowMs := by
  have hstart : (if r.pairingChordStartedMs = 0 then { r with pairingChordStartedMs := nowMs } else r) =
      { r with pairingChordStartedMs := if r.pairingChordStartedMs = 0 then nowMs else r.pairingChordStartedMs } := by
    split <;> rfl
  unfold confirmationChord Trial.report
  rw [if_neg (by simp [ha])]
  dsimp only
  rw [hstart]
  generalize hs : (if r.pairingChordStartedMs = 0 then nowMs else r.pairingChordStartedMs) = started
  have hs' : (if r.trial.startedMs = 0 then nowMs else r.trial.startedMs) = started := hs
  rw [hs']
  split
  · split
    · rename_i hheld
      simp only [Bool.and_eq_true, Bool.not_eq_true', decide_eq_true_eq] at hheld
      rw [emitPairingState_trial]
      simp [trial, hheld.2]
    · rename_i hno
      have hkeep : (r.pairingChordConfirmed || decide (nowMs - started ≥ 3000)) = r.pairingChordConfirmed := by
        cases hc : r.pairingChordConfirmed with
        | true => rfl
        | false => simpa [hc] using hno
      simp only [trial, hkeep]
  · rfl

/-- A report in the trial: only a parsed one of a selected candidate counts. -/
theorem step_report_trial (hg : Guarded r) (bytes : List UInt8) (nowMs : UInt32) :
    (step p r (.bluetooth (.report bytes nowMs))).trial =
      if r.pairingCandidateSelected && (r.parseReport bytes nowMs).isSome then
        r.trial.report (Event.hasChord r (.bluetooth (.report bytes nowMs))) nowMs
      else r.trial := by
  show (r.silent.consumeControllerReport bytes nowMs).trial = _
  have hparse : r.silent.parseReport bytes nowMs = r.parseReport bytes nowMs := rfl
  unfold consumeControllerReport
  rw [hparse]
  cases hp : r.parseReport bytes nowMs with
  | none => simp [refuseReport, resetMapper, trial, publishRelease, silent]
  | some raw =>
    have hbuttons : (applyProductionMapping raw r.silent.productionMapping).buttons = raw.buttons :=
      (applyProductionMapping_mapped raw r.productionMapping).buttons
    dsimp only
    unfold consumeInput
    cases hsel : r.pairingCandidateSelected with
    | true =>
      have hchord := confirmationChord_trial (r := r.silent) (hg.candidate hsel)
        (applyProductionMapping raw r.silent.productionMapping) nowMs
      rw [hbuttons] at hchord
      rw [if_pos (show r.silent.pairingCandidateSelected = true from hsel)]
      simp only [Bool.true_and, Option.isSome_some, if_true, Event.hasChord, hp, Option.any_some]
      exact hchord
    | false =>
      rw [if_neg (show ¬ r.silent.pairingCandidateSelected = true by simp [silent, hsel])]
      simp only [Bool.false_and, Bool.false_eq_true, if_false]
      split
      · rfl
      · split
        · unfold rearm
          dsimp only
          split <;> rfl
        · rfl

/-! ## Other events -/

/-- One of the requests is a selection that succeeds. -/
def reselectsIn (p : Platform) (r : Receiver) : List SetupCommand → Bool
  | [] => false
  | c :: cs => c.reselects p r || reselectsIn p (handleCommand p r c) cs

/-- A candidate is selected in the event. -/
def Event.reselects (p : Platform) (r : Receiver) : Event → Bool
  | .setupSession cdcConnected commands =>
    r.configConnected cdcConnected && reselectsIn p { r.silent with configActive := true } commands
  | _ => false

theorem fresh_of_cleared {s : Receiver} (h : s.aside = r.cleared) : s.trial.Fresh :=
  fresh_of_chord (congrArg Prod.snd h)

theorem handleCommands_trial (cs : List SetupCommand) (r : Receiver) :
    ((cs.foldl (handleCommand p) r).trial = r.trial ∧ reselectsIn p r cs = false) ∨
      (cs.foldl (handleCommand p) r).trial.Fresh := by
  induction cs generalizing r with
  | nil => exact .inl ⟨rfl, rfl⟩
  | cons c cs ih =>
    rw [List.foldl_cons]
    rcases handleCommand_aside (p := p) r c with ⟨hno, ha, hb⟩ | hcleared
    · have hsame : (handleCommand p r c).trial = r.trial := trial_of_bond hb (congrArg Prod.snd ha)
      rcases ih (handleCommand p r c) with ⟨ht, hrest⟩ | hfresh
      · exact .inl ⟨ht.trans hsame, by rw [reselectsIn, hno, hrest]; rfl⟩
      · exact .inr hfresh
    · right
      rcases ih (handleCommand p r c) with ⟨ht, -⟩ | hfresh
      · rw [ht]
        exact fresh_of_cleared hcleared
      · exact hfresh

theorem setupSession_trial (cdc : Bool) (cs : List SetupCommand) :
    ((setupSession p r cdc cs).trial = r.trial ∧
        (r.configConnected cdc && reselectsIn p { r with configActive := true } cs) = false) ∨
      (setupSession p r cdc cs).trial.Fresh := by
  have hservice : ((configService p r cdc cs).trial = r.trial ∧
        (r.configConnected cdc && reselectsIn p { r with configActive := true } cs) = false) ∨
      (configService p r cdc cs).trial.Fresh := by
    unfold configService
    cases r.configConnected cdc with
    | true => exact handleCommands_trial cs { r with configActive := true }
    | false => exact .inl ⟨rfl, rfl⟩
  unfold setupSession
  dsimp only
  generalize configService p r cdc cs = s at hservice ⊢
  split
  · exact hservice
  · split
    · exact .inr (fresh_of_cleared (r := s) (s := Receiver.cancelPairing p s) cancelPairing_aside)
    · exact hservice

/-- An event that is no report leaves the trial alone and selects no candidate, or clears the chord. -/
theorem step_other_trial (r : Receiver) {e : Event} (h : e.reportMs = none) :
    ((step p r e).trial = r.trial ∧ e.reselects p r = false) ∨ (step p r e).trial.Fresh := by
  cases e with
  | bluetooth b =>
    obtain ⟨profile, -, ⟨ha, hsel, haddr⟩ | ha⟩ := bluetooth_aside (p := p) r.silent h
    · exact .inl ⟨trial_congr hsel haddr (congrArg Prod.snd ha), rfl⟩
    · exact .inr (fresh_of_chord (congrArg Prod.snd ha))
  | usb cb => exact .inl ⟨rfl, rfl⟩
  | setupSession cdc cs => exact setupSession_trial (r := r.silent) cdc cs
  | serviceStaleInput nowMs =>
    exact .inl ⟨trial_of_bond (serviceStaleInput_bond (r := r.silent) nowMs)
      (congrArg Prod.snd (serviceStaleInput_aside (r := r.silent) nowMs)), rfl⟩
  | serviceUsbKeyboard a =>
    exact .inl ⟨trial_of_bond (serviceUsbKeyboard_bond (r := r.silent) a)
      (congrArg Prod.snd (serviceUsbKeyboard_aside (r := r.silent) a)), rfl⟩

/-- A step after which a chord is started and not confirmed is the report that starts it, or found it started,
and is no selection and no report without the chord. -/
theorem step_started (hg : Guarded r) (e : Event)
    (hparse : r.trial.selected = true → r.trial.confirmed = false → r.trial.startedMs ≠ 0 → e.unparsable r = false)
    (hsel : (step p r e).trial.selected = true) (hconf : (step p r e).trial.confirmed = false)
    (hstart : (step p r e).trial.startedMs ≠ 0) :
    (e.hasChord r = true ∧ e.reportMs = some (step p r e).trial.startedMs ∧
        r.trial = { (step p r e).trial with startedMs := 0 }) ∨
      (r.trial = (step p r e).trial ∧ (e.reportMs ≠ none → e.hasChord r = true) ∧ e.reselects p r = false) := by
  cases he : e.reportMs with
  | none =>
    rcases step_other_trial (p := p) r he with ⟨ht, hno⟩ | hfresh
    · exact .inr ⟨ht.symm, fun h => absurd rfl h, hno⟩
    · exact absurd hfresh.2 hstart
  | some nowMs =>
    obtain ⟨bytes, rfl⟩ := Event.eq_report he
    have htrial := step_report_trial (p := p) hg bytes nowMs
    generalize (step p r (.bluetooth (.report bytes nowMs))).trial = after at hsel hconf hstart htrial ⊢
    split at htrial
    · cases hpressed : Event.hasChord r (.bluetooth (.report bytes nowMs)) with
      | false =>
        rw [hpressed] at htrial
        rw [htrial] at hstart
        exact absurd rfl hstart
      | true =>
        rw [hpressed] at htrial
        subst htrial
        simp only [Trial.report, if_true, Bool.or_eq_false_iff] at hconf hstart ⊢
        by_cases hzero : r.trial.startedMs = 0
        · simp only [if_pos hzero] at hstart ⊢
          refine .inl ⟨trivial, trivial, ?_⟩
          have hno : (r.trial.confirmed || decide (nowMs - nowMs ≥ 3000)) = r.trial.confirmed := by
            rw [hconf.1, UInt32.sub_self]
            rfl
          rw [hno, ← hzero]
        · simp only [if_neg hzero] at hconf ⊢
          refine .inr ⟨?_, fun _ => trivial, rfl⟩
          have hno : (r.trial.confirmed || decide (nowMs - r.trial.startedMs ≥ 3000)) = r.trial.confirmed := by
            rw [hconf.1, hconf.2]
            rfl
          rw [hno]
    · -- a candidate's report that does not parse comes with no chord started
      rename_i hno
      subst htrial
      have hselected : r.pairingCandidateSelected = true := hsel
      rw [hselected, Bool.true_and] at hno
      have hunparsable : Event.unparsable r (.bluetooth (.report bytes nowMs)) = true := by
        simpa [Event.unparsable] using hno
      exact Bool.noConfusion ((hparse hsel hconf hstart).symm.trans hunparsable)

/-- A step that confirms a chord is a report with it, three seconds after a start. -/
theorem step_confirms (hg : Guarded r) (e : Event) (hbefore : r.trial.confirmed = false)
    (hafter : (step p r e).trial.confirmed = true) :
    e.hasChord r = true ∧ r.trial.selected = true ∧ r.trial.startedMs ≠ 0 ∧
      ∃ nowMs ∈ e.reportMs, 3000 ≤ nowMs - r.trial.startedMs := by
  cases he : e.reportMs with
  | none =>
    rcases step_other_trial (p := p) r he with ⟨ht, -⟩ | hfresh
    · rw [ht, hbefore] at hafter
      cases hafter
    · exact Bool.noConfusion (hfresh.1.symm.trans hafter)
  | some nowMs =>
    obtain ⟨bytes, rfl⟩ := Event.eq_report he
    rw [step_report_trial hg bytes nowMs] at hafter
    split at hafter
    · rename_i hcounts
      have hsel : r.trial.selected = true := (Bool.and_eq_true_iff.1 hcounts).1
      cases hpressed : Event.hasChord r (.bluetooth (.report bytes nowMs)) with
      | false =>
        rw [hpressed] at hafter
        exact Bool.noConfusion (hbefore.symm.trans hafter)
      | true =>
        rw [hpressed] at hafter
        simp only [Trial.report, if_true, hbefore, Bool.false_or, decide_eq_true_eq] at hafter
        by_cases hzero : r.trial.startedMs = 0
        -- the report that starts a chord does not confirm it
        · rw [if_pos hzero, sub_self] at hafter
          exact absurd hafter (by decide)
        · rw [if_neg hzero] at hafter
          exact ⟨rfl, hsel, hzero, nowMs, rfl, hafter⟩
    · exact Bool.noConfusion (hbefore.symm.trans hafter)

end Receiver

/-! ## The connection between events -/

namespace World

open Receiver

variable {p : Platform}

/-- A link has an ID; one that is not closing is the one the receiver knows, and its peer is the address in
the buffer. -/
structure Known (w : World) : Prop where
  cid : ∀ l ∈ w.link, l.cid ≠ 0
  peer : ∀ l ∈ w.link, l.closing = false → w.receiver.hidCid = l.cid ∧ w.receiver.controllerAddress = l.peer

theorem known_none (r : Receiver) : Known { receiver := r, link := none } :=
  ⟨fun _ hl => (Option.not_mem_none _ hl).elim, fun _ hl => (Option.not_mem_none _ hl).elim⟩

/-- Every event that BTstack can bring keeps the link the receiver knows. -/
theorem step_known (w : World) (e : Event) (h : Known w) (hen : Enabled w e) : Known (w.step p e) := by
  have hlink := step_link (p := p) w e hen
  generalize w.step p e = w' at hlink ⊢
  refine ⟨hlink.cid_ne h.cid, fun l' hl' hopen => ?_⟩
  cases hlink with
  | ended r => exact (Option.not_mem_none _ hl').elim
  | connected hne hb =>
    cases hl'
    exact ⟨rfl, congrArg Bond.controllerAddress hb⟩
  | opened hcid hb =>
    obtain ⟨l, hmem, rfl⟩ := Option.map_eq_some_iff.1 hl'
    rw [show w.link = some l from hmem] at hcid
    have hpeer := (h.peer l hmem (Bool.or_eq_false_iff.1 hopen).1).2
    exact ⟨(Option.some.inj hcid).symm, (congrArg Bond.controllerAddress hb).trans hpeer⟩
  | kept hm =>
    obtain ⟨l, hmem, rfl⟩ := Option.map_eq_some_iff.1 hl'
    simp only [Link.after, Bool.or_eq_false_iff, List.contains_eq_mem, decide_eq_false_iff_not] at hopen
    obtain ⟨hcid, hpeer⟩ := h.peer l hmem hopen.1
    rcases hm with ⟨ha, haddr, -⟩ | hc
    · exact ⟨ha.hidCid.trans hcid, haddr.trans hpeer⟩
    · have hrequested := hc.disconnect (show w.receiver.hidCid ≠ 0 from hcid ▸ h.cid l hmem)
      exact absurd (hcid ▸ hrequested) hopen.2

/-- The end of a connection, or an opened event. -/
def ends : Event → Bool
  | .bluetooth .connectionClosed => true
  | .bluetooth (.connectionOpened _ _) => true
  | _ => false

/-- An event that ends no connection keeps the link there is. -/
theorem link_kept {w : World} {e : Event} {l : Link} (hl : w.link = some l) (hen : Enabled w e) (hends : ends e = false) :
    (w.step p e).link = some (l.after (Receiver.step p w.receiver e).outputs) := by
  have hno : e.connects = none := by
    cases hc : e.connects with
    | none => rfl
    | some cid =>
      have hnone := (hen.1 cid hc).1
      rw [hl] at hnone
      cases hnone
  have hmap : (w.link.map (·.after (Receiver.step p w.receiver e).outputs)) =
      some (l.after (Receiver.step p w.receiver e).outputs) := by
    rw [hl]
    rfl
  unfold World.step
  dsimp only
  cases e with
  | bluetooth b =>
    cases b with
    | incomingConnection address cid status acceptStatus =>
      have hrefused : status ≠ kSuccess := by
        rintro rfl
        cases hno
      have hnot := mt (accepts_iff (p := p) w.receiver address cid status acceptStatus).1 fun h => hrefused h.1
      unfold linkAfter
      dsimp only
      rw [if_neg (by simp [hnot])]
      exact hmap
    | reconnectTimer status cid =>
      have hrefused : status ≠ kSuccess := by
        rintro rfl
        cases hno
      unfold linkAfter
      dsimp only
      split
      · rw [if_neg hrefused]
        exact hmap
      · exact hmap
    | connectionOpened status cid => cases hends
    | connectionClosed => cases hends
    | _ => exact hmap
  | _ => exact hmap

/-! ## A held chord -/

/-- What breaks a hold: a report without the chord, parsed or not, the end of a connection, a new one, or a
selection. -/
def Interrupts (p : Platform) (w : World) (e : Event) : Prop :=
  (e.reportMs ≠ none ∧ e.hasChord w.receiver = false) ∨ ends e = true ∨ e.connects ≠ none ∨
    e.reselects p w.receiver = true

instance (w : World) (e : Event) : Decidable (Interrupts p w e) := inferInstanceAs (Decidable (_ ∨ _))

/-- A report with the chord, at least three seconds before `nowMs`, over the connection of the link `l` to the
address of the selected candidate. -/
def Starts (l : Link) (nowMs : UInt32) (w : World) (e : Event) : Prop :=
  e.hasChord w.receiver = true ∧ w.receiver.pairingCandidateSelected = true ∧ (∃ t ∈ e.reportMs, 3000 ≤ nowMs - t) ∧
    ∃ k ∈ w.link, k.cid = l.cid ∧ k.peer = l.peer ∧ k.peer = w.receiver.controllerAddress

instance (l : Link) (nowMs : UInt32) (w : World) (e : Event) : Decidable (Starts l nowMs w e) :=
  inferInstanceAs (Decidable (_ ∧ _ ∧ (∃ t ∈ e.reportMs, _) ∧ ∃ k ∈ w.link, _))

/-- The event, after a run, is a report with the chord over a connection to the selected candidate, which a
report with the chord over the same connection started at least three seconds before, with nothing that
breaks the hold in between. -/
def HeldChord (p : Platform) (start : World) (es : List Event) (e : Event) : Prop :=
  e.hasChord (Run.exec (step p) start es).receiver = true ∧
    (Run.exec (step p) start es).receiver.pairingCandidateSelected = true ∧
    ∃ nowMs ∈ e.reportMs, ∃ l ∈ (Run.exec (step p) start es).link,
      l.peer = (Run.exec (step p) start es).receiver.controllerAddress ∧
        Run.Since (step p) (Interrupts p) (Starts l nowMs) start es

instance (start : World) (es : List Event) (e : Event) : Decidable (HeldChord p start es e) :=
  inferInstanceAs (Decidable (_ ∧ _ ∧ ∃ nowMs ∈ e.reportMs, ∃ l ∈ (Run.exec (step p) start es).link, _))

/-- The law: only a held chord confirms. -/
def ConfirmedHeld (p : Platform) (start : World) (es : List Event) : Prop :=
  ∀ pre e post, es = pre ++ e :: post → (Run.exec (step p) start pre).receiver.pairingChordConfirmed = false →
    (Run.exec (step p) start (pre ++ [e])).receiver.pairingChordConfirmed = true → HeldChord p start pre e

/-- While a candidate is selected and its chord not confirmed: with a chord started, no report fails to parse
and no connection ends; and no report with the chord comes over a link that is being disconnected, but from
the candidate's own address. -/
def Unbroken (w : World) (e : Event) : Prop :=
  w.receiver.pairingCandidateSelected = true → w.receiver.pairingChordConfirmed = false →
    (w.receiver.pairingChordStartedMs ≠ 0 → e.unparsable w.receiver = false ∧ ends e = false) ∧
      (e.hasChord w.receiver = true → ∀ l ∈ w.link, l.closing = true → l.peer = w.receiver.controllerAddress)

instance (w : World) (e : Event) : Decidable (Unbroken w e) :=
  inferInstanceAs (Decidable (_ → _ → (_ → _) ∧ (_ → ∀ l ∈ w.link, _)))

/-- What holds between events: the session guards the candidate, the link is known, and a started chord has a
connection to the candidate. -/
structure Timed (w : World) : Prop where
  guarded : Guarded w.receiver
  known : Known w
  started : w.receiver.trial.selected = true → w.receiver.trial.confirmed = false → w.receiver.trial.startedMs ≠ 0 →
    ∃ l, w.link = some l ∧ l.peer = w.receiver.trial.address

theorem boot_timed (flash : Flash) (reads : Option Flash) : Timed (boot p flash reads) :=
  ⟨boot_guarded flash reads, known_none _, fun h => (Bool.false_ne_true h).elim⟩

/-- A report with the chord comes over a connection to the candidate. -/
theorem chord_link {w : World} {e : Event} (h : Timed w) (hen : Enabled w e) (hu : Unbroken w e)
    (hchord : e.hasChord w.receiver = true) (hreport : e.reportMs ≠ none) (hsel : w.receiver.trial.selected = true)
    (hconf : w.receiver.trial.confirmed = false) : ∃ l, w.link = some l ∧ l.peer = w.receiver.trial.address := by
  obtain ⟨l, hl⟩ := Option.ne_none_iff_exists'.1 (hen.2.2 hreport)
  refine ⟨l, hl, ?_⟩
  cases hclosing : l.closing with
  | true => exact (hu hsel hconf).2 hchord l hl hclosing
  | false => exact (h.known.peer l hl hclosing).2.symm

/-- An event after which a chord is started and not confirmed keeps its connection, and starts the chord or
does not break its hold. -/
theorem step_hold {w : World} {e : Event} (h : Timed w) (hen : Enabled w e) (hu : Unbroken w e)
    (hsel : (w.step p e).receiver.trial.selected = true) (hconf : (w.step p e).receiver.trial.confirmed = false)
    (hstart : (w.step p e).receiver.trial.startedMs ≠ 0) :
    ∃ l, w.link = some l ∧ l.peer = w.receiver.trial.address ∧
      (w.step p e).receiver.trial.address = w.receiver.trial.address ∧
      (w.step p e).link = some (l.after (Receiver.step p w.receiver e).outputs) ∧
      ((e.hasChord w.receiver = true ∧ w.receiver.trial.selected = true ∧
          e.reportMs = some (w.step p e).receiver.trial.startedMs) ∨
        (w.receiver.trial = (w.step p e).receiver.trial ∧ ¬ Interrupts p w e)) := by
  rcases step_started (p := p) h.guarded e (fun hs hc ht => ((hu hs hc).1 ht).1) hsel hconf hstart with
    ⟨hchord, hms, ht⟩ | ⟨ht, hreport, hno⟩
  · have hselected : w.receiver.trial.selected = true := (congrArg Trial.selected ht).trans hsel
    have hunconfirmed : w.receiver.trial.confirmed = false := (congrArg Trial.confirmed ht).trans hconf
    obtain ⟨l, hl, hpeer⟩ := chord_link h hen hu hchord (by rw [hms]; exact Option.some_ne_none _) hselected hunconfirmed
    have hends : ends e = false := by
      obtain ⟨report, he⟩ := Event.eq_report hms
      rw [he]
      rfl
    exact ⟨l, hl, hpeer, (congrArg Trial.address ht).symm, link_kept hl hen hends, .inl ⟨hchord, hselected, hms⟩⟩
  · have hbefore : w.receiver.trial.selected = true ∧ w.receiver.trial.confirmed = false ∧
        w.receiver.trial.startedMs ≠ 0 := by
      rw [ht]
      exact ⟨hsel, hconf, hstart⟩
    obtain ⟨hs, hc, hz⟩ := hbefore
    obtain ⟨l, hl, hpeer⟩ := h.started hs hc hz
    have hends := ((hu hs hc).1 hz).2
    refine ⟨l, hl, hpeer, (congrArg Trial.address ht).symm, link_kept hl hen hends, .inr ⟨ht, ?_⟩⟩
    rintro (⟨hr, hunpressed⟩ | hended | hconnects | hreselects)
    · exact Bool.noConfusion ((hreport hr).symm.trans hunpressed)
    · exact Bool.noConfusion (hends.symm.trans hended)
    · obtain ⟨cid, hcid⟩ := Option.ne_none_iff_exists'.1 hconnects
      have hnone := (hen.1 cid hcid).1
      rw [hl] at hnone
      cases hnone
    · exact Bool.noConfusion (hno.symm.trans hreselects)

theorem step_timed (w : World) (e : Event) (h : Timed w) (hen : Enabled w e) (hu : Unbroken w e) :
    Timed (w.step p e) := by
  refine ⟨step_guarded _ e h.guarded, step_known w e h.known hen, fun hsel hconf hstart => ?_⟩
  obtain ⟨l, -, hpeer, haddr, hafter, -⟩ := step_hold h hen hu hsel hconf hstart
  exact ⟨_, hafter, hpeer.trans haddr.symm⟩

/-- In every run from the boot, of events that BTstack can bring and that do not break a started chord, only a
chord held for three seconds over one connection to the selected candidate confirms it. -/
theorem confirmed_held (p : Platform) (flash : Flash) (reads : Option Flash) (es : List Event)
    (hen : Run.Always (step p) Enabled (boot p flash reads) es)
    (hu : Run.Always (step p) Unbroken (boot p flash reads) es) : ConfirmedHeld p (boot p flash reads) es := by
  rintro pre e post rfl hbefore hafter
  have hboth := (Run.always_append _ _ _ _).1 (hen.and hu)
  rw [Run.exec_concat] at hafter
  have hkeep : ∀ (w : World) (f : Event), Timed w → Enabled w f ∧ Unbroken w f → Timed (w.step p f) :=
    fun w f hw hf => step_timed w f hw hf.1 hf.2
  have htimed : Timed (Run.exec (step p) (boot p flash reads) pre) := Run.invariant hkeep hboth.1 (boot_timed flash reads)
  generalize hw : Run.exec (step p) (boot p flash reads) pre = w at hbefore hafter htimed
  obtain ⟨hchord, hsel, hstart, nowMs, hms, hlong⟩ := step_confirms htimed.guarded e hbefore hafter
  obtain ⟨l, hl, hpeer⟩ := htimed.started hsel hbefore hstart
  refine ⟨hw ▸ hchord, hw ▸ hsel, nowMs, hms, l, hw ▸ hl, hw ▸ hpeer, ?_⟩
  -- the chord's start, its candidate and its connection are up from the report that starts it
  refine Run.since_of_latch Timed (fun v f => Enabled v f ∧ Unbroken v f)
    (fun v => v.receiver.trial = w.receiver.trial ∧ ∃ k ∈ v.link, k.cid = l.cid ∧ k.peer = l.peer)
    hkeep ?_ hboth.1 (boot_timed flash reads) ?_ ⟨by rw [hw], l, by rw [hw]; exact hl, rfl, rfl⟩
  · rintro v f hv ⟨hvEn, hvU⟩ ⟨htrial, k, hk, hcid, hkpeer⟩
    have hunconfirmed : w.receiver.trial.confirmed = false := hbefore
    rw [← htrial] at hsel hunconfirmed hstart hlong
    obtain ⟨j, hj, hjpeer, haddr, hafterLink, hcase⟩ := step_hold hv hvEn hvU hsel hunconfirmed hstart
    obtain rfl : j.after (Receiver.step p v.receiver f).outputs = k := Option.some.inj (hafterLink.symm.trans hk)
    rcases hcase with ⟨hc, hs, hm⟩ | ⟨ht, hno⟩
    · exact .inl ⟨hc, hs, ⟨_, hm, hlong⟩, j, hj, hcid, hkpeer, hjpeer⟩
    · exact .inr ⟨⟨ht.trans htrial, j, hj, hcid, hkpeer⟩, hno⟩
  · rintro ⟨-, k, hk, -⟩
    exact Option.not_mem_none _ hk

/-- The selected candidate connects with a supported descriptor. -/
def candidateConnects : List Event :=
  selectCandidate ++
    [.bluetooth (.reconnectTimer kSuccess 7), .bluetooth (.connectionOpened kSuccess 7),
      .bluetooth (.descriptorAvailable kSuccess (some (List.replicate 83 0)) none)]

/-- The candidate holds the chord for three seconds. -/
theorem confirmed_held_candidate :
    ConfirmedHeld buildPlatform (boot buildPlatform (fun _ => none) none)
      (candidateConnects ++
        [.bluetooth (.report (lite2Report 0x0B 127) 3000), .bluetooth (.report (lite2Report 0x0B 127) 6000)]) :=
  confirmed_held buildPlatform (fun _ => none) none _ (by decide +kernel) (by decide +kernel)

/-- The candidate presses the chord, loses its connection and comes back. -/
def chordAndBack : List Event :=
  candidateConnects ++
    [.bluetooth (.report (lite2Report 0x0B 127) 3000), .bluetooth .connectionClosed,
      .bluetooth (.reconnectTimer kSuccess 8), .bluetooth (.connectionOpened kSuccess 8),
      .bluetooth (.descriptorAvailable kSuccess (some (List.replicate 83 0)) none)]

/-- The first report of the new connection confirms the chord, which the old one started. -/
theorem chord_across_connections :
    ¬ ∀ (flash : Flash) (reads : Option Flash) (es : List Event),
      Run.Always (step buildPlatform) Enabled (boot buildPlatform flash reads) es →
      ConfirmedHeld buildPlatform (boot buildPlatform flash reads) es := by
  intro h
  have hlaw := h (fun _ => none) none (chordAndBack ++ [.bluetooth (.report (lite2Report 0x0B 127) 6000)]) (by decide +kernel)
  have hheld := hlaw chordAndBack _ [] rfl (by decide +kernel) (by decide +kernel)
  revert hheld
  decide +kernel

end World

end RedMonkeyMpg.Gamepad
