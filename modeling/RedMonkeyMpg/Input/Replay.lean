/-
What the input session lets in. A frame is accepted exactly when it is well formed and its sequence
number is ahead of the last accepted one; a rejected frame leaves the session as it was; and an
accepted sequence number does not come back before the sequence has gone round by more than half.
-/
import RedMonkeyMpg.Input.Mobile
import RedMonkeyMpg.Lib.Run

namespace RedMonkeyMpg

/-! ## The law -/

/-- The frames of the protocol, on the bytes of the buffer. -/
structure WellFormed (data : List UInt8) : Prop where
  length : data.length = 10
  magic : data.getD 0 0 = 0x52
  version : data.getD 1 0 = 2
  crc : data.getD 9 0 = mobileCrc8 (data.take 9)
  profile : data.getD 8 0 = 1
  flags : data.getD 5 0 ≤ 0x07
  rate : ¬ (data.getD 5 0 &&& 0x02 ≠ 0 ∧ data.getD 5 0 &&& 0x04 ≠ 0)
  direction : data.getD 4 0 ≤ 6
  event : data.getD 7 0 ≤ 5

/-- The little-endian sequence number of a frame. -/
def sequenceNumber (data : List UInt8) : ℕ := (data.getD 2 0).toNat + 256 * (data.getD 3 0).toNat

namespace MobileInputSession

/-- The sequence number is 1 to 0x7FFF ahead of the last accepted one, modulo 2^16, if there is one. -/
def Ahead (s : MobileInputSession) (data : List UInt8) : Prop :=
  s.hasSequence = true →
    ∃ k, 1 ≤ k ∧ k ≤ 0x7FFF ∧ (s.lastSequence.toNat + k) % 2 ^ 16 = sequenceNumber data

/-- A buffer handed to `consume`, and the time. -/
abbrev Arrival := List UInt8 × UInt32

def step (s : MobileInputSession) (a : Arrival) : MobileInputSession := (s.consume a.1 a.2).1

def accepts (s : MobileInputSession) (a : Arrival) : Bool := (s.consume a.1 a.2).2.isOk

/-- How far an arrival moves the sequence on: not at all when it is rejected. -/
def advanced (s : MobileInputSession) (a : Arrival) : ℕ :=
  if s.accepts a then ((step s a).lastSequence - s.lastSequence).toNat else 0

/-! ## The frame's own checks -/

theorem flags_mask (flags : UInt8) : flags &&& 0xF8 = 0 ↔ flags ≤ 0x07 := by
  have h : ∀ n < 256, UInt8.ofNat n &&& 0xF8 = 0 ↔ UInt8.ofNat n ≤ 0x07 := by decide +kernel
  simpa using h flags.toNat flags.toNat_lt

theorem flags_rate (flags : UInt8) :
    flags &&& 0x06 = 0x06 ↔ flags &&& 0x02 ≠ 0 ∧ flags &&& 0x04 ≠ 0 := by
  have h : ∀ n < 256, UInt8.ofNat n &&& 0x06 = 0x06 ↔
      UInt8.ofNat n &&& 0x02 ≠ 0 ∧ UInt8.ofNat n &&& 0x04 ≠ 0 := by decide +kernel
  simpa using h flags.toNat flags.toNat_lt

theorem ofBytes_none {data : List UInt8} (h : MobileCommand.ofBytes data = none) : data.length ≠ 10 := by
  intro hlen
  match data, hlen with
  | [_, _, _, _, _, _, _, _, _, _], _ => cases h

/-- A command passes the checks of the frame exactly when its bytes are well formed. -/
theorem error_none_iff (c : MobileCommand) : c.error = none ↔ WellFormed c.bytes := by
  unfold MobileCommand.error
  constructor
  · intro h
    split_ifs at h with h1 h2 h3 h4 h5 h6 h7 h8
    rw [not_not] at h1 h2 h3 h4 h5
    exact ⟨rfl, h1, h2, h3.symm, h4, (flags_mask _).1 h5, fun hr => h8 ((flags_rate _).2 hr),
      UInt8.not_lt.1 h6, UInt8.not_lt.1 h7⟩
  · intro h
    obtain ⟨h1, h2, h3, h4⟩ : c.magic = 0x52 ∧ c.version = kMobileProtocolVersion ∧
        c.crc = mobileCrc8 c.body ∧ c.profile = MobileControllerProfile.masso.toUInt8 :=
      ⟨h.magic, h.version, h.crc, h.profile⟩
    obtain ⟨h5, h6, h7, h8⟩ : c.flags ≤ 0x07 ∧ c.direction ≤ 6 ∧ c.event ≤ 5 ∧
        ¬ (c.flags &&& 0x02 ≠ 0 ∧ c.flags &&& 0x04 ≠ 0) := ⟨h.flags, h.direction, h.event, h.rate⟩
    rw [if_neg (not_not.2 h1), if_neg (not_not.2 h2), if_neg (not_not.2 h3.symm), if_neg (not_not.2 h4),
      if_neg (not_not.2 ((flags_mask _).2 h5)), if_neg (UInt8.not_lt.2 h6), if_neg (UInt8.not_lt.2 h7),
      if_neg fun hr => h8 ((flags_rate _).1 hr)]

theorem sequence_toNat (c : MobileCommand) : c.sequence.toNat = sequenceNumber c.bytes := by
  have hlow : c.sequenceLow.toNat < 2 ^ 8 := c.sequenceLow.toNat_lt
  have hhigh : c.sequenceHigh.toNat < 2 ^ 8 := c.sequenceHigh.toNat_lt
  have hshift : c.sequenceHigh.toNat <<< 8 < 65536 := by
    rw [Nat.shiftLeft_eq]
    omega
  have hseq : c.sequence.toNat = c.sequenceLow.toNat ||| c.sequenceHigh.toNat <<< 8 := by
    simp [MobileCommand.sequence, Nat.mod_eq_of_lt hshift]
  rw [hseq, Nat.or_comm, ← Nat.shiftLeft_add_eq_or_of_lt hlow, Nat.shiftLeft_eq]
  show _ = c.sequenceLow.toNat + 256 * c.sequenceHigh.toNat
  omega

/-! ## What `consume` does -/

/-- A number that is not replayed is 1 to 0x7FFF ahead. -/
theorem replayed_iff (s : MobileInputSession) (c : MobileCommand) :
    s.replayed c.sequence = false ↔ s.Ahead c.bytes := by
  unfold replayed Ahead
  rw [← sequence_toNat]
  have hlast := s.lastSequence.toNat_lt
  have hseq := c.sequence.toNat_lt
  have hsub : (c.sequence - s.lastSequence).toNat =
      (2 ^ 16 - s.lastSequence.toNat + c.sequence.toNat) % 2 ^ 16 := UInt16.toNat_sub _ _
  have hzero : c.sequence - s.lastSequence = 0 ↔ (c.sequence - s.lastSequence).toNat = 0 := by
    rw [← UInt16.toNat_inj]
    rfl
  have hhalf : c.sequence - s.lastSequence > 0x7FFF ↔ (c.sequence - s.lastSequence).toNat > 0x7FFF :=
    UInt16.lt_iff_toNat_lt
  cases s.hasSequence with
  | false => simp
  | true =>
    simp only [Bool.true_and, Bool.or_eq_false_iff, beq_eq_false_iff_ne, decide_eq_false_iff_not, ne_eq,
      hzero, hhalf, true_imp_iff]
    constructor
    · rintro ⟨hne, hle⟩
      exact ⟨(c.sequence - s.lastSequence).toNat, by omega, by omega, by omega⟩
    · rintro ⟨k, hk, hk', hkey⟩
      omega

theorem directed_some {c : MobileCommand} (h : WellFormed c.bytes) (nowMs : UInt32) :
    ∃ input, c.directed (c.flagInput nowMs) = some input := by
  have hcases : ∀ n ≤ 6, UInt8.ofNat n = 0 ∨ UInt8.ofNat n = 1 ∨ UInt8.ofNat n = 2 ∨ UInt8.ofNat n = 3 ∨
      UInt8.ofNat n = 4 ∨ UInt8.ofNat n = 5 ∨ UInt8.ofNat n = 6 := by decide
  have hdir := hcases c.direction.toNat (UInt8.le_iff_toNat_le.1 h.direction)
  rw [UInt8.ofNat_toNat] at hdir
  unfold MobileCommand.directed
  rcases hdir with h | h | h | h | h | h | h <;> exact ⟨_, by rw [h]; rfl⟩

theorem delivered_some {c : MobileCommand} (h : WellFormed c.bytes) (h0 : c.event ≠ 0) (input : GamepadState) :
    ∃ input', c.delivered input = some input' := by
  have hcases : ∀ n ≤ 5, UInt8.ofNat n = 0 ∨ UInt8.ofNat n = 1 ∨ UInt8.ofNat n = 2 ∨ UInt8.ofNat n = 3 ∨
      UInt8.ofNat n = 4 ∨ UInt8.ofNat n = 5 := by decide
  have hev := hcases c.event.toNat (UInt8.le_iff_toNat_le.1 h.event)
  rw [UInt8.ofNat_toNat] at hev
  unfold MobileCommand.delivered
  rcases hev with h | h | h | h | h | h
  · exact absurd h h0
  all_goals exact ⟨_, by rw [h]; rfl⟩

/-- The event of a well-formed command is delivered or left out, and never an error. -/
theorem deliver_ok {s : MobileInputSession} {c : MobileCommand} (h : WellFormed c.bytes) (input : GamepadState) :
    ∃ s' input', s.deliver c input = (s', .ok input') ∧ s'.hasSequence = s.hasSequence ∧
      s'.lastSequence = s.lastSequence := by
  unfold deliver
  by_cases h0 : c.event = 0
  · rw [if_pos h0]
    exact ⟨s, input, rfl, rfl, rfl⟩
  · rw [if_neg h0]
    split_ifs
    · exact ⟨s, input, rfl, rfl, rfl⟩
    · obtain ⟨input', hin⟩ := delivered_some h h0 input
      simp only [hin]
      exact ⟨_, input', rfl, rfl, rfl⟩

/-- A well-formed command that is ahead advances the sequence, and is accepted with its event delivered
or left out. -/
theorem consume_deliver {s : MobileInputSession} {c : MobileCommand} (hwf : WellFormed c.bytes)
    (ha : s.Ahead c.bytes) (nowMs : UInt32) :
    ∃ input s' input', c.directed (c.flagInput nowMs) = some input ∧
      (s.advance c.sequence).deliver c input = (s', .ok input') ∧
      s.consume c.bytes nowMs = (s', .ok { sequence := c.sequence, input := input' }) := by
  obtain ⟨input, hdir⟩ := directed_some hwf nowMs
  obtain ⟨s', input', hdel, -⟩ := deliver_ok (s := s.advance c.sequence) hwf input
  refine ⟨input, s', input', hdir, hdel, ?_⟩
  unfold consume
  simp only [MobileCommand.ofBytes_bytes, (error_none_iff c).2 hwf, (replayed_iff s c).2 ha, hdir, hdel,
    Bool.false_eq_true, if_false]

/-- Everything `consume` does: it accepts a well-formed frame that is ahead and moves the sequence to
it, and it leaves the session alone after any other. -/
theorem consume_cases (s : MobileInputSession) (data : List UInt8) (nowMs : UInt32) :
    (WellFormed data ∧ s.Ahead data ∧ ∃ s' frame, s.consume data nowMs = (s', .ok frame) ∧
        s'.hasSequence = true ∧ s'.lastSequence.toNat = sequenceNumber data) ∨
      (¬ (WellFormed data ∧ s.Ahead data) ∧ ∃ e, s.consume data nowMs = (s, .error e)) := by
  by_cases hgood : WellFormed data ∧ s.Ahead data
  · obtain ⟨hwf, ha⟩ := hgood
    cases hc : MobileCommand.ofBytes data with
    | none => exact absurd hwf.length (ofBytes_none hc)
    | some c =>
      obtain rfl := MobileCommand.ofBytes_some hc
      obtain ⟨input, s', input', -, hdel, hcon⟩ := consume_deliver hwf ha nowMs
      obtain ⟨s'', input'', hdel', hhas, hlast⟩ := deliver_ok (s := s.advance c.sequence) hwf input
      obtain rfl : s' = s'' := congrArg Prod.fst (hdel.symm.trans hdel')
      refine .inl ⟨hwf, ha, s', _, hcon, hhas, ?_⟩
      rw [hlast]
      exact sequence_toNat c
  · refine .inr ⟨hgood, ?_⟩
    unfold consume
    cases hc : MobileCommand.ofBytes data with
    | none => exact ⟨_, rfl⟩
    | some c =>
      obtain rfl := MobileCommand.ofBytes_some hc
      cases he : c.error with
      | some e => exact ⟨e, by simp only [he]⟩
      | none =>
        cases hr : s.replayed c.sequence with
        | true => exact ⟨.replayedSequence, by simp only [he, hr, if_true]⟩
        | false => exact absurd ⟨(error_none_iff c).1 he, (replayed_iff s c).1 hr⟩ hgood

theorem accepts_iff (s : MobileInputSession) (a : Arrival) : s.accepts a = true ↔ WellFormed a.1 ∧ s.Ahead a.1 := by
  unfold accepts
  rcases consume_cases s a.1 a.2 with ⟨hwf, ha, s', frame, h, -⟩ | ⟨hno, e, h⟩
  · rw [h]
    exact ⟨fun _ => ⟨hwf, ha⟩, fun _ => rfl⟩
  · rw [h]
    exact ⟨fun hok => absurd hok Bool.false_ne_true, fun hok => absurd hok hno⟩

theorem step_rejected {s : MobileInputSession} {a : Arrival} (h : s.accepts a = false) : step s a = s := by
  rcases consume_cases s a.1 a.2 with ⟨hwf, ha, -⟩ | ⟨-, e, hs⟩
  · rw [(accepts_iff s a).2 ⟨hwf, ha⟩] at h
    cases h
  · unfold step
    rw [hs]

theorem step_accepted {s : MobileInputSession} {a : Arrival} (h : s.accepts a = true) :
    (step s a).hasSequence = true ∧ (step s a).lastSequence.toNat = sequenceNumber a.1 := by
  rcases consume_cases s a.1 a.2 with ⟨-, -, s', frame, hs, hhas, hlast⟩ | ⟨hno, -⟩
  · unfold step
    rw [hs]
    exact ⟨hhas, hlast⟩
  · exact absurd ((accepts_iff s a).1 h) hno

/-! ## Runs -/

/-- The session has come `n` numbers past the sequence number `q`. -/
def Past (q : ℕ) (s : MobileInputSession) (n : ℕ) : Prop :=
  s.hasSequence = true ∧ s.lastSequence.toNat = (q + n) % 2 ^ 16

theorem step_past {q : ℕ} {s : MobileInputSession} {a : Arrival} {n : ℕ} (h : Past q s n) :
    Past q (step s a) (n + s.advanced a) := by
  unfold advanced
  cases ha : s.accepts a with
  | false =>
    rw [step_rejected ha]
    exact h
  | true =>
    refine ⟨(step_accepted ha).1, ?_⟩
    have hsub : ((step s a).lastSequence - s.lastSequence).toNat =
        (2 ^ 16 - s.lastSequence.toNat + (step s a).lastSequence.toNat) % 2 ^ 16 := UInt16.toNat_sub _ _
    have hnew := (step s a).lastSequence.toNat_lt
    have hold := s.lastSequence.toNat_lt
    have hlast := h.2
    rw [if_pos rfl, hsub]
    omega

/-- A number that the session is past by at most half of the range is not ahead. -/
theorem past_notAhead {q : ℕ} {s : MobileInputSession} {n : ℕ} {data : List UInt8} (h : Past q s n)
    (hn : n ≤ 0x8000) (hdata : sequenceNumber data = q) : ¬ s.Ahead data := by
  intro hahead
  obtain ⟨k, hk, hk', hkey⟩ := hahead h.1
  have hlast := h.2
  omega

theorem sequenceNumber_lt (data : List UInt8) : sequenceNumber data < 2 ^ 16 := by
  have hlow := (data.getD 2 0).toNat_lt
  have hhigh := (data.getD 3 0).toNat_lt
  unfold sequenceNumber
  omega

/-- From any session: what is accepted, that a rejected frame changes nothing, and that the number
of an accepted frame is not accepted again while the sequence has advanced by at most 0x8000. -/
theorem replay_protection (s : MobileInputSession) (a : Arrival) :
    (s.accepts a = true ↔ WellFormed a.1 ∧ s.Ahead a.1) ∧
      (s.accepts a = false → step s a = s) ∧
      (s.accepts a = true → ∀ (later : List Arrival) (again : Arrival),
        sequenceNumber again.1 = sequenceNumber a.1 → Run.total step advanced (step s a) later ≤ 0x8000 →
        (Run.exec step (step s a) later).accepts again = false) := by
  refine ⟨accepts_iff s a, step_rejected, fun ha later again hsame htotal => ?_⟩
  obtain ⟨hhas, hlast⟩ := step_accepted ha
  have hstart : Past (sequenceNumber a.1) (step s a) 0 := by
    refine ⟨hhas, ?_⟩
    have hlt := sequenceNumber_lt a.1
    omega
  have hpast : Past (sequenceNumber a.1) (Run.exec step (step s a) later)
      (0 + Run.total step advanced (step s a) later) :=
    Run.measure_add_total _ (fun _ _ _ h => step_past h) later hstart
  rw [Nat.zero_add] at hpast
  rw [← Bool.not_eq_true, accepts_iff]
  exact fun hacc => past_notAhead hpast htotal hsame hacc.2

/-- A frame, a cancel 0x7FFF numbers later and one more frame bring the sequence 0x8000 on, and the
first frame is still refused. -/
theorem replay_protection_half :
    let frame (low high event : UInt8) : Arrival :=
      ((MobileCommand.sealed { sequenceLow := low, sequenceHigh := high, event := event }).bytes, 0)
    (Run.exec step (step {} (frame 1 0 0)) [frame 0 0x80 5, frame 1 0x80 0]).accepts (frame 1 0 0) = false := by
  intro frame
  have hlaw := (replay_protection {} (frame 1 0 0)).2.2 (by decide +kernel)
  exact hlaw [frame 0 0x80 5, frame 1 0x80 0] (frame 1 0 0) rfl (by decide +kernel)

end MobileInputSession

end RedMonkeyMpg
