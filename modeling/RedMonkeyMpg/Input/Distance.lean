/-
Bit errors of a frame on the radio. A frame passes its CRC-8 exactly when the register, run over all of
its 80 bits, ends in zero, and flipping bits leaves the syndrome of their places there. The syndrome is
not zero for up to three bits, for any odd number of bits, and for bits within eight consecutive ones.
-/
import RedMonkeyMpg.Input.Mobile
import RedMonkeyMpg.Lib.Crc

namespace RedMonkeyMpg

/-! ## Bits -/

/-- The bits of a frame, most significant bit of each byte first. -/
def frameBits (bytes : List UInt8) : List Bool :=
  bytes.flatMap fun b => (List.range 8).map fun i => b.toBitVec.getMsbD i

/-- The bits with those at the places of `T` flipped. -/
def flipBits (bits : List Bool) (T : Finset ℕ) : List Bool := bits.mapIdx fun i b => b ^^ decide (i ∈ T)

/-- At least one and at most three bits, an odd number of bits, or bits within eight consecutive ones. -/
def Detectable (T : Finset ℕ) : Prop :=
  1 ≤ T.card ∧ T.card ≤ 3 ∨ Odd T.card ∨ T.Nonempty ∧ ∃ k, ∀ i ∈ T, k ≤ i ∧ i < k + 8

theorem length_frameBits (bytes : List UInt8) : (frameBits bytes).length = 8 * bytes.length := by
  induction bytes with
  | nil => rfl
  | cons b bytes ih =>
    rw [frameBits, List.flatMap_cons, List.length_append, List.length_map, List.length_range]
    rw [frameBits] at ih
    rw [ih, List.length_cons]
    omega

/-! ## The register -/

theorem mobileCrc8Bit_toBitVec (crc : UInt8) :
    (mobileCrc8Bit crc).toBitVec = (crc.toBitVec <<< 1) ^^^ (if crc.toBitVec.msb then 0x07#8 else 0#8) := by
  obtain ⟨crc⟩ := crc
  revert crc
  decide +kernel

/-- The CRC-8 register, one bit at a time. -/
def mobileCrc8Register : ShiftRegister 8 where
  step r := (mobileCrc8Bit ⟨r⟩).toBitVec
  step_xor a b := by
    rw [mobileCrc8Bit_toBitVec, mobileCrc8Bit_toBitVec, mobileCrc8Bit_toBitVec]
    simp only [BitVec.msb_xor, BitVec.shiftLeft_xor_distrib]
    cases a.msb <;> cases b.msb <;> simp
    · ac_rfl
    · ac_rfl
    · exact (ShiftRegister.xor_pair _ _ _).symm
  step_eq_zero := by decide +kernel

/-- What a bit puts into the register. -/
def bitSymbol (b : Bool) : BitVec 8 := if b then 0x80#8 else 0#8

def mobileCrc8Run (r : BitVec 8) (bits : List Bool) : BitVec 8 := mobileCrc8Register.run r (bits.map bitSymbol)

theorem mobileCrc8Run_byte (r : BitVec 8) (b : UInt8) :
    mobileCrc8Run r (frameBits [b]) = mobileCrc8Register.step^[8] (r ^^^ b.toBitVec) := by
  have hzero : ∀ b : BitVec 8, mobileCrc8Run 0#8 (frameBits [⟨b⟩]) = mobileCrc8Register.step^[8] b := by
    decide +kernel
  have hlinear := (mobileCrc8Register.iterate 8).step_xor r b.toBitVec
  have hstart := mobileCrc8Register.run_start r ((frameBits [b]).map bitSymbol)
  rw [List.length_map, length_frameBits] at hstart
  exact hstart.trans ((congrArg _ (hzero b.toBitVec)).trans hlinear.symm)

theorem mobileCrc8Run_append (r : BitVec 8) (xs ys : List Bool) :
    mobileCrc8Run r (xs ++ ys) = mobileCrc8Run (mobileCrc8Run r xs) ys := by
  rw [mobileCrc8Run, List.map_append, ShiftRegister.run_append]
  rfl

theorem mobileCrc8Bit_iterate (n : ℕ) (crc : UInt8) :
    (mobileCrc8Bit^[n] crc).toBitVec = mobileCrc8Register.step^[n] crc.toBitVec := by
  induction n generalizing crc with
  | zero => rfl
  | succ n ih =>
    rw [Function.iterate_succ_apply, ih]
    rfl

theorem foldl_mobileCrc8Byte (data : List UInt8) (crc : UInt8) :
    (data.foldl mobileCrc8Byte crc).toBitVec = mobileCrc8Run crc.toBitVec (frameBits data) := by
  induction data generalizing crc with
  | nil => rfl
  | cons b data ih =>
    have hcons : frameBits (b :: data) = frameBits [b] ++ frameBits data := by
      simp [frameBits]
    rw [List.foldl_cons, ih, mobileCrc8Byte, mobileCrc8Bit_iterate, UInt8.toBitVec_xor, hcons, mobileCrc8Run_append,
      mobileCrc8Run_byte]

/-- A frame passes its CRC exactly when the register ends in zero. -/
theorem crc_iff (c : MobileCommand) : mobileCrc8 c.body = c.crc ↔ mobileCrc8Run 0#8 (frameBits c.bytes) = 0#8 := by
  have hsplit : frameBits c.bytes = frameBits c.body ++ frameBits [c.crc] := by
    rw [MobileCommand.bytes, frameBits, List.flatMap_append]
    rfl
  have hbody : (mobileCrc8 c.body).toBitVec = mobileCrc8Run 0#8 (frameBits c.body) := foldl_mobileCrc8Byte _ 0
  rw [hsplit, mobileCrc8Run_append, mobileCrc8Run_byte, ← hbody, ← UInt8.toBitVec_inj]
  constructor
  · intro h
    rw [h, BitVec.xor_self]
    exact (mobileCrc8Register.iterate 8).step_zero
  · intro h
    exact BitVec.xor_eq_zero_iff.1 ((mobileCrc8Register.iterate 8).step_eq_zero _ h)

/-! ## The syndrome of flipped bits -/

theorem run_flipBits (bits : List Bool) (T : Finset ℕ) :
    mobileCrc8Run 0#8 (flipBits bits T) =
      mobileCrc8Run 0#8 bits ^^^ mobileCrc8Register.syndrome 0x80#8 T bits.length := by
  have hsymbols : (flipBits bits T).map bitSymbol =
      (bits.map bitSymbol).mapIdx fun i d => d ^^^ if i ∈ T then 0x80#8 else 0#8 := by
    refine List.ext_getElem (by simp [flipBits]) fun i hi hi' => ?_
    have hflip : ∀ b : Bool, bitSymbol (b ^^ decide (i ∈ T)) = bitSymbol b ^^^ if i ∈ T then 0x80#8 else 0#8 := by
      intro b
      by_cases hT : i ∈ T
      · cases b <;> simp [hT, bitSymbol]
      · simp [hT]
    simp only [flipBits, List.getElem_map, List.getElem_mapIdx, hflip]
  rw [mobileCrc8Run, hsymbols, ShiftRegister.run_changed, List.length_map]
  rfl

/-- The parity of a register, which the polynomial keeps. -/
def registerParity (r : BitVec 8) : Bool := (List.range 8).foldr (fun i parity => r.getLsbD i ^^ parity) false

theorem registerParity_xor (a b : BitVec 8) :
    registerParity (a ^^^ b) = (registerParity a ^^ registerParity b) := by
  unfold registerParity
  induction List.range 8 with
  | nil => rfl
  | cons i is ih =>
    rw [List.foldr_cons, List.foldr_cons, List.foldr_cons, ih, BitVec.getLsbD_xor]
    cases a.getLsbD i <;> cases b.getLsbD i <;> simp

theorem syndrome_odd {T : Finset ℕ} {n : ℕ} (hT : ∀ i ∈ T, i < n) (hodd : Odd T.card) :
    mobileCrc8Register.syndrome 0x80#8 T n ≠ 0#8 := by
  have hstep : ∀ a, registerParity (mobileCrc8Register.step a) = registerParity a := by decide +kernel
  have hparity := mobileCrc8Register.syndrome_parity registerParity_xor hstep (show registerParity 0x80#8 = true by decide) hT
  intro hzero
  rw [hzero, decide_eq_true hodd] at hparity
  revert hparity
  decide

/-- The polynomial has period 127: within 80 bits no two flips cancel. -/
theorem syndrome_two {T : Finset ℕ} (hT : ∀ i ∈ T, i < 80) (htwo : T.card = 2) :
    mobileCrc8Register.syndrome 0x80#8 T 80 ≠ 0#8 := by
  have hperiod : ∀ k, 0 < k → k < 80 → mobileCrc8Register.step^[k] 0x80#8 ≠ 0x80#8 := by
    have key : ∀ k < 80, 0 < k → mobileCrc8Register.step^[k] 0x80#8 ≠ 0x80#8 := by decide +kernel
    exact fun k h0 hk => key k hk h0
  obtain ⟨p, q, hne, rfl⟩ := Finset.card_eq_two.1 htwo
  have hp := hT p (by simp)
  have hq := hT q (by simp)
  rcases Nat.lt_or_gt_of_ne hne with hpq | hqp
  · exact mobileCrc8Register.syndrome_pair_ne_zero hperiod hpq hq (Nat.le_refl 80)
  · rw [Finset.pair_comm]
    exact mobileCrc8Register.syndrome_pair_ne_zero hperiod hqp hp (Nat.le_refl 80)

theorem syndrome_burst {T : Finset ℕ} {k : ℕ} (hT : ∀ i ∈ T, i < 80) (hne : T.Nonempty)
    (hburst : ∀ i ∈ T, k ≤ i ∧ i < k + 8) : mobileCrc8Register.syndrome 0x80#8 T 80 ≠ 0#8 := by
  -- eight bits leave zero only when none is set
  have hwindow : ∀ b0 b1 b2 b3 b4 b5 b6 b7 : Bool,
      mobileCrc8Run 0#8 [b0, b1, b2, b3, b4, b5, b6, b7] = 0#8 →
        ∀ b ∈ [b0, b1, b2, b3, b4, b5, b6, b7], b = false := by decide +kernel
  have hinside : ∀ i ∈ T, min k 72 ≤ i ∧ i < min k 72 + 8 := by
    intro i hi
    have := hburst i hi
    have := hT i hi
    omega
  obtain ⟨i, hi⟩ := hne
  intro hzero
  rw [mobileCrc8Register.syndrome_window hinside (by omega)] at hzero
  have hrun := (mobileCrc8Register.iterate _).step_eq_zero _ hzero
  set p : ℕ → Bool := fun j => decide (min k 72 + j ∈ T)
  have hsymbols : ((List.range 8).map fun j => if min k 72 + j ∈ T then 0x80#8 else 0#8) =
      ((List.range 8).map p).map bitSymbol := by
    rw [List.map_map]
    refine List.map_congr_left fun j _ => ?_
    by_cases hj : min k 72 + j ∈ T <;> simp [p, bitSymbol, hj]
  rw [hsymbols] at hrun
  have hplace : min k 72 + (i - min k 72) = i := Nat.add_sub_cancel' (hinside i hi).1
  have hlt : i - min k 72 < 8 := by
    have := (hinside i hi).2
    omega
  have hmem : p (i - min k 72) ∈ (List.range 8).map p := List.mem_map_of_mem (List.mem_range.2 hlt)
  have hnone := hwindow (p 0) (p 1) (p 2) (p 3) (p 4) (p 5) (p 6) (p 7) hrun _ hmem
  simp [p, hplace, hi] at hnone

theorem syndrome_detectable {T : Finset ℕ} (hT : ∀ i ∈ T, i < 80) (h : Detectable T) :
    mobileCrc8Register.syndrome 0x80#8 T 80 ≠ 0#8 := by
  rcases h with ⟨hone, hthree⟩ | hodd | ⟨hne, k, hburst⟩
  · by_cases htwo : T.card = 2
    · exact syndrome_two hT htwo
    · refine syndrome_odd hT ?_
      rw [Nat.odd_iff]
      omega
  · exact syndrome_odd hT hodd
  · exact syndrome_burst hT hne hburst

/-! ## Frames -/

/-- A command that does not pass its CRC is refused before anything of the session is used. -/
theorem consume_badCrc {c : MobileCommand} (h : mobileCrc8 c.body ≠ c.crc) (s : MobileInputSession) (nowMs : UInt32) :
    ∃ e, s.consume c.bytes nowMs = (s, .error e) := by
  have herror : ∃ e, c.error = some e := by
    unfold MobileCommand.error
    split_ifs <;> exact ⟨_, rfl⟩
  obtain ⟨e, he⟩ := herror
  refine ⟨e, ?_⟩
  simp [MobileInputSession.consume, he]

theorem error_none_crc {c : MobileCommand} (h : c.error = none) : mobileCrc8 c.body = c.crc := by
  unfold MobileCommand.error at h
  split_ifs at h with h1 h2 h3
  exact not_not.1 h3

/-- A detectable error in an accepted frame is refused in every session state, at any time, and leaves
the session alone. -/
theorem bit_errors_rejected {s s' : MobileInputSession} {f g : List UInt8} {nowMs : UInt32} {frame : MobileFrame}
    {T : Finset ℕ} (hf : s.consume f nowMs = (s', .ok frame)) (hT : ∀ i ∈ T, i < 80)
    (hg : frameBits g = flipBits (frameBits f) T) (herror : Detectable T) (t : MobileInputSession) (now : UInt32) :
    ∃ e, t.consume g now = (t, .error e) := by
  obtain ⟨c, rfl, hnone, -, -⟩ := MobileInputSession.consume_ok hf
  have hlen : g.length = 10 := by
    have := congrArg List.length hg
    rw [length_frameBits, flipBits, List.length_mapIdx, length_frameBits] at this
    have hc : c.bytes.length = 10 := rfl
    omega
  obtain ⟨d, hd⟩ : ∃ d, MobileCommand.ofBytes g = some d := by
    match g, hlen with
    | [_, _, _, _, _, _, _, _, _, _], _ => exact ⟨_, rfl⟩
  obtain rfl := MobileCommand.ofBytes_some hd
  apply consume_badCrc
  rw [Ne, crc_iff, hg, run_flipBits, (crc_iff c).1 (error_none_crc hnone), BitVec.zero_xor, length_frameBits]
  exact syndrome_detectable hT herror

/-- The resting command with its very first bit flipped. -/
theorem bit_errors_rejected_first :
    ∃ e, MobileInputSession.consume {} ((MobileCommand.sealed {}).bytes.set 0 0xd2) 0 = ({}, .error e) := by
  have haccepted : MobileInputSession.consume {} (MobileCommand.sealed {}).bytes 0 =
      ({ hasSequence := true }, .ok { sequence := 0, input := { connected := true } }) := by
    decide +kernel
  refine bit_errors_rejected haccepted (T := {0}) ?_ (by decide +kernel) (.inl ⟨by decide, by decide⟩) {} 0
  intro i hi
  rw [Finset.mem_singleton.1 hi]
  decide

end RedMonkeyMpg
