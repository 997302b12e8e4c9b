/-
Corruption of a record in flash. An image is accepted only when the CRC-32 register, run over its 44
bytes, ends in a fixed residue. The register takes four consecutive bytes as one word and tells all
words apart, so no change inside four consecutive bytes of an accepted image is accepted, wherever it
is, and a load takes the other tag's record.
-/
import RedMonkeyMpg.Lib.Crc
import RedMonkeyMpg.Store.Image

namespace RedMonkeyMpg

/-! ## The register -/

theorem crc32Bit_toBitVec (crc : UInt32) :
    (crc32Bit crc).toBitVec =
      (crc.toBitVec >>> 1) ^^^ (if crc.toBitVec.getLsbD 0 then 0xedb88320#32 else 0#32) := by
  have hmask : (0 - (crc &&& 1)).toBitVec = if crc.toBitVec.getLsbD 0 then 0xffffffff#32 else 0#32 := by
    have hlow : (crc &&& 1).toBitVec = BitVec.setWidth 32 (BitVec.ofBool (crc.toBitVec.getLsbD 0)) := by
      rw [UInt32.toBitVec_and]
      exact BitVec.and_one_eq_setWidth_ofBool_getLsbD
    rw [UInt32.toBitVec_sub, hlow]
    cases crc.toBitVec.getLsbD 0 <;> decide
  rw [crc32Bit, UInt32.toBitVec_xor, UInt32.toBitVec_and, hmask]
  cases crc.toBitVec.getLsbD 0 <;> simp

/-- The CRC-32 register, one bit at a time. -/
def crc32Register : ShiftRegister 32 where
  step r := (crc32Bit ⟨r⟩).toBitVec
  step_xor a b := by
    rw [crc32Bit_toBitVec, crc32Bit_toBitVec, crc32Bit_toBitVec]
    simp only [BitVec.getLsbD_xor, BitVec.ushiftRight_xor_distrib]
    cases a.getLsbD 0 <;> cases b.getLsbD 0 <;> simp
    · ac_rfl
    · ac_rfl
    · exact (ShiftRegister.xor_pair _ _ _).symm
  step_eq_zero a h := by
    rw [crc32Bit_toBitVec] at h
    dsimp only at h
    have hshift : (a >>> 1).toNat < 2 ^ 31 := by
      rw [BitVec.toNat_ushiftRight]
      omega
    cases hlow : a.getLsbD 0 with
    | true =>
      -- the top bit of the polynomial is not in the shifted register
      rw [hlow, if_pos rfl, BitVec.xor_eq_zero_iff] at h
      rw [h] at hshift
      exact absurd hshift (by decide)
    | false =>
      rw [hlow, if_neg Bool.false_ne_true, BitVec.xor_zero] at h
      have hbit : a.toNat.testBit 0 = false := hlow
      have hhalf := congrArg BitVec.toNat h
      rw [BitVec.toNat_ushiftRight, BitVec.toNat_ofNat] at hhalf
      rw [Nat.testBit_zero, decide_eq_false_iff_not] at hbit
      apply BitVec.eq_of_toNat_eq
      simp only [BitVec.toNat_ofNat]
      omega

theorem crc32Bit_iterate (n : ℕ) (crc : UInt32) :
    (crc32Bit^[n] crc).toBitVec = crc32Register.step^[n] crc.toBitVec := by
  induction n generalizing crc with
  | zero => rfl
  | succ n ih =>
    rw [Function.iterate_succ_apply, ih]
    rfl

/-- The register, one byte at a time. -/
def crc32ByteRegister : ShiftRegister 32 := crc32Register.iterate 8

/-- What is put into the register for some bytes. -/
def crc32Symbols (data : List UInt8) : List (BitVec 32) := data.map fun b => b.toUInt32.toBitVec

theorem foldl_crc32Byte (data : List UInt8) (crc : UInt32) :
    (data.foldl crc32Byte crc).toBitVec = crc32ByteRegister.run crc.toBitVec (crc32Symbols data) := by
  induction data generalizing crc with
  | nil => rfl
  | cons b data ih =>
    rw [List.foldl_cons, ih, crc32Byte, crc32Bit_iterate, UInt32.toBitVec_xor]
    rfl

/-! ## Four bytes as one word -/

/-- A register with room at the bottom moves down. -/
theorem crc32_step_shiftLeft {x : BitVec 32} (h : x.toNat < 2 ^ 31) : crc32Register.step (x <<< 1) = x := by
  show (crc32Bit ⟨x <<< 1⟩).toBitVec = x
  rw [crc32Bit_toBitVec]
  rw [if_neg (by simp), BitVec.xor_zero]
  apply BitVec.eq_of_toNat_eq
  simp only [BitVec.toNat_ushiftRight, BitVec.toNat_shiftLeft]
  omega

theorem crc32_iterate_shiftLeft {x : BitVec 32} (n : ℕ) (h : x.toNat * 2 ^ n < 2 ^ 32) :
    crc32Register.step^[n] (x <<< n) = x := by
  induction n with
  | zero => simp
  | succ n ih =>
    rw [Nat.pow_succ, ← Nat.mul_assoc] at h
    have hhalf : x.toNat * 2 ^ n < 2 ^ 31 := by omega
    have hval : (x <<< n).toNat = x.toNat * 2 ^ n := by
      rw [BitVec.toNat_shiftLeft, Nat.shiftLeft_eq, Nat.mod_eq_of_lt (by omega)]
    rw [Function.iterate_succ_apply, BitVec.shiftLeft_add, crc32_step_shiftLeft (by rw [hval]; exact hhalf)]
    exact ih (by omega)

/-- A word is its four bytes at their places. -/
theorem le32_places (v : UInt32) :
    v.toBitVec = v.toUInt8.toUInt32.toBitVec ^^^ (UInt8.ofNat (v.toNat / 256)).toUInt32.toBitVec <<< 8 ^^^
      (UInt8.ofNat (v.toNat / 65536)).toUInt32.toBitVec <<< 16 ^^^
      (UInt8.ofNat (v.toNat / 16777216)).toUInt32.toBitVec <<< 24 := by
  obtain ⟨v⟩ := v
  have hbyte : ∀ k i : ℕ, (UInt8.ofNat (v.toNat / 2 ^ k)).toUInt32.toBitVec.getLsbD i =
      (decide (i < 8) && v.getLsbD (k + i)) := by
    intro k i
    show (BitVec.setWidth 32 (BitVec.ofNat 8 (v.toNat / 2 ^ k))).getLsbD i = _
    rw [BitVec.getLsbD_setWidth, BitVec.getLsbD_ofNat, Nat.testBit_div_two_pow]
    by_cases hi : i < 8
    · simp [hi, show i < 32 by omega, BitVec.getLsbD, Nat.add_comm]
    · simp [hi]
  have hlow : ∀ i : ℕ, (UInt32.ofBitVec v).toUInt8.toUInt32.toBitVec.getLsbD i = (decide (i < 8) && v.getLsbD i) := by
    intro i
    show (BitVec.setWidth 32 (BitVec.setWidth 8 v)).getLsbD i = _
    rw [BitVec.getLsbD_setWidth, BitVec.getLsbD_setWidth]
    by_cases hi : i < 8
    · simp [hi, show i < 32 by omega]
    · simp [hi]
  apply BitVec.eq_of_getLsbD_eq
  intro i hi
  simp only [BitVec.getLsbD_xor, BitVec.getLsbD_shiftLeft, hi, decide_true, Bool.true_and]
  rw [hlow, show (UInt32.ofBitVec v).toNat = v.toNat from rfl]
  have h1 := hbyte 8 (i - 8)
  have h2 := hbyte 16 (i - 16)
  have h3 := hbyte 24 (i - 24)
  norm_num only at h1 h2 h3
  rw [h1, h2, h3]
  -- exactly one of the four bytes holds the bit
  by_cases h8 : i < 8
  · simp [h8, show i < 16 by omega, show i < 24 by omega]
  by_cases h16 : i < 16
  · simp [h8, h16, show i < 24 by omega, show i - 8 < 8 by omega, show 8 + (i - 8) = i by omega]
  by_cases h24 : i < 24
  · simp [h8, h16, h24, show ¬ i - 8 < 8 by omega, show i - 16 < 8 by omega, show 16 + (i - 16) = i by omega]
  · simp [h8, h16, h24, show ¬ i - 8 < 8 by omega, show ¬ i - 16 < 8 by omega, show i - 24 < 8 by omega,
      show 24 + (i - 24) = i by omega]

/-- The register takes the bytes of a word as that word. -/
theorem run_le32 (r : BitVec 32) (v : UInt32) :
    crc32ByteRegister.run r (crc32Symbols (le32 v)) = crc32Register.step^[32] (r ^^^ v.toBitVec) := by
  have hput : ∀ (k : ℕ) (b : UInt8) (x : BitVec 32), k ≤ 24 →
      crc32Register.step^[k] x ^^^ b.toUInt32.toBitVec =
        crc32Register.step^[k] (x ^^^ b.toUInt32.toBitVec <<< k) := by
    intro k b x hk
    have hb : b.toUInt32.toBitVec.toNat < 2 ^ 8 := by
      rw [UInt32.toNat_toBitVec, UInt8.toNat_toUInt32]
      exact b.toNat_lt
    have hroom : b.toUInt32.toBitVec.toNat * 2 ^ k < 2 ^ 32 :=
      calc _ < 2 ^ 8 * 2 ^ k := Nat.mul_lt_mul_of_pos_right hb (Nat.two_pow_pos k)
        _ = 2 ^ (8 + k) := (Nat.pow_add 2 8 k).symm
        _ ≤ 2 ^ 32 := Nat.pow_le_pow_right (by decide) (by omega)
    have hlinear := (crc32Register.iterate k).step_xor x (b.toUInt32.toBitVec <<< k)
    rw [show (crc32Register.iterate k).step = crc32Register.step^[k] from rfl, crc32_iterate_shiftLeft k hroom]
      at hlinear
    exact hlinear.symm
  have height : crc32ByteRegister.step = crc32Register.step^[8] := rfl
  simp only [crc32Symbols, le32, List.map_cons, List.map_nil, ShiftRegister.run_cons, ShiftRegister.run_nil, height]
  rw [hput 8 (UInt8.ofNat (v.toNat / 256)) _ (by decide), ← Function.iterate_add_apply,
    hput (8 + 8) (UInt8.ofNat (v.toNat / 65536)) _ (by decide), ← Function.iterate_add_apply,
    hput (8 + (8 + 8)) (UInt8.ofNat (v.toNat / 16777216)) _ (by decide), ← Function.iterate_add_apply, le32_places v]
  simp only [BitVec.xor_assoc]

/-- The register tells all windows of four bytes apart. -/
theorem window_injective {r : BitVec 32} {x y : List UInt8} (hx : x.length = 4) (hy : y.length = 4)
    (h : crc32ByteRegister.run r (crc32Symbols x) = crc32ByteRegister.run r (crc32Symbols y)) : x = y := by
  obtain ⟨x0, x1, x2, x3, rfl⟩ : ∃ x0 x1 x2 x3, x = [x0, x1, x2, x3] := by
    match x, hx with
    | [x0, x1, x2, x3], _ => exact ⟨x0, x1, x2, x3, rfl⟩
  obtain ⟨y0, y1, y2, y3, rfl⟩ : ∃ y0 y1 y2 y3, y = [y0, y1, y2, y3] := by
    match y, hy with
    | [y0, y1, y2, y3], _ => exact ⟨y0, y1, y2, y3, rfl⟩
  rw [← le32_word32 x0 x1 x2 x3, ← le32_word32 y0 y1 y2 y3, run_le32, run_le32] at h
  have hword := (crc32Register.iterate 32).step_injective h
  rw [BitVec.xor_right_inj, UInt32.toBitVec_inj] at hword
  rw [← le32_word32 x0 x1 x2 x3, ← le32_word32 y0 y1 y2 y3, hword]

/-! ## The residue -/

theorem crc32Symbols_append (xs ys : List UInt8) : crc32Symbols (xs ++ ys) = crc32Symbols xs ++ crc32Symbols ys :=
  List.map_append

/-- The register ends every image that is accepted in the same residue. -/
theorem run_accepted {image : List UInt8} (hlen : image.length = kRecordSize)
    (h : decode (Record.ofBytes image) ≠ none) :
    crc32ByteRegister.run 0xffffffff#32 (crc32Symbols image) = crc32Register.step^[32] 0xffffffff#32 := by
  obtain ⟨m, hm⟩ := Option.ne_none_iff_exists'.1 h
  obtain ⟨-, -, hcrc, -⟩ := decode_some hm
  have himage := Record.toBytes_ofBytes hlen
  have hdata : (crc32 (Record.ofBytes image).body).toBitVec =
      ~~~crc32ByteRegister.run 0xffffffff#32 (crc32Symbols (Record.ofBytes image).body) := by
    rw [crc32, UInt32.toBitVec_not, foldl_crc32Byte]
    rfl
  rw [← himage, Record.toBytes, crc32Symbols_append, ShiftRegister.run_append, run_le32, hcrc, hdata]
  refine congrArg crc32Register.step^[32] ?_
  rw [← BitVec.xor_allOnes, ← BitVec.xor_assoc, BitVec.xor_self, BitVec.zero_xor]
  rfl

/-! ## Changed images -/

/-- Two accepted images that agree outside four consecutive bytes are the same. -/
theorem accepted_eq {a b : List UInt8} {k : ℕ} (ha : a.length = kRecordSize) (hb : b.length = kRecordSize)
    (hk : k + 4 ≤ kRecordSize) (hsame : ∀ i, i < k ∨ k + 4 ≤ i → a[i]? = b[i]?)
    (hda : decode (Record.ofBytes a) ≠ none) (hdb : decode (Record.ofBytes b) ≠ none) : a = b := by
  have hsplit : ∀ l : List UInt8, l = l.take k ++ (l.drop k).take 4 ++ l.drop (k + 4) := by
    intro l
    rw [List.append_assoc, ← List.drop_drop, List.take_append_drop, List.take_append_drop]
  have hpre : a.take k = b.take k := by
    apply List.ext_getElem?
    intro i
    rw [List.getElem?_take, List.getElem?_take]
    split
    · rename_i hi
      exact hsame i (.inl hi)
    · rfl
  have hpost : a.drop (k + 4) = b.drop (k + 4) := by
    apply List.ext_getElem?
    intro i
    rw [List.getElem?_drop, List.getElem?_drop]
    exact hsame _ (.inr (Nat.le_add_right _ _))
  have hrun := (run_accepted ha hda).trans (run_accepted hb hdb).symm
  rw [hsplit a, hsplit b, hpre, hpost] at hrun
  simp only [crc32Symbols_append] at hrun
  have hwindow := window_injective (by simp [ha]; omega) (by simp [hb]; omega)
    (crc32ByteRegister.run_window hrun)
  rw [hsplit a, hsplit b, hpre, hpost, hwindow]

/-- A change of an accepted image inside four consecutive bytes is never accepted, and a load with such
an image in one tag and a readable record in the other takes that record. -/
theorem burst_detected {a b : List UInt8} {k : ℕ} (ha : a.length = kRecordSize) (hb : b.length = kRecordSize)
    (hsame : ∀ i, i < k ∨ k + 4 ≤ i → a[i]? = b[i]?) (hne : a ≠ b) (hda : decode (Record.ofBytes a) ≠ none) :
    decode (Record.ofBytes b) = none ∧
      ∀ (reads : Flash) (tag : Tag) (other : Record × ProductionMapping), reads tag = some b →
        readRecord (reads tag.other) = some other → load (some reads) = adopt tag.other other := by
  have hrejected : decode (Record.ofBytes b) = none := by
    by_contra hdb
    -- a window over the end of the image is inside its last four bytes
    have hsame' : ∀ i, i < min k 40 ∨ min k 40 + 4 ≤ i → a[i]? = b[i]? := by
      intro i hi
      by_cases hend : kRecordSize ≤ i
      · rw [List.getElem?_eq_none (by omega), List.getElem?_eq_none (by omega)]
      · apply hsame
        simp only [kRecordSize] at hend
        omega
    exact hne (accepted_eq ha hb (by simp only [kRecordSize]; omega) hsame' hda hdb)
  refine ⟨hrejected, fun reads tag other htag hother => ?_⟩
  have hunreadable : readRecord (reads tag) = none := by
    rw [htag, readRecord, if_pos hb, hrejected]
    rfl
  apply load_of_pick
  unfold Slots.pick readable
  cases tag with
  | a =>
    rw [hunreadable, show reads .b = reads (Slots.Side.other .a) from rfl, hother]
    rfl
  | b =>
    rw [hunreadable, show reads .a = reads (Slots.Side.other .b) from rfl, hother]
    rfl

/-- The first byte of the default's record erased. -/
theorem burst_detected_magic :
    decode (Record.ofBytes ((encode {} 7 none).toBytes.set 0 0)) = none := by
  refine (burst_detected (a := (encode {} 7 none).toBytes) (k := 0) rfl ?_ ?_ ?_ ?_).1
  · simp
  · intro i hi
    rw [List.getElem?_set_ne (by omega)]
  · intro h
    have hfirst := congrArg List.head? h
    revert hfirst
    simp [Record.toBytes, Record.body, le32, encode]
    decide
  · rw [Record.ofBytes_toBytes, decode_encode default_valid]
    exact Option.some_ne_none _

end RedMonkeyMpg
