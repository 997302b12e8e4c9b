/-
The fingerprint of a descriptor as it is captured and as it is enforced. The capture prints the
digest in lower-case digits, the gate reads the expected text two digits at a time in either case
and compares the bytes: it accepts exactly the texts of 64 characters that are the printed one up
to letter case.
-/
import RedMonkeyMpg.Input.Descriptor
import Mathlib.Tactic

namespace RedMonkeyMpg

/-- The table `hex`. -/
def hexTable : CStr := cstr "0123456789abcdef"

/-- The two digits of a byte of the digest. -/
def hexPair (b : UInt8) : CStr := [hexTable.getD (b >>> 4).toNat 0, hexTable.getD (b &&& 0x0f).toNat 0]

/-- The digits of a digest, without their terminating zero. -/
def hexText (bytes : List UInt8) : CStr := bytes.flatMap hexPair

/-- `red_monkey_mpg_descriptor_sha256_hex`: the text it prints. -/
def descriptorSha256Hex (descriptor : List UInt8) (digest : Option Sha256Digest) : Option CStr :=
  (descriptorSha256 descriptor digest).map fun d => hexText d.toList

/-- `red_monkey_mpg_descriptor_matches_sha256` on a pointer, which may be null. -/
def descriptorMatchesExpected (descriptor : List UInt8) (digest : Option Sha256Digest) : Option CStr → Bool
  | none => false
  | some expectedHex => descriptorMatchesSha256 descriptor digest expectedHex

/-- The answer of the SHA-256 peripheral: a function of the descriptor, when it could be started. -/
def sha256Answer (sha : List UInt8 → Sha256Digest) (started : Bool) (descriptor : List UInt8) :
    Option Sha256Digest :=
  if started then some (sha descriptor) else none

def IsHexDigit (c : UInt8) : Prop := 48 ≤ c ∧ c ≤ 57 ∨ 97 ≤ c ∧ c ≤ 102 ∨ 65 ≤ c ∧ c ≤ 70

/-- A letter in lower case, any other character itself. -/
def lowerCase (c : UInt8) : UInt8 := if 65 ≤ c ∧ c ≤ 90 then c + 32 else c

def EqualIgnoringCase (a b : CStr) : Prop := a.map lowerCase = b.map lowerCase

/-! ## Digits and bytes -/

theorem hexNibble_eq_none_iff (c : UInt8) : hexNibble c = none ↔ ¬ IsHexDigit c := by
  unfold hexNibble IsHexDigit
  split_ifs <;> simp_all

theorem hexNibble_lowerCase (c : UInt8) : hexNibble (lowerCase c) = hexNibble c := by
  obtain ⟨c⟩ := c
  revert c
  decide +kernel

/-- A digit is read as the value whose digit of the table it is, in either case. -/
theorem hexNibble_some {c v : UInt8} (h : hexNibble c = some v) :
    v < 16 ∧ lowerCase c = hexTable.getD v.toNat 0 := by
  have key : ∀ c : BitVec 8, ∀ v ∈ hexNibble ⟨c⟩, v < 16 ∧ lowerCase ⟨c⟩ = hexTable.getD v.toNat 0 := by
    decide +kernel
  exact key c.toBitVec v h

theorem hexNibble_hexTable {v : UInt8} (hv : v < 16) : hexNibble (hexTable.getD v.toNat 0) = some v := by
  have key : ∀ n < 16, hexNibble (hexTable.getD n 0) = some (UInt8.ofNat n) := by decide
  rw [key v.toNat (UInt8.lt_iff_toNat_lt.1 hv), UInt8.ofNat_toNat]

theorem hexNibble_eq_some_iff (c v : UInt8) :
    hexNibble c = some v ↔ v < 16 ∧ lowerCase c = hexTable.getD v.toNat 0 := by
  constructor
  · exact hexNibble_some
  · rintro ⟨hv, hc⟩
    rw [← hexNibble_lowerCase, hc, hexNibble_hexTable hv]

/-- A digit of the table is in lower case. -/
theorem lowerCase_hexTable {v : UInt8} (hv : v < 16) :
    lowerCase (hexTable.getD v.toNat 0) = hexTable.getD v.toNat 0 :=
  (hexNibble_some (hexNibble_hexTable hv)).2

theorem nibbles_lt (b : UInt8) : b >>> 4 < 16 ∧ b &&& 0x0f < 16 := by
  obtain ⟨b⟩ := b
  revert b
  decide +kernel

/-- Two nibbles put together are a byte exactly when they are its halves. -/
theorem nibbles_eq_iff {h l : UInt8} (hh : h < 16) (hl : l < 16) (b : UInt8) :
    (h <<< 4) ||| l = b ↔ h = b >>> 4 ∧ l = b &&& 0x0f := by
  constructor
  · rintro rfl
    have key : ∀ h < 16, ∀ l < 16,
        UInt8.ofNat h = ((UInt8.ofNat h <<< 4) ||| UInt8.ofNat l) >>> 4 ∧
          UInt8.ofNat l = ((UInt8.ofNat h <<< 4) ||| UInt8.ofNat l) &&& 0x0f := by decide
    have := key h.toNat (UInt8.lt_iff_toNat_lt.1 hh) l.toNat (UInt8.lt_iff_toNat_lt.1 hl)
    rwa [UInt8.ofNat_toNat, UInt8.ofNat_toNat] at this
  · rintro ⟨rfl, rfl⟩
    obtain ⟨b⟩ := b
    revert b
    decide +kernel

/-! ## Texts of digits -/

@[simp] theorem hexText_nil : hexText [] = [] := rfl

@[simp] theorem hexText_cons (b : UInt8) (bytes : List UInt8) :
    hexText (b :: bytes) =
      hexTable.getD (b >>> 4).toNat 0 :: hexTable.getD (b &&& 0x0f).toNat 0 :: hexText bytes := rfl

theorem length_hexText (bytes : List UInt8) : (hexText bytes).length = 2 * bytes.length := by
  induction bytes with
  | nil => rfl
  | cons b bytes ih =>
    simp only [hexText_cons, List.length_cons, ih]
    omega

/-- The printed text is in lower case. -/
theorem map_lowerCase_hexText (bytes : List UInt8) : (hexText bytes).map lowerCase = hexText bytes := by
  induction bytes with
  | nil => rfl
  | cons b bytes ih =>
    obtain ⟨hh, hl⟩ := nibbles_lt b
    rw [hexText_cons, List.map_cons, List.map_cons, lowerCase_hexTable hh, lowerCase_hexTable hl, ih]

/-- A text is read as some bytes exactly when it is their text up to letter case. -/
theorem hexBytes_eq_some_iff (e : CStr) (bytes : List UInt8) :
    hexBytes e = some bytes ↔ e.map lowerCase = hexText bytes := by
  induction e using hexBytes.induct generalizing bytes with
  | case1 =>
    cases bytes <;> simp [hexBytes]
  | case2 c =>
    cases bytes <;> simp [hexBytes]
  | case3 high low rest ih =>
    cases bytes with
    | nil => simp [hexBytes, Option.bind_eq_some_iff]
    | cons b bytes =>
      simp only [hexBytes, List.map_cons, hexText_cons, List.cons.injEq, Option.bind_eq_bind,
        Option.pure_def, Option.bind_eq_some_iff, Option.some.injEq, hexNibble_eq_some_iff]
      obtain ⟨hh, hl⟩ := nibbles_lt b
      constructor
      · rintro ⟨h, ⟨hlt, hhigh⟩, l, ⟨llt, hlow⟩, tail, htail, hb, rfl⟩
        obtain ⟨rfl, rfl⟩ := (nibbles_eq_iff hlt llt b).1 hb
        exact ⟨hhigh, hlow, (ih _).1 htail⟩
      · rintro ⟨hhigh, hlow, htail⟩
        exact ⟨b >>> 4, ⟨hh, hhigh⟩, b &&& 0x0f, ⟨hl, hlow⟩, bytes, (ih _).2 htail,
          (nibbles_eq_iff hh hl b).2 ⟨rfl, rfl⟩, rfl⟩

/-- A text with a character that is no digit is read as nothing. -/
theorem hexBytes_eq_none {e : CStr} (h : ∃ c ∈ e, ¬ IsHexDigit c) : hexBytes e = none := by
  induction e using hexBytes.induct with
  | case1 => simp at h
  | case2 c => rfl
  | case3 high low rest ih =>
    obtain ⟨c, hc, hno⟩ := h
    have hnone := (hexNibble_eq_none_iff c).2 hno
    rcases List.mem_cons.1 hc with rfl | hc
    · simp [hexBytes, hnone]
    · rcases List.mem_cons.1 hc with rfl | hc
      · simp [hexBytes, hnone]
      · simp [hexBytes, ih ⟨c, hc, hno⟩]

/-! ## The comparison -/

theorem foldl_or_eq_zero_iff (bytes : List UInt8) (acc : UInt8) :
    bytes.foldl (· ||| ·) acc = 0 ↔ acc = 0 ∧ ∀ b ∈ bytes, b = 0 := by
  induction bytes generalizing acc with
  | nil => simp
  | cons b bytes ih => simp [ih, and_assoc]

/-- No byte differs exactly when the bytes are the same. -/
theorem different_eq_zero_iff {actual expected : List UInt8} (hlen : actual.length = expected.length) :
    (List.zipWith (· ^^^ ·) actual expected).foldl (· ||| ·) 0 = 0 ↔ actual = expected := by
  rw [foldl_or_eq_zero_iff]
  induction actual generalizing expected with
  | nil => simp [List.length_eq_zero_iff.1 hlen.symm]
  | cons a actual ih =>
    cases expected with
    | nil => cases hlen
    | cons e expected =>
      have hrest := ih (by simpa using hlen)
      simp only [true_and] at hrest
      simp [hrest]

/-- The gate accepts exactly the texts of 64 characters that are the digest's text up to letter case. -/
theorem matches_iff (descriptor : List UInt8) (digest : Option Sha256Digest) (e : CStr) :
    descriptorMatchesSha256 descriptor digest e = true ↔
      e.length = 64 ∧ ∃ text, descriptorSha256Hex descriptor digest = some text ∧ EqualIgnoringCase e text := by
  unfold descriptorMatchesSha256 descriptorSha256Hex EqualIgnoringCase
  split_ifs with hlen
  · simp [hlen]
  · rw [not_not] at hlen
    cases hash : descriptorSha256 descriptor digest with
    | none => cases hexBytes e <;> simp
    | some d =>
      simp only [Option.map_some, Option.some.injEq, exists_eq_left', map_lowerCase_hexText, hlen, true_and]
      rw [← hexBytes_eq_some_iff]
      cases hbytes : hexBytes e with
      | none => simp
      | some expected =>
        have htext := (hexBytes_eq_some_iff e expected).1 hbytes
        have hcount : d.toList.length = expected.length := by
          have := congrArg List.length htext
          rw [List.length_map, length_hexText, hlen] at this
          rw [Vector.length_toList]
          omega
        rw [beq_iff_eq, different_eq_zero_iff hcount, Option.some.injEq, eq_comm]

/-- The gate and the capture agree on every non-empty descriptor and every expected text, whatever the
peripheral answers. -/
theorem fingerprints_agree (sha : List UInt8 → Sha256Digest) (started : Bool) {descriptor : List UInt8}
    (expected : Option CStr) (h : descriptor ≠ []) :
    (∃ text, descriptorSha256Hex descriptor (sha256Answer sha true descriptor) = some text ∧
      (descriptorMatchesExpected descriptor (sha256Answer sha started descriptor) expected = true ↔
        started = true ∧ ∃ e, expected = some e ∧ e.length = 64 ∧ EqualIgnoringCase e text)) ∧
    (started = false ∨ expected = none ∨
        (∃ e, expected = some e ∧ (e.length ≠ 64 ∨ ∃ c ∈ e, ¬ IsHexDigit c)) →
      descriptorMatchesExpected descriptor (sha256Answer sha started descriptor) expected = false) := by
  have hash : descriptorSha256Hex descriptor (sha256Answer sha true descriptor) =
      some (hexText (sha descriptor).toList) := by
    simp [descriptorSha256Hex, descriptorSha256, sha256Answer, h]
  constructor
  · refine ⟨_, hash, ?_⟩
    cases expected with
    | none => simp [descriptorMatchesExpected]
    | some e =>
      rw [descriptorMatchesExpected, matches_iff]
      cases started with
      | false => simp [sha256Answer, descriptorSha256Hex, descriptorSha256]
      | true => simp [hash]
  · rintro (rfl | rfl | ⟨e, rfl, hlen | hdigit⟩)
    · cases expected with
      | none => rfl
      | some e =>
        rw [descriptorMatchesExpected, ← Bool.not_eq_true, matches_iff]
        simp [sha256Answer, descriptorSha256Hex, descriptorSha256]
    · rfl
    · rw [descriptorMatchesExpected, ← Bool.not_eq_true, matches_iff]
      simp [hlen]
    · simp [descriptorMatchesExpected, descriptorMatchesSha256, hexBytes_eq_none hdigit]

/-- A digest of bytes 0xa5, expected in mixed case. -/
theorem fingerprints_agree_mixed :
    ∃ e : CStr, e = (List.replicate 32 (cstr "A5")).flatten ∧
      descriptorMatchesExpected [5, 1] (sha256Answer (fun _ => Vector.replicate 32 0xa5) true [5, 1]) (some e) =
        true := by
  obtain ⟨⟨text, htext, hiff⟩, -⟩ := fingerprints_agree (fun _ => Vector.replicate 32 0xa5) true
    (some (List.replicate 32 (cstr "A5")).flatten) (List.cons_ne_nil 5 [1])
  refine ⟨_, rfl, hiff.2 ⟨rfl, _, rfl, by decide, ?_⟩⟩
  cases htext
  unfold EqualIgnoringCase
  decide

end RedMonkeyMpg
