/-
Controller addresses and their text: six bytes, printed as six pairs of upper-case hexadecimal
digits between colons (`snprintf` with `%02X`) and read back by `sscanf` with `%2x`. Printing and
reading back gives the same bytes.
-/
import RedMonkeyMpg.Core.Types
import Mathlib.Tactic

namespace RedMonkeyMpg

/-- A Bluetooth device address, most significant byte first. -/
structure BdAddr where
  b0 : UInt8 := 0
  b1 : UInt8 := 0
  b2 : UInt8 := 0
  b3 : UInt8 := 0
  b4 : UInt8 := 0
  b5 : UInt8 := 0
  deriving DecidableEq, Repr

def BdAddr.bytes (a : BdAddr) : List UInt8 := [a.b0, a.b1, a.b2, a.b3, a.b4, a.b5]

/-- `address_bytes_valid`: neither all zero nor all ones. -/
def addressBytesValid (a : BdAddr) : Bool := a.bytes.any (· != 0) && a.bytes.any (· != 0xff)

/-! ## Printing -/

/-- The digit `%X` prints for a value below 16. -/
def hexDigit (n : Nat) : UInt8 := if n < 10 then UInt8.ofNat (48 + n) else UInt8.ofNat (55 + n)

def colon : UInt8 := 58

/-- `%02X`. -/
def formatByte (b : UInt8) : CStr := [hexDigit (b.toNat / 16), hexDigit (b.toNat % 16)]

/-- `%02X:%02X:%02X:%02X:%02X:%02X`. -/
def formatAddress (a : BdAddr) : CStr :=
  formatByte a.b0 ++ colon :: (formatByte a.b1 ++ colon :: (formatByte a.b2 ++ colon ::
    (formatByte a.b3 ++ colon :: (formatByte a.b4 ++ colon :: formatByte a.b5))))

/-! ## Reading -/

def isSpace (c : UInt8) : Bool := c == 32 || (9 ≤ c && c ≤ 13)

def hexValue (c : UInt8) : Option Nat :=
  if 48 ≤ c ∧ c ≤ 57 then some (c.toNat - 48)
  else if 65 ≤ c ∧ c ≤ 70 then some (c.toNat - 55)
  else if 97 ≤ c ∧ c ≤ 102 then some (c.toNat - 87)
  else none

def isSign (c : UInt8) : Bool := c == 43 || c == 45

/-- `%2x` and the cast of its value to a byte: leading white space, then at most two characters of
a hexadecimal number, one of which may be a sign. A lone sign or `0x` is no number. -/
def scanHex2 (text : CStr) : Option (UInt8 × CStr) :=
  match text.dropWhile isSpace with
  | [] => none
  | c :: rest =>
    if isSign c then
      match rest with
      | [] => none
      | d :: rest' => (hexValue d).map fun v => (if c = 45 then 0 - UInt8.ofNat v else UInt8.ofNat v, rest')
    else
      match hexValue c with
      | none => none
      | some hi =>
        match rest with
        | [] => some (UInt8.ofNat hi, [])
        | d :: rest' =>
          match hexValue d with
          | some lo => some (UInt8.ofNat (hi * 16 + lo), rest')
          | none => if c = 48 ∧ (d = 120 ∨ d = 88) then none else some (UInt8.ofNat hi, d :: rest')

/-- A literal colon of the format. -/
def scanColon : CStr → Option CStr
  | c :: rest => if c = colon then some rest else none
  | [] => none

/-- The `sscanf` of an address: six numbers, and nothing left for the trailing `%c`. -/
def scanAddress (text : CStr) : Option BdAddr := do
  let (b0, t) ← scanHex2 text
  let (b1, t) ← scanColon t >>= scanHex2
  let (b2, t) ← scanColon t >>= scanHex2
  let (b3, t) ← scanColon t >>= scanHex2
  let (b4, t) ← scanColon t >>= scanHex2
  let (b5, t) ← scanColon t >>= scanHex2
  if t = [] then some ⟨b0, b1, b2, b3, b4, b5⟩ else none

/-- The bytes `parse_address` leaves in its output, zeroed before the call. -/
def scannedBytes (text : Option CStr) : BdAddr := (text.bind scanAddress).getD {}

/-- `parse_address`: the address it accepts. -/
def parseAddress (text : Option CStr) : Option BdAddr :=
  (text.bind scanAddress).filter addressBytesValid

/-! ## Reading back what was printed -/

theorem hexDigit_spec {n : Nat} (h : n < 16) :
    hexValue (hexDigit n) = some n ∧ isSpace (hexDigit n) = false ∧ isSign (hexDigit n) = false := by
  interval_cases n <;> decide

theorem scanHex2_formatByte (b : UInt8) (rest : CStr) : scanHex2 (formatByte b ++ rest) = some (b, rest) := by
  have hb := b.toNat_lt
  obtain ⟨hv, hsp, hsg⟩ := hexDigit_spec (n := b.toNat / 16) (by omega)
  obtain ⟨hv', -, -⟩ := hexDigit_spec (n := b.toNat % 16) (by omega)
  have hval : UInt8.ofNat (b.toNat / 16 * 16 + b.toNat % 16) = b := by
    rw [Nat.div_add_mod' b.toNat 16, UInt8.ofNat_toNat]
  simp [scanHex2, formatByte, hsp, hsg, hv, hv', hval]

theorem scanHex2_formatByte_nil (b : UInt8) : scanHex2 (formatByte b) = some (b, []) := by
  simpa using scanHex2_formatByte b []

/-- The text of an address reads back as the address. -/
theorem scanAddress_formatAddress (a : BdAddr) : scanAddress (formatAddress a) = some a := by
  simp [scanAddress, formatAddress, scanHex2_formatByte, scanHex2_formatByte_nil, scanColon]

theorem parseAddress_formatAddress {a : BdAddr} (h : addressBytesValid a = true) :
    parseAddress (some (formatAddress a)) = some a := by
  simp [parseAddress, scanAddress_formatAddress, h]

theorem scannedBytes_formatAddress (a : BdAddr) : scannedBytes (some (formatAddress a)) = a := by
  simp [scannedBytes, scanAddress_formatAddress]

theorem parseAddress_valid {text : Option CStr} {a : BdAddr} (h : parseAddress text = some a) :
    addressBytesValid a = true := by
  unfold parseAddress at h
  rw [Option.filter_eq_some_iff] at h
  exact h.2

theorem formatAddress_ne_nil (a : BdAddr) : formatAddress a ≠ [] := by
  simp [formatAddress, formatByte]

end RedMonkeyMpg
