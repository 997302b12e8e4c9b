/-
The identity of a HID descriptor: its SHA-256 compared with 64 hexadecimal digits. The digest
comes from the SHA-256 peripheral and is an input here, `none` when the peripheral is busy.
-/
import RedMonkeyMpg.Core.Types
import Mathlib.Data.Vector.Basic

namespace RedMonkeyMpg

abbrev Sha256Digest := Vector UInt8 32

/-- `hex_nibble`; `none` stands for -1. -/
def hexNibble (value : UInt8) : Option UInt8 :=
  if 48 ≤ value ∧ value ≤ 57 then some (value - 48)
  else if 97 ≤ value ∧ value ≤ 102 then some (value - 97 + 10)
  else if 65 ≤ value ∧ value ≤ 70 then some (value - 65 + 10)
  else none

/-- `red_monkey_mpg_descriptor_sha256`. -/
def descriptorSha256 (descriptor : List UInt8) (digest : Option Sha256Digest) : Option Sha256Digest :=
  if descriptor = [] then none else digest

/-- The bytes of a text of digit pairs. -/
def hexBytes : CStr → Option (List UInt8)
  | [] => some []
  | [_] => none
  | high :: low :: rest => do
    let h ← hexNibble high
    let l ← hexNibble low
    let bytes ← hexBytes rest
    return ((h <<< 4) ||| l) :: bytes

/-- `red_monkey_mpg_descriptor_matches_sha256`: every byte is compared. -/
def descriptorMatchesSha256 (descriptor : List UInt8) (digest : Option Sha256Digest) (expectedHex : CStr) : Bool :=
  if expectedHex.length ≠ 64 then false
  else
    match hexBytes expectedHex with
    | none => false
    | some expected =>
      match descriptorSha256 descriptor digest with
      | none => false
      | some actual => (List.zipWith (· ^^^ ·) actual.toList expected).foldl (· ||| ·) 0 == 0

end RedMonkeyMpg
