/-
The shared control types: one sample of the operator's controls, and the semantic frame the
mapper makes of it. Axis values are 16-bit, times are 32-bit milliseconds that wrap, and a C
string is its bytes without the terminator.
-/
import Mathlib.Data.UInt

namespace RedMonkeyMpg

/-- A C string, without its terminating zero. -/
abbrev CStr := List UInt8

/-- The bytes of a string literal. -/
def cstr (s : String) : CStr := s.toByteArray.data.toList

inductive Axis where
  | x
  | y
  | z
  deriving DecidableEq, Repr

inductive Direction where
  | negative
  | positive
  deriving DecidableEq, Repr

inductive JogRate where
  | precision
  | normal
  | rapid
  deriving DecidableEq, Repr

inductive StepResolution where
  | mm001
  | mm010
  | mm050
  | mm100
  deriving DecidableEq, Repr

structure GamepadState where
  leftX : Int16 := 0
  leftY : Int16 := 0
  rightX : Int16 := 0
  rightY : Int16 := 0
  buttons : UInt32 := 0
  hat : UInt8 := 8
  leftTrigger : UInt8 := 0
  rightTrigger : UInt8 := 0
  deadman : Bool := false
  rapid : Bool := false
  precision : Bool := false
  cycleResolution : Bool := false
  selectResolution : Bool := false
  selectedResolution : StepResolution := .mm001
  cancel : Bool := false
  connected : Bool := false
  sampleMs : UInt32 := 0
  deriving DecidableEq, Repr

structure JogCommand where
  axis : Axis := .x
  direction : Direction := .positive
  rate : JogRate := .normal
  deriving DecidableEq, Repr

structure OutputFrame where
  releaseAll : Bool := true
  hasJog : Bool := false
  jog : JogCommand := {}
  hasStepResolution : Bool := false
  stepResolution : StepResolution := .mm001
  deriving DecidableEq, Repr

/-- `std::abs(static_cast<int>(value))`: the absolute value as an `int`, so that -32768 has one. -/
def magnitude (value : Int16) : Int := value.toInt.natAbs

end RedMonkeyMpg
