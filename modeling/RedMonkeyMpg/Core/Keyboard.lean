/-
The CNC keyboard output: boot-protocol keyboard reports, the MASSO G3 Touch translator, and the
registry of CNC controller profiles. A report of the translator carries at most one key; it is a
jog key exactly for a jog frame, with Left Shift exactly at the rapid rate, and a step-selection
key exactly for a step frame.
-/
import RedMonkeyMpg.Core.Mapper
import Mathlib.Data.Vector.Basic

namespace RedMonkeyMpg

/-- A boot-protocol keyboard report: modifier, reserved, then six key usages. -/
abbrev KeyboardReport := Vector UInt8 8

/-- All keys up. -/
def KeyboardReport.release : KeyboardReport := Vector.replicate 8 0

/-- `report_has_key`. -/
def reportHasKey (report : KeyboardReport) : Bool := report.toList.any (· != 0)

/-! ## Usages -/

def kLeftShift : UInt8 := 0x02
def kKeyD : UInt8 := 0x07
def kKeyU : UInt8 := 0x18
def kKeyRight : UInt8 := 0x4f
def kKeyLeft : UInt8 := 0x50
def kKeyDown : UInt8 := 0x51
def kKeyUp : UInt8 := 0x52
def kKey1 : UInt8 := 0x1e
def kKey2 : UInt8 := 0x1f
def kKey3 : UInt8 := 0x20
def kKey4 : UInt8 := 0x21

/-- The step-selection key of a resolution. -/
def stepKey : StepResolution → UInt8
  | .mm001 => kKey4
  | .mm010 => kKey3
  | .mm050 => kKey2
  | .mm100 => kKey1

/-- The jog key of an axis and a direction. -/
def jogKey : Axis → Direction → UInt8
  | .x, .positive => kKeyRight
  | .x, .negative => kKeyLeft
  | .y, .positive => kKeyUp
  | .y, .negative => kKeyDown
  | .z, .positive => kKeyU
  | .z, .negative => kKeyD

/-- MASSO takes Shift and a direction as continuous jogging; precision and normal are both steps. -/
def jogModifier (rate : JogRate) : UInt8 := if rate = .rapid then kLeftShift else 0

/-- A report with one key and perhaps a modifier. -/
def keyReport (modifier key : UInt8) : KeyboardReport := (KeyboardReport.release.set 0 modifier).set 2 key

def massoG3KeyboardReport (frame : OutputFrame) : KeyboardReport :=
  if frame.releaseAll then KeyboardReport.release
  else if frame.hasStepResolution then keyReport 0 (stepKey frame.stepResolution)
  else if !frame.hasJog then KeyboardReport.release
  else keyReport (jogModifier frame.jog.rate) (jogKey frame.jog.axis frame.jog.direction)

/-! ## CNC controller profiles -/

/-- The stored profile ID: the one compiled profile, or any other byte. -/
inductive CncControllerProfileId where
  | massoG3Touch513
  | unknown (raw : UInt8) (h : raw ≠ 0)
  deriving DecidableEq

def CncControllerProfileId.toUInt8 : CncControllerProfileId → UInt8
  | .massoG3Touch513 => 0
  | .unknown raw _ => raw

/-- `static_cast<CncControllerProfileId>`. -/
def CncControllerProfileId.ofUInt8 (raw : UInt8) : CncControllerProfileId :=
  if h : raw = 0 then .massoG3Touch513 else .unknown raw h

@[simp] theorem CncControllerProfileId.ofUInt8_toUInt8 (id : CncControllerProfileId) :
    ofUInt8 id.toUInt8 = id := by
  cases id with
  | massoG3Touch513 => rfl
  | unknown raw h => simp [toUInt8, ofUInt8, h]

@[simp] theorem CncControllerProfileId.toUInt8_ofUInt8 (raw : UInt8) : (ofUInt8 raw).toUInt8 = raw := by
  unfold ofUInt8
  split
  · rename_i h
    exact h.symm
  · rfl

structure CncControllerProfile where
  id : CncControllerProfileId
  key : CStr
  name : CStr
  description : CStr
  supportsStepResolution : Bool
  keyboardReport : OutputFrame → KeyboardReport

def kProfiles : List CncControllerProfile :=
  [{ id := .massoG3Touch513
     key := cstr "masso-g3-touch-5.13"
     name := cstr "MASSO G3 Touch 5.13"
     description := cstr "Arrow/U/D jogging, Shift continuous jog, 1-4 step selection"
     supportsStepResolution := true
     keyboardReport := massoG3KeyboardReport }]

def cncControllerProfile (id : CncControllerProfileId) : Option CncControllerProfile :=
  kProfiles.find? (·.id = id)

def cncControllerProfileByKey (key : CStr) : Option CncControllerProfile :=
  kProfiles.find? (·.key = key)

/-- The selected profile's report, and all keys up for an unsupported ID. -/
def cncControllerKeyboardReport (id : CncControllerProfileId) (frame : OutputFrame) : KeyboardReport :=
  match cncControllerProfile id with
  | none => KeyboardReport.release
  | some profile => profile.keyboardReport frame

/-! ## What a report carries -/

/-- The one key byte that the firmware sets. -/
def KeyboardReport.key (report : KeyboardReport) : UInt8 := report[2]

/-- The report carries a jog key. -/
def KeyboardReport.isJog (report : KeyboardReport) : Bool :=
  [kKeyRight, kKeyLeft, kKeyUp, kKeyDown, kKeyU, kKeyD].contains report[2]

@[simp] theorem reportHasKey_release : reportHasKey KeyboardReport.release = false := by decide

/-- A report without a key is all keys up. -/
theorem eq_release_of_noKey {report : KeyboardReport} (h : reportHasKey report = false) :
    report = KeyboardReport.release := by
  unfold reportHasKey at h
  rw [List.any_eq_false] at h
  ext i hi
  have hm : report[i] ∈ report.toList := by simp
  have hz : report[i] = 0 := by simpa using h _ hm
  simp [KeyboardReport.release, hz]

/-- Every report is all keys up, or comes from a supported profile and a frame that releases less. -/
theorem cncReport_key {id : CncControllerProfileId} {frame : OutputFrame}
    (h : reportHasKey (cncControllerKeyboardReport id frame) = true) :
    cncControllerKeyboardReport id frame = massoG3KeyboardReport frame ∧ frame.releaseAll = false ∧
      (frame.hasStepResolution = true ∨ frame.hasJog = true) := by
  unfold cncControllerKeyboardReport at h ⊢
  cases id with
  | unknown raw hr => cases h
  | massoG3Touch513 =>
    refine ⟨rfl, ?_⟩
    change reportHasKey (massoG3KeyboardReport frame) = true at h
    unfold massoG3KeyboardReport at h
    split_ifs at h with h1 h2 h3
    · cases h
    · exact ⟨by simpa using h1, .inl h2⟩
    · cases h
    · exact ⟨by simpa using h1, .inr (by simpa using h3)⟩

theorem keyReport_key (modifier key : UInt8) : (keyReport modifier key)[2] = key := by
  simp [keyReport]

theorem release_notJog : KeyboardReport.release.isJog = false := by decide

theorem stepKey_notJog (r : StepResolution) : (keyReport 0 (stepKey r)).isJog = false := by
  cases r <;> decide

/-- The MASSO report of a frame carries a jog key exactly when the frame releases nothing, selects
no step and jogs. -/
theorem masso_isJog (frame : OutputFrame) :
    (massoG3KeyboardReport frame).isJog = true ↔
      frame.releaseAll = false ∧ frame.hasStepResolution = false ∧ frame.hasJog = true := by
  unfold massoG3KeyboardReport
  split_ifs with h1 h2 h3
  · simp [h1, release_notJog]
  · simp [h2, stepKey_notJog]
  · simp only [Bool.not_eq_true'] at h3
    simp [h3, release_notJog]
  · simp only [Bool.not_eq_true] at h1 h2
    simp only [Bool.not_eq_true', Bool.not_eq_false] at h3
    simp only [h1, h2, h3, and_self, iff_true, KeyboardReport.isJog, keyReport_key]
    cases frame.jog.axis <;> cases frame.jog.direction <;> decide

/-- A jogging frame's MASSO report. -/
theorem masso_jog {frame : OutputFrame} (h : (massoG3KeyboardReport frame).isJog = true) :
    massoG3KeyboardReport frame =
      keyReport (jogModifier frame.jog.rate) (jogKey frame.jog.axis frame.jog.direction) := by
  obtain ⟨h1, h2, h3⟩ := (masso_isJog frame).1 h
  simp [massoG3KeyboardReport, h1, h2, h3]

end RedMonkeyMpg
