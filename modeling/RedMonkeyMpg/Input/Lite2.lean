/-
The gamepad input: controller profiles with their registry, and the one built-in profile, the
8BitDo Lite 2 in D mode, with its 11-byte HID report parser.
-/
import RedMonkeyMpg.Core.Types

namespace RedMonkeyMpg

/-! ## Controller profiles -/

inductive ControllerTransport where
  | bluetoothClassicHid
  | bluetoothLeHid
  | usbHid
  deriving DecidableEq, Repr

inductive ProfileMaturity where
  | experimental
  | communityTested
  | qualified
  deriving DecidableEq, Repr

inductive ProfileMatch where
  | unsupported
  | compatible
  | exact
  deriving DecidableEq, Repr

/-- `static_cast<unsigned>` of a match. -/
def ProfileMatch.strength : ProfileMatch → Nat
  | .unsupported => 0
  | .compatible => 1
  | .exact => 2

structure ControllerCapabilities where
  xAxis : Bool := false
  yAxis : Bool := false
  zAxis : Bool := false
  heldDeadmanCandidate : Bool := false
  continuousModifierCandidate : Bool := false
  precisionModifierCandidate : Bool := false
  deriving DecidableEq, Repr

structure ControllerProbe where
  transport : ControllerTransport := .bluetoothClassicHid
  advertisedName : Option CStr := none
  bluetoothDeviceClass : UInt32 := 0
  hidDescriptor : Option (List UInt8) := none

/-- A report parser: the sample of a report and its time, or a refusal. -/
abbrev ControllerReportParser := List UInt8 → UInt32 → Option GamepadState

/-- A controller profile; `none` stands for a null pointer. -/
structure ControllerProfile where
  id : Option CStr := none
  displayName : Option CStr := none
  transport : ControllerTransport := .bluetoothClassicHid
  maturity : ProfileMaturity := .experimental
  capabilities : ControllerCapabilities := {}
  matchProbe : Option (ControllerProbe → ProfileMatch) := none
  parseReport : Option ControllerReportParser := none

inductive ProfileSelectionStatus where
  | matched
  | unsupported
  | ambiguous
  deriving DecidableEq, Repr

structure ProfileSelection where
  status : ProfileSelectionStatus := .unsupported
  profile : Option ControllerProfile := none

def profileSupportsSafeMotion (profile : ControllerProfile) : Bool :=
  profile.id.isSome && profile.displayName.isSome && profile.matchProbe.isSome &&
    profile.parseReport.isSome && profile.capabilities.xAxis && profile.capabilities.yAxis &&
    profile.capabilities.zAxis && profile.capabilities.heldDeadmanCandidate

/-- The best candidate so far, its match, and whether another one equals it. -/
structure ProfileScan where
  best : Option ControllerProfile := none
  bestMatch : ProfileMatch := .unsupported
  ambiguous : Bool := false

/-- One candidate of the registry scan. -/
def ProfileScan.visit (probe : ControllerProbe) (scan : ProfileScan) :
    Option ControllerProfile → ProfileScan
  | none => scan
  | some candidate =>
    if !profileSupportsSafeMotion candidate || candidate.transport ≠ probe.transport then scan
    else
      match candidate.matchProbe with
      | none => scan
      | some matchProbe =>
        let found := matchProbe probe
        if found = .unsupported then scan
        else if scan.best.isNone || found.strength > scan.bestMatch.strength then
          { best := some candidate, bestMatch := found, ambiguous := false }
        else if found = scan.bestMatch then { scan with ambiguous := true }
        else scan

/-- `ControllerProfileRegistry::select`. -/
def selectProfile (profiles : List (Option ControllerProfile)) (probe : ControllerProbe) : ProfileSelection :=
  let scan := profiles.foldl (ProfileScan.visit probe) {}
  match scan.best with
  | none => {}
  | some best =>
    if scan.ambiguous then { status := .ambiguous, profile := none }
    else { status := .matched, profile := some best }

theorem ProfileScan.visit_best {probe : ControllerProbe} {scan : ProfileScan} {candidate : Option ControllerProfile}
    {profile : ControllerProfile} (h : (scan.visit probe candidate).best = some profile) :
    scan.best = some profile ∨ candidate = some profile := by
  cases candidate with
  | none => exact .inl h
  | some candidate =>
    unfold ProfileScan.visit at h
    dsimp only at h
    split at h
    · exact .inl h
    · split at h
      · exact .inl h
      · split at h
        · exact .inl h
        · split at h
          · exact .inr h
          · split at h <;> exact .inl h

/-- A selected profile is one of the registry. -/
theorem selectProfile_mem {profiles : List (Option ControllerProfile)} {probe : ControllerProbe}
    {profile : ControllerProfile} (h : (selectProfile profiles probe).profile = some profile) :
    some profile ∈ profiles := by
  have hbest : ∀ (candidates : List (Option ControllerProfile)) (scan : ProfileScan),
      (candidates.foldl (ProfileScan.visit probe) scan).best = some profile →
        scan.best = some profile ∨ some profile ∈ candidates := by
    intro candidates
    induction candidates with
    | nil => exact fun scan hs => .inl hs
    | cons candidate candidates ih =>
      intro scan hs
      rcases ih _ hs with hv | hmem
      · rcases ProfileScan.visit_best hv with hb | hc
        · exact .inl hb
        · exact .inr (hc ▸ List.mem_cons_self)
      · exact .inr (List.mem_cons_of_mem _ hmem)
  unfold selectProfile at h
  dsimp only at h
  split at h
  · cases h
  · rename_i best hb
    split at h
    · cases h
    · have hbp : best = profile := Option.some.inj h
      rw [hbp] at hb
      exact (hbest profiles {} hb).resolve_left nofun

/-! ## 8BitDo Lite 2, D mode -/

namespace Lite2

def leftTrigger : UInt32 := 0x00100
def rightTrigger : UInt32 := 0x00200
def rightShoulder : UInt32 := 0x00080
def buttonA : UInt32 := 0x00001
def buttonB : UInt32 := 0x00002

/-- `Lite2ReportParser::normalize`. -/
def normalize (raw : UInt8) (center : Int) : Int16 :=
  Int16.ofInt (max (-32768) (min 32767 (((raw.toNat : Int) - center) * 256)))

/-- `Lite2ReportParser::parse`: the 11-byte Classic HID interrupt report, with A1 and report ID 01. -/
def parse (report : List UInt8) (sampleMs : UInt32) : Option GamepadState :=
  match report with
  | [r0, r1, r2, r3, r4, r5, r6, r7, r8, r9, r10] =>
    if r0 ≠ 0xA1 ∨ r1 ≠ 0x01 then none
    else
      let buttons := r2.toUInt32 ||| (r3.toUInt32 <<< 8) ||| ((r4 &&& 0x0F).toUInt32 <<< 16)
      some
        { buttons := buttons
          hat := r4 >>> 4
          leftX := normalize r5 127
          leftY := normalize r6 127
          rightX := normalize r7 127
          rightY := normalize r8 128
          rightTrigger := r9
          leftTrigger := r10
          deadman := (buttons &&& leftTrigger) != 0
          rapid := (buttons &&& rightTrigger) != 0
          precision := (buttons &&& rightShoulder) != 0
          cycleResolution := (buttons &&& buttonA) != 0
          cancel := (buttons &&& buttonB) != 0
          connected := true
          sampleMs := sampleMs }
  | _ => none

/-- `match_lite2_d`. -/
def matchLite2D (probe : ControllerProbe) : ProfileMatch :=
  if probe.transport ≠ .bluetoothClassicHid ∨ (probe.hidDescriptor.map List.length) ≠ some 83 then
    .unsupported
  else
    match probe.advertisedName with
    | some name =>
      if name = cstr "8BitDo Lite 2" ∨ name = cstr "8BitDo Lite 2 (D mode)" then .exact else .unsupported
    | none => if probe.bluetoothDeviceClass = 0x002508 then .exact else .compatible

/-- `lite2_d_profile`. -/
def profile : ControllerProfile where
  id := some (cstr "8bitdo.lite2.dinput")
  displayName := some (cstr "8BitDo Lite 2 — D-input")
  transport := .bluetoothClassicHid
  maturity := .communityTested
  capabilities :=
    { xAxis := true, yAxis := true, zAxis := true, heldDeadmanCandidate := true
      continuousModifierCandidate := true, precisionModifierCandidate := true }
  matchProbe := some matchLite2D
  parseReport := some parse

/-- A parsed report is a connected sample taken when it arrived. -/
theorem parse_some {report : List UInt8} {nowMs : UInt32} {input : GamepadState}
    (h : parse report nowMs = some input) : input.connected = true ∧ input.sampleMs = nowMs := by
  unfold parse at h
  split at h
  · split at h
    · cases h
    · cases h
      exact ⟨rfl, rfl⟩
  · cases h

end Lite2

def builtinControllerProfiles : List (Option ControllerProfile) := [some Lite2.profile]

end RedMonkeyMpg
