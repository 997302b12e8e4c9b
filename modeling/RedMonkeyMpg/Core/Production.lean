/-
The production mapping: which buttons are the dead-man, the continuous and the precision modifier,
what the face buttons do, which mappings are accepted, and how a mapping turns a parsed sample
into a mapped one. A rejected mapping maps every sample to a cancel.
-/
import RedMonkeyMpg.Core.Keyboard

namespace RedMonkeyMpg

/-- A face button's action: one of the compiled ones, or any other stored byte. -/
inductive ButtonAction where
  | unassigned
  | cancel
  | cycleResolution
  | step001
  | step010
  | step050
  | step100
  | unknown (raw : UInt8) (h : 6 < raw)
  deriving DecidableEq

namespace ButtonAction

def toUInt8 : ButtonAction → UInt8
  | .unassigned => 0
  | .cancel => 1
  | .cycleResolution => 2
  | .step001 => 3
  | .step010 => 4
  | .step050 => 5
  | .step100 => 6
  | .unknown raw _ => raw

/-- `static_cast<ButtonAction>`. -/
def ofUInt8 (raw : UInt8) : ButtonAction :=
  if h : 6 < raw then .unknown raw h
  else if raw = 0 then .unassigned
  else if raw = 1 then .cancel
  else if raw = 2 then .cycleResolution
  else if raw = 3 then .step001
  else if raw = 4 then .step010
  else if raw = 5 then .step050
  else .step100

@[simp] theorem ofUInt8_toUInt8 (a : ButtonAction) : ofUInt8 a.toUInt8 = a := by
  cases a with
  | unknown raw h => simp [toUInt8, ofUInt8, h]
  | _ => decide

end ButtonAction

def isSafeFaceAction : ButtonAction → Bool
  | .unknown _ _ => false
  | _ => true

def isStepAction : ButtonAction → Bool
  | .cycleResolution | .step001 | .step010 | .step050 | .step100 => true
  | _ => false

structure ProductionMapping where
  cncProfile : CncControllerProfileId := .massoG3Touch513
  deadmanMask : UInt32 := 0x00100
  continuousMask : UInt32 := 0x00200
  precisionMask : UInt32 := 0x00080
  resolutionMask : UInt32 := 0
  faceA : ButtonAction := .cycleResolution
  faceB : ButtonAction := .cancel
  faceX : ButtonAction := .unassigned
  faceY : ButtonAction := .unassigned
  deriving DecidableEq

inductive ConfigValidation where
  | valid
  | invalidControl
  | duplicateMotionControl
  | unsafeFaceAction
  | unsupportedCncProfile
  | unsupportedProfileAction
  deriving DecidableEq, Repr

/-- L1, R1, L2 and R2. -/
def kMotionControls : UInt32 := 0x00040 ||| 0x00080 ||| 0x00100 ||| 0x00200

def kFaceMasks : List UInt32 := [0x00001, 0x00002, 0x00008, 0x00010]

def isSingleMask (value : UInt32) : Bool := value != 0 && (value &&& (value - 1)) == 0

/-- A motion control: one button, among the four motion buttons. -/
def isMotionControl (mask : UInt32) : Bool := isSingleMask mask && (mask &&& kMotionControls) != 0

def ProductionMapping.faces (m : ProductionMapping) : List ButtonAction := [m.faceA, m.faceB, m.faceX, m.faceY]

def validateProductionMapping (m : ProductionMapping) : ConfigValidation :=
  match cncControllerProfile m.cncProfile with
  | none => .unsupportedCncProfile
  | some profile =>
    if !isMotionControl m.deadmanMask || !isMotionControl m.continuousMask ||
        !isMotionControl m.precisionMask || m.resolutionMask != 0 then .invalidControl
    else if m.deadmanMask == m.continuousMask || m.deadmanMask == m.precisionMask ||
        m.continuousMask == m.precisionMask then .duplicateMotionControl
    else if !m.faces.all isSafeFaceAction then .unsafeFaceAction
    else if !profile.supportsStepResolution && m.faces.any isStepAction then
      .unsupportedProfileAction
    else .valid

/-- What a pressed face button with an action does to the mapped sample. -/
def applyAction (mapped : GamepadState) : ButtonAction → GamepadState
  | .unassigned => mapped
  | .cancel => { mapped with cancel := true }
  | .cycleResolution => { mapped with cycleResolution := true }
  | .step001 => { mapped with selectResolution := true, selectedResolution := .mm001 }
  | .step010 => { mapped with selectResolution := true, selectedResolution := .mm010 }
  | .step050 => { mapped with selectResolution := true, selectedResolution := .mm050 }
  | .step100 => { mapped with selectResolution := true, selectedResolution := .mm100 }
  | .unknown _ _ => mapped

def applyProductionMapping (raw : GamepadState) (m : ProductionMapping) : GamepadState :=
  if validateProductionMapping m ≠ .valid then
    { raw with
      deadman := false, rapid := false, precision := false, cycleResolution := false,
      selectResolution := false, cancel := true }
  else
    let mapped :=
      { raw with
        deadman := (raw.buttons &&& m.deadmanMask) != 0
        rapid := (raw.buttons &&& m.continuousMask) != 0
        precision := (raw.buttons &&& m.precisionMask) != 0
        cycleResolution := m.resolutionMask != 0 && (raw.buttons &&& m.resolutionMask) != 0
        cancel := false
        selectResolution := false }
    (kFaceMasks.zip m.faces).foldl
      (fun mapped face => if raw.buttons &&& face.1 == 0 then mapped else applyAction mapped face.2) mapped

/-! ## The mapping itself -/

/-- The compiled default passes its own check. -/
theorem default_valid : validateProductionMapping {} = .valid := by decide

/-- What the mapping of a valid sample leaves alone, and the dead-man it sets. -/
structure Mapped (raw : GamepadState) (m : ProductionMapping) (mapped : GamepadState) : Prop where
  leftX : mapped.leftX = raw.leftX
  leftY : mapped.leftY = raw.leftY
  rightY : mapped.rightY = raw.rightY
  buttons : mapped.buttons = raw.buttons
  connected : mapped.connected = raw.connected
  sampleMs : mapped.sampleMs = raw.sampleMs
  deadman : validateProductionMapping m = .valid → mapped.deadman = ((raw.buttons &&& m.deadmanMask) != 0)

theorem Mapped.action {raw mapped : GamepadState} {m : ProductionMapping} (h : Mapped raw m mapped)
    (a : ButtonAction) : Mapped raw m (applyAction mapped a) := by
  cases a <;> exact ⟨h.leftX, h.leftY, h.rightY, h.buttons, h.connected, h.sampleMs, h.deadman⟩

theorem Mapped.faces {raw : GamepadState} {m : ProductionMapping} :
    ∀ (faces : List (UInt32 × ButtonAction)) (mapped : GamepadState), Mapped raw m mapped →
      Mapped raw m (faces.foldl
        (fun mapped face => if raw.buttons &&& face.1 == 0 then mapped else applyAction mapped face.2)
        mapped)
  | [], _, h => h
  | face :: faces, mapped, h => by
    rw [List.foldl_cons]
    refine Mapped.faces faces _ ?_
    split
    · exact h
    · exact h.action face.2

/-- A rejected mapping maps every sample to a cancel. -/
theorem applyProductionMapping_cancel {raw : GamepadState} {m : ProductionMapping}
    (h : (applyProductionMapping raw m).cancel = false) : validateProductionMapping m = .valid := by
  by_contra hv
  unfold applyProductionMapping at h
  rw [if_pos hv] at h
  cases h

theorem applyProductionMapping_mapped (raw : GamepadState) (m : ProductionMapping) :
    Mapped raw m (applyProductionMapping raw m) := by
  unfold applyProductionMapping
  split
  · rename_i hv
    exact ⟨rfl, rfl, rfl, rfl, rfl, rfl, fun h => absurd h hv⟩
  · exact Mapped.faces _ _ ⟨rfl, rfl, rfl, rfl, rfl, rfl, fun _ => rfl⟩

/-! ## What the face buttons press -/

/-- A pressed face button has one of the actions. -/
def ProductionMapping.presses (m : ProductionMapping) (actions : ButtonAction → Bool) (buttons : UInt32) : Bool :=
  (kFaceMasks.zip m.faces).any fun face => buttons &&& face.1 != 0 && actions face.2

/-- A flag that only these actions set is set after the face buttons when it was before them, or one of
its buttons is pressed. -/
theorem applyFaces_flag {flag : GamepadState → Bool} {actions : ButtonAction → Bool}
    (h : ∀ mapped a, flag (applyAction mapped a) = (flag mapped || actions a)) (buttons : UInt32) :
    ∀ (faces : List (UInt32 × ButtonAction)) (mapped : GamepadState),
      flag (faces.foldl (fun mapped face => if buttons &&& face.1 == 0 then mapped else applyAction mapped face.2)
        mapped) = (flag mapped || faces.any fun face => buttons &&& face.1 != 0 && actions face.2)
  | [], mapped => by simp
  | face :: faces, mapped => by
    rw [List.foldl_cons, applyFaces_flag h buttons faces, List.any_cons]
    by_cases hb : buttons &&& face.1 = 0
    · simp [hb]
    · have hne : (buttons &&& face.1 == 0) = false := by simpa using hb
      rw [if_neg (by simp [hne]), h, bne, hne]
      simp [Bool.or_assoc]

/-- A valid mapping sets such a flag exactly when one of its buttons is pressed. -/
theorem applyProductionMapping_flag (flag : GamepadState → Bool) {actions : ButtonAction → Bool}
    (h : ∀ mapped a, flag (applyAction mapped a) = (flag mapped || actions a)) {raw : GamepadState}
    {m : ProductionMapping} (hv : validateProductionMapping m = .valid)
    (hclear : ∀ deadman rapid precision,
      flag { raw with
        deadman := deadman, rapid := rapid, precision := precision, cycleResolution := false, cancel := false,
        selectResolution := false } = false) :
    flag (applyProductionMapping raw m) = m.presses actions raw.buttons := by
  have hmask : m.resolutionMask = 0 := by
    unfold validateProductionMapping at hv
    split at hv
    · cases hv
    · split_ifs at hv with hcontrol
      simp only [Bool.or_eq_true, not_or] at hcontrol
      simpa using hcontrol.2
  unfold applyProductionMapping
  rw [if_neg (not_not.2 hv)]
  dsimp only
  rw [applyFaces_flag h, hmask]
  simp only [bne_self_eq_false, Bool.false_and, hclear, Bool.false_or]
  rfl

end RedMonkeyMpg
