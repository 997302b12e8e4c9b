/-
Reading a request line: keys found by `strstr` that must occur exactly once, string and number
fields, the names of controls and actions, and the mapping of a `SET_CONFIG`. A string field is
read exactly when its key occurs once and a short, non-empty value stands behind it before the next
quotation mark; a mapping that is read is valid and overwrites the old one with the line's values.
-/
import RedMonkeyMpg.Core.Production

namespace RedMonkeyMpg.Setup

def quote : UInt8 := 34

/-- `strstr`: the text from the first occurrence of the key on. -/
def strstr (key : CStr) : CStr → Option CStr
  | [] => if key.isPrefixOf [] then some [] else none
  | c :: rest => if key.isPrefixOf (c :: rest) then some (c :: rest) else strstr key rest

/-- `find_once`: the text behind the key. -/
def findOnce (line key : CStr) : Option CStr :=
  match strstr key line with
  | none => none
  | some found => if (strstr key (found.drop 1)).isSome then none else some (found.drop key.length)

/-- `read_string`, into a buffer of `size` bytes. -/
def readString (line key : CStr) (size : ℕ) : Option CStr :=
  match findOnce line key with
  | none => none
  | some start =>
    if quote ∉ start then none
    else if start.takeWhile (· != quote) = [] ∨ (start.takeWhile (· != quote)).length ≥ size then none
    else some (start.takeWhile (· != quote))

def isDigit (c : UInt8) : Bool := 48 ≤ c && c ≤ 57

def isBlank (c : UInt8) : Bool := c == 32 || c == 9

/-- `strtoul` of decimal digits: a number above `ULONG_MAX` reads as `ULONG_MAX`. -/
def strtoul (digits : CStr) : ℕ := min (digits.foldl (fun n c => n * 10 + (c.toNat - 48)) 0) 0xffffffff

/-- `read_unsigned`: a number, blanks, and then a comma, a brace or the end of the line. -/
def readUnsigned (line key : CStr) : Option ℕ :=
  match findOnce line key with
  | none => none
  | some start =>
    if start.takeWhile isDigit = [] then none
    else
      match (start.dropWhile isDigit).dropWhile isBlank with
      | [] => some (strtoul (start.takeWhile isDigit))
      | c :: _ => if c = 44 ∨ c = 125 then some (strtoul (start.takeWhile isDigit)) else none

/-! ## Controls and actions -/

def controlMask (value : CStr) (allowResolution : Bool) : UInt32 :=
  if value = cstr "L1" then 0x00040
  else if value = cstr "R1" then 0x00080
  else if value = cstr "L2" then 0x00100
  else if value = cstr "R2" then 0x00200
  else if allowResolution ∧ value = cstr "MINUS" then 0x00400
  else if allowResolution ∧ value = cstr "PLUS" then 0x00800
  else if allowResolution ∧ value = cstr "UNASSIGNED" then 0
  else 0xffffffff

def buttonAction (value : CStr) : ButtonAction :=
  if value = cstr "UNASSIGNED" then .unassigned
  else if value = cstr "CANCEL" then .cancel
  else if value = cstr "CYCLE_RESOLUTION" then .cycleResolution
  else if value = cstr "STEP_0_01" then .step001
  else if value = cstr "STEP_0_10" then .step010
  else if value = cstr "STEP_0_50" then .step050
  else if value = cstr "STEP_1_00" then .step100
  else .unknown 0xff (by decide)

def controlName (mask : UInt32) : CStr :=
  if mask = 0x00040 then cstr "L1"
  else if mask = 0x00080 then cstr "R1"
  else if mask = 0x00100 then cstr "L2"
  else if mask = 0x00200 then cstr "R2"
  else if mask = 0x00400 then cstr "MINUS"
  else if mask = 0x00800 then cstr "PLUS"
  else cstr "UNASSIGNED"

def actionName : ButtonAction → CStr
  | .unassigned => cstr "UNASSIGNED"
  | .cancel => cstr "CANCEL"
  | .cycleResolution => cstr "CYCLE_RESOLUTION"
  | .step001 => cstr "STEP_0_01"
  | .step010 => cstr "STEP_0_10"
  | .step050 => cstr "STEP_0_50"
  | .step100 => cstr "STEP_1_00"
  | .unknown _ _ => cstr "UNASSIGNED"

/-! ## The mapping of a request -/

def deadmanKey : CStr := cstr "\"deadman\":\""
def continuousKey : CStr := cstr "\"continuous\":\""
def resolutionKey : CStr := cstr "\"resolution\":\""
def faceAKey : CStr := cstr "\"faceA\":\""
def faceBKey : CStr := cstr "\"faceB\":\""
def faceXKey : CStr := cstr "\"faceX\":\""
def faceYKey : CStr := cstr "\"faceY\":\""
def cncProfileKey : CStr := cstr "\"cncProfile\":\""

/-- The profile a line asks for; without the key the old one stays. -/
def readProfile (line : CStr) (old : CncControllerProfileId) : Option CncControllerProfileId :=
  if (strstr cncProfileKey line).isSome then
    (readString line cncProfileKey 48).bind fun key => (cncControllerProfileByKey key).map CncControllerProfile.id
  else some old

/-- `parse_mapping`. -/
def parseMapping (line : CStr) (mapping : ProductionMapping) : Option ProductionMapping := do
  let deadman ← readString line deadmanKey 16
  let continuous ← readString line continuousKey 16
  let resolution ← readString line resolutionKey 20
  let faceA ← readString line faceAKey 24
  let faceB ← readString line faceBKey 24
  let faceX ← readString line faceXKey 24
  let faceY ← readString line faceYKey 24
  let cncProfile ← readProfile line mapping.cncProfile
  let candidate :=
    { mapping with
      cncProfile := cncProfile
      deadmanMask := controlMask deadman false
      continuousMask := controlMask continuous false
      resolutionMask := controlMask resolution true
      faceA := buttonAction faceA
      faceB := buttonAction faceB
      faceX := buttonAction faceX
      faceY := buttonAction faceY }
  if validateProductionMapping candidate ≠ .valid then none else some candidate

/-! ## What a search finds -/

variable {key line : CStr}

theorem strstr_eq_none : strstr key line = none ↔ ¬ key <:+: line := by
  induction line with
  | nil =>
    unfold strstr
    cases key with
    | nil => simp
    | cons k key => simp
  | cons c rest ih =>
    unfold strstr
    rw [List.infix_cons_iff]
    cases h : key.isPrefixOf (c :: rest) with
    | true => simp [List.isPrefixOf_iff_prefix.1 h]
    | false =>
      have hno : ¬ key <+: c :: rest := fun hp => by
        rw [List.isPrefixOf_iff_prefix.2 hp] at h
        cases h
      simp [hno, ih]

/-- The first occurrence. -/
theorem strstr_some {found : CStr} (h : strstr key line = some found) :
    ∃ pre, line = pre ++ found ∧ key <+: found ∧ ∀ pre' rest, line = pre' ++ key ++ rest → pre.length ≤ pre'.length := by
  induction line with
  | nil =>
    unfold strstr at h
    split at h
    · rename_i hp
      cases h
      exact ⟨[], rfl, List.isPrefixOf_iff_prefix.1 hp, fun _ _ _ => Nat.zero_le _⟩
    · cases h
  | cons c line ih =>
    unfold strstr at h
    split at h
    · rename_i hp
      cases h
      exact ⟨[], rfl, List.isPrefixOf_iff_prefix.1 hp, fun _ _ _ => Nat.zero_le _⟩
    · rename_i hp
      obtain ⟨pre, hline, hkey, hfirst⟩ := ih h
      refine ⟨c :: pre, by rw [hline, List.cons_append], hkey, fun pre' rest hocc => ?_⟩
      cases pre' with
      | nil => exact absurd (List.isPrefixOf_iff_prefix.2 ⟨rest, hocc.symm⟩) hp
      | cons d pre' =>
        rw [List.cons_append, List.cons_append, List.cons.injEq] at hocc
        exact Nat.succ_le_succ (hfirst pre' rest hocc.2)

/-- The key occurs in the line exactly once, with `after` behind it. -/
def OccursOnce (line key after : CStr) : Prop :=
  ∃ pre, line = pre ++ key ++ after ∧ ∀ pre' rest, line = pre' ++ key ++ rest → pre' = pre

theorem findOnce_iff (hk : key ≠ []) {after : CStr} : findOnce line key = some after ↔ OccursOnce line key after := by
  unfold findOnce
  constructor
  · intro h
    cases hs : strstr key line with
    | none =>
      rw [hs] at h
      cases h
    | some found =>
      rw [hs] at h
      dsimp only at h
      obtain ⟨pre, rfl, ⟨rest, rfl⟩, hfirst⟩ := strstr_some hs
      split at h
      · cases h
      · rename_i hagain
        rw [List.drop_left, Option.some.injEq] at h
        subst h
        refine ⟨pre, (List.append_assoc ..).symm, fun pre' rest' hocc => ?_⟩
        have hnone : ¬ key <:+: (key ++ rest).drop 1 := by
          rw [← strstr_eq_none]
          simpa using hagain
        have hle := hfirst pre' rest' hocc
        rcases Nat.eq_or_lt_of_le hle with heq | hlt
        · rw [List.append_assoc] at hocc
          exact (List.append_inj hocc heq).1.symm
        · -- a later occurrence stands in what the second search saw
          refine absurd ?_ hnone
          have hdrop := congrArg (List.drop (pre.length + 1)) hocc
          have hright : (key ++ rest).drop 1 = (pre' ++ key ++ rest').drop (pre.length + 1) := by
            rw [← hdrop, ← List.drop_drop, List.drop_left]
          rw [hright, List.append_assoc, List.drop_append_of_le_length (by omega)]
          exact ⟨pre'.drop (pre.length + 1), rest', List.append_assoc ..⟩
  · rintro ⟨pre, rfl, honce⟩
    cases hs : strstr key (pre ++ key ++ after) with
    | none => exact absurd ⟨pre, after, rfl⟩ (strstr_eq_none.1 hs)
    | some found =>
      obtain ⟨pre₀, hline, ⟨rest, rfl⟩, -⟩ := strstr_some hs
      rw [← List.append_assoc] at hline
      obtain rfl := honce pre₀ rest hline
      obtain rfl : rest = after := (List.append_cancel_left hline).symm
      have hnone : strstr key ((key ++ rest).drop 1) = none := by
        rw [strstr_eq_none]
        rintro ⟨s, t, hst⟩
        obtain ⟨k, key', rfl⟩ := List.exists_cons_of_ne_nil hk
        have hagain : pre₀ ++ (k :: key') ++ rest = (pre₀ ++ k :: s) ++ (k :: key') ++ t := by
          rw [List.cons_append, List.drop_one, List.tail_cons] at hst
          simp [← hst]
        have hlen := congrArg List.length (honce _ t hagain)
        simp at hlen
      dsimp only
      rw [hnone, List.drop_left]
      rfl

/-! ## What a field reads -/

/-- A string field of a line: the key once, then a non-empty value of fewer than `size` bytes, then
a quotation mark. -/
def Field (line key : CStr) (size : ℕ) (value : CStr) : Prop :=
  (∃ rest, OccursOnce line key (value ++ quote :: rest)) ∧ value ≠ [] ∧ quote ∉ value ∧ value.length < size

/-- The text before the first quotation mark, and what is behind it. -/
theorem takeWhile_quote {start : CStr} (h : quote ∈ start) :
    quote ∉ start.takeWhile (· != quote) ∧ ∃ rest, start = start.takeWhile (· != quote) ++ quote :: rest := by
  induction start with
  | nil => cases h
  | cons c start ih =>
    by_cases hc : c = quote
    · rw [List.takeWhile_cons_of_neg (by simp [hc])]
      exact ⟨List.not_mem_nil, start, by rw [hc, List.nil_append]⟩
    · rw [List.takeWhile_cons_of_pos (by simp [hc])]
      obtain ⟨hno, rest, hrest⟩ := ih ((List.mem_cons.1 h).resolve_left fun he => hc he.symm)
      refine ⟨fun hm => ?_, rest, ?_⟩
      · rcases List.mem_cons.1 hm with hm | hm
        · exact hc hm.symm
        · exact hno hm
      · rw [List.cons_append, ← hrest]

theorem takeWhile_value {value : CStr} (h : quote ∉ value) (rest : CStr) :
    (value ++ quote :: rest).takeWhile (· != quote) = value := by
  rw [List.takeWhile_append_of_pos (by
    intro c hc
    have : c ≠ quote := fun he => h (he ▸ hc)
    simpa using this)]
  simp

theorem readString_iff (hk : key ≠ []) {size : ℕ} {value : CStr} :
    readString line key size = some value ↔ Field line key size value := by
  unfold readString Field
  constructor
  · intro h
    cases hf : findOnce line key with
    | none =>
      rw [hf] at h
      cases h
    | some start =>
      rw [hf] at h
      dsimp only at h
      split_ifs at h with hq hv
      · cases h
        push Not at hv
        obtain ⟨hno, rest, hrest⟩ := takeWhile_quote hq
        refine ⟨⟨rest, ?_⟩, hv.1, hno, hv.2⟩
        rw [← hrest]
        exact (findOnce_iff hk).1 hf
  · rintro ⟨⟨rest, honce⟩, hne, hno, hlt⟩
    rw [(findOnce_iff hk).2 honce]
    have hmem : quote ∈ value ++ quote :: rest := List.mem_append_right _ List.mem_cons_self
    simp only [takeWhile_value hno]
    rw [if_neg (not_not_intro hmem), if_neg (by push Not; exact ⟨hne, hlt⟩)]

/-! ## What a mapping reads -/

/-- `new` is `old` overwritten with the seven control values of the line, and with its CNC profile
when the line names one. -/
structure Overwrites (line : CStr) (old new : ProductionMapping) : Prop where
  deadman : ∃ v, Field line deadmanKey 16 v ∧ new.deadmanMask = controlMask v false
  continuous : ∃ v, Field line continuousKey 16 v ∧ new.continuousMask = controlMask v false
  resolution : ∃ v, Field line resolutionKey 20 v ∧ new.resolutionMask = controlMask v true
  faceA : ∃ v, Field line faceAKey 24 v ∧ new.faceA = buttonAction v
  faceB : ∃ v, Field line faceBKey 24 v ∧ new.faceB = buttonAction v
  faceX : ∃ v, Field line faceXKey 24 v ∧ new.faceX = buttonAction v
  faceY : ∃ v, Field line faceYKey 24 v ∧ new.faceY = buttonAction v
  precision : new.precisionMask = old.precisionMask
  cncProfile : (¬ cncProfileKey <:+: line ∧ new.cncProfile = old.cncProfile) ∨
    ∃ v profile, Field line cncProfileKey 48 v ∧ cncControllerProfileByKey v = some profile ∧
      new.cncProfile = profile.id

theorem readProfile_some {line : CStr} {old id : CncControllerProfileId} (h : readProfile line old = some id) :
    (¬ cncProfileKey <:+: line ∧ id = old) ∨
      ∃ v profile, Field line cncProfileKey 48 v ∧ cncControllerProfileByKey v = some profile ∧ id = profile.id := by
  unfold readProfile at h
  split at h
  · obtain ⟨v, hv, hp⟩ := Option.bind_eq_some_iff.1 h
    obtain ⟨profile, hprofile, rfl⟩ := Option.map_eq_some_iff.1 hp
    exact .inr ⟨v, profile, (readString_iff (by decide +kernel)).1 hv, hprofile, rfl⟩
  · rename_i hno
    cases h
    refine .inl ⟨?_, rfl⟩
    rw [← strstr_eq_none]
    simpa using hno

theorem parseMapping_some {line : CStr} {old new : ProductionMapping} (h : parseMapping line old = some new) :
    validateProductionMapping new = .valid ∧ Overwrites line old new := by
  unfold parseMapping at h
  simp only [Option.bind_eq_bind, Option.bind_eq_some_iff] at h
  obtain ⟨deadman, hd, continuous, hc, resolution, hr, faceA, ha, faceB, hb, faceX, hx, faceY, hy, id, hid, h⟩ := h
  split at h
  · cases h
  · rename_i hvalid
    cases h
    exact
      { left := by simpa using hvalid
        right :=
          { deadman := ⟨deadman, (readString_iff (by decide +kernel)).1 hd, rfl⟩
            continuous := ⟨continuous, (readString_iff (by decide +kernel)).1 hc, rfl⟩
            resolution := ⟨resolution, (readString_iff (by decide +kernel)).1 hr, rfl⟩
            faceA := ⟨faceA, (readString_iff (by decide +kernel)).1 ha, rfl⟩
            faceB := ⟨faceB, (readString_iff (by decide +kernel)).1 hb, rfl⟩
            faceX := ⟨faceX, (readString_iff (by decide +kernel)).1 hx, rfl⟩
            faceY := ⟨faceY, (readString_iff (by decide +kernel)).1 hy, rfl⟩
            precision := rfl
            cncProfile := readProfile_some hid } }

end RedMonkeyMpg.Setup
