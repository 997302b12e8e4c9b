/-
One request line of the setup session: the replies and their texts, cut by `snprintf` where the
buffers end, what the service is given (mapping, storage, identity and hooks, any of which may be
null), and `handle_line`. A handled line gives exactly one reply, after the notices of its hooks.
-/
import RedMonkeyMpg.Setup.Text

namespace RedMonkeyMpg.Setup

/-- `snprintf(buffer, size, "%s", text)`. -/
def snprintf (size : ℕ) (text : CStr) : CStr := text.take (size - 1)

/-- `%lu`. -/
def decimal (n : ℕ) : CStr := (Nat.toDigits 10 n).map Char.toUInt8

/-- `%d`. -/
def signed (n : ℤ) : CStr := if n < 0 then cstr "-" ++ decimal n.natAbs else decimal n.natAbs

/-! ## Notices -/

/-- An event line outside the replies: `emit_scan_result` and `emit_pairing_state`. -/
inductive Notice where
  | scanResult (name address : CStr) (rssi : ℤ)
  | pairingState (state : CStr)
  deriving DecidableEq

def Notice.line : Notice → CStr
  | .scanResult name address rssi =>
    snprintf 300 (cstr "\x7b\"protocol\":1,\"event\":\"SCAN_RESULT\",\"candidate\":\x7b\"name\":\"" ++ name ++
      cstr "\",\"address\":\"" ++ address ++ cstr "\",\"rssi\":" ++ signed rssi ++ cstr "\x7d\x7d")
  | .pairingState state =>
    snprintf 180 (cstr "\x7b\"protocol\":1,\"event\":\"PAIRING_STATE\",\"state\":\"" ++ state ++ cstr "\"\x7d")

/-! ## Replies -/

inductive RequestError where
  | unsupportedProtocol
  | invalidRequest
  | unsupportedCncProfile
  | profileListTooLarge
  | unsupportedSchema
  | invalidMapping
  | configStoreFailed
  | pairingNotAvailable
  | pairCandidateRejected
  | pairingNotConfirmed
  | unknownCommand
  | frameTooLarge
  deriving DecidableEq

def RequestError.text : RequestError → CStr
  | .unsupportedProtocol => cstr "UNSUPPORTED_PROTOCOL"
  | .invalidRequest => cstr "INVALID_REQUEST"
  | .unsupportedCncProfile => cstr "UNSUPPORTED_CNC_PROFILE"
  | .profileListTooLarge => cstr "PROFILE_LIST_TOO_LARGE"
  | .unsupportedSchema => cstr "UNSUPPORTED_SCHEMA"
  | .invalidMapping => cstr "INVALID_MAPPING"
  | .configStoreFailed => cstr "CONFIG_STORE_FAILED"
  | .pairingNotAvailable => cstr "PAIRING_NOT_AVAILABLE"
  | .pairCandidateRejected => cstr "PAIR_CANDIDATE_REJECTED"
  | .pairingNotConfirmed => cstr "PAIRING_NOT_CONFIRMED"
  | .unknownCommand => cstr "UNKNOWN_COMMAND"
  | .frameTooLarge => cstr "FRAME_TOO_LARGE"

inductive Reply where
  | error (e : RequestError)
  | info (serial firmware : CStr) (controller address : Option CStr) (sequence : UInt32)
  | config (profileKey : CStr) (mapping : ProductionMapping)
  | profiles (list : CStr)
  | saved
  | scanning
  | connecting
  | paired
  | cancelled
  deriving DecidableEq

/-- A text between quotation marks, or `null`. -/
def nullable : Option CStr → CStr
  | none => cstr "null"
  | some text => cstr "\"" ++ text ++ cstr "\""

namespace Reply

def ok : Reply → Bool
  | .error _ => false
  | _ => true

/-- The body of a reply, before its buffer cuts it. -/
def body : Reply → CStr
  | .error e => cstr "\"error\":\"" ++ e.text ++ cstr "\""
  | .info serial firmware controller address sequence =>
    cstr "\"result\":\x7b\"serial\":\"" ++ serial ++ cstr "\",\"firmware\":\"" ++ firmware ++ cstr "\",\"controller\":" ++
      nullable controller ++ cstr ",\"address\":" ++ nullable address ++ cstr ",\"configurationSequence\":" ++
      decimal sequence.toNat ++ cstr "\x7d"
  | .config profileKey m =>
    cstr "\"result\":\x7b\"schema\":1,\"mapping\":\x7b\"cncProfile\":\"" ++ profileKey ++
      cstr "\",\"deadman\":\"" ++ controlName m.deadmanMask ++ cstr "\",\"continuous\":\"" ++ controlName m.continuousMask ++
      cstr "\",\"resolution\":\"" ++ controlName m.resolutionMask ++ cstr "\",\"faceA\":\"" ++ actionName m.faceA ++
      cstr "\",\"faceB\":\"" ++ actionName m.faceB ++ cstr "\",\"faceX\":\"" ++ actionName m.faceX ++
      cstr "\",\"faceY\":\"" ++ actionName m.faceY ++ cstr "\"\x7d\x7d"
  | .profiles list => list
  | .saved => cstr "\"result\":\x7b\"saved\":true\x7d"
  | .scanning => cstr "\"result\":\x7b\"scanning\":true\x7d"
  | .connecting => cstr "\"result\":\x7b\"connecting\":true\x7d"
  | .paired => cstr "\"result\":\x7b\"paired\":true\x7d"
  | .cancelled => cstr "\"result\":\x7b\"cancelled\":true\x7d"

/-- The body `respond` is given: two bodies are printed into a buffer of 700 bytes first. -/
def printed : Reply → CStr
  | .info serial firmware controller address sequence => snprintf 700 (body (.info serial firmware controller address sequence))
  | .config profileKey m => snprintf 700 (body (.config profileKey m))
  | r => r.body

/-- The whole text of a response. -/
def text (ok : Bool) (body : CStr) : CStr :=
  cstr "\x7b\"protocol\":1,\"ok\":" ++ (if ok then cstr "true" else cstr "false") ++ cstr "," ++ body ++ cstr "\x7d"

/-- The line `respond` writes. -/
def line (r : Reply) : CStr := snprintf 896 (text r.ok r.printed)

/-- No buffer cut the response. -/
def Uncut (r : Reply) : Prop := r.line = text r.ok r.body

instance (r : Reply) : Decidable r.Uncut := inferInstanceAs (Decidable (_ = _))

end Reply

/-! ## The profile list -/

/-- One more piece of a body of 700 bytes. -/
def appendBody (body : Option CStr) (piece : CStr) : Option CStr :=
  body.bind fun used => if piece.length ≥ 700 - used.length then none else some (used ++ piece)

def profileEntry (profile : CncControllerProfile) (index : ℕ) : CStr :=
  (if index = 0 then [] else cstr ",") ++ cstr "\x7b\"id\":\"" ++ profile.key ++ cstr "\",\"name\":\"" ++ profile.name ++
    cstr "\",\"description\":\"" ++ profile.description ++ cstr "\",\"supportsStepResolution\":" ++
    (if profile.supportsStepResolution then cstr "true" else cstr "false") ++ cstr "\x7d"

def profilesBody (profiles : List CncControllerProfile) : Option CStr :=
  appendBody ((profiles.zipIdx.map fun p => profileEntry p.1 p.2).foldl appendBody
    (appendBody (some []) (cstr "\"result\":\x7b\"profiles\":["))) (cstr "]\x7d")

/-! ## The host -/

/-- What the service is given, over the state `σ` of its owner: the mapping and the storage it
refers to, the identity it was last told, and the hooks. A hook also says which notices it emits. -/
structure Host (σ : Type) where
  mapping : σ → ProductionMapping
  setMapping : ProductionMapping → σ → σ
  store : ProductionMapping → σ → Bool × σ
  sequence : σ → UInt32
  serial : σ → CStr
  firmware : σ → CStr
  controller : σ → Option CStr
  address : σ → Option CStr
  startScan : Option (σ → σ × List Notice) := none
  selectCandidate : Option (CStr → σ → Bool × σ × List Notice) := none
  confirmPairing : Option (σ → Bool × σ × List Notice) := none
  cancelPairing : Option (σ → σ × List Notice) := none

/-- A handled line: the host after it, the notices emitted while it was handled, and the reply. -/
structure Handled (σ : Type) where
  host : σ
  notices : List Notice := []
  reply : Reply

variable {σ : Type} (host : Host σ)

def refuse (s : σ) (e : RequestError) : Handled σ := { host := s, reply := .error e }

def getConfig (s : σ) : Handled σ :=
  match cncControllerProfile (host.mapping s).cncProfile with
  | none => refuse s .unsupportedCncProfile
  | some profile => { host := s, reply := .config profile.key (host.mapping s) }

def getCncProfiles (s : σ) : Handled σ :=
  match profilesBody kProfiles with
  | none => refuse s .profileListTooLarge
  | some list => { host := s, reply := .profiles list }

def setConfig (s : σ) (line : CStr) : Handled σ :=
  if readUnsigned line (cstr "\"schema\":") ≠ some 1 then refuse s .unsupportedSchema
  else
    match parseMapping line (host.mapping s) with
    | none => refuse s .invalidMapping
    | some candidate =>
      let stored := host.store candidate s
      if !stored.1 then refuse stored.2 .configStoreFailed
      else { host := host.setMapping candidate stored.2, reply := .saved }

def startScan (s : σ) : Handled σ :=
  match host.startScan with
  | none => refuse s .pairingNotAvailable
  | some hook => { host := (hook s).1, notices := (hook s).2, reply := .scanning }

def pairCandidate (s : σ) (line : CStr) : Handled σ :=
  match readString line (cstr "\"address\":\"") 24, host.selectCandidate with
  | some candidate, some hook =>
    let chosen := hook candidate s
    { host := chosen.2.1
      notices := chosen.2.2
      reply := if chosen.1 then .connecting else .error .pairCandidateRejected }
  | _, _ => refuse s .pairCandidateRejected

def confirmPairing (s : σ) : Handled σ :=
  match host.confirmPairing with
  | none => refuse s .pairingNotConfirmed
  | some hook =>
    let confirmed := hook s
    { host := confirmed.2.1
      notices := confirmed.2.2
      reply := if confirmed.1 then .paired else .error .pairingNotConfirmed }

def cancelPairing (s : σ) : Handled σ :=
  match host.cancelPairing with
  | none => { host := s, reply := .cancelled }
  | some hook => { host := (hook s).1, notices := (hook s).2, reply := .cancelled }

/-- `ConfigService::handle_line`. -/
def handleLine (s : σ) (line : CStr) : Handled σ :=
  if readUnsigned line (cstr "\"protocol\":") ≠ some 1 then refuse s .unsupportedProtocol
  else
    match readString line (cstr "\"command\":\"") 32 with
    | none => refuse s .invalidRequest
    | some command =>
      if command = cstr "GET_INFO" then
        { host := s
          reply := .info (host.serial s) (host.firmware s) (host.controller s) (host.address s) (host.sequence s) }
      else if command = cstr "GET_CONFIG" then getConfig host s
      else if command = cstr "GET_CNC_PROFILES" then getCncProfiles s
      else if command = cstr "SET_CONFIG" then setConfig host s line
      else if command = cstr "START_SCAN" then startScan host s
      else if command = cstr "PAIR_CANDIDATE" then pairCandidate host s line
      else if command = cstr "CONFIRM_PAIRING" then confirmPairing host s
      else if command = cstr "CANCEL_PAIRING" then cancelPairing host s
      else refuse s .unknownCommand

/-! ## Replies that no buffer cuts -/

theorem snprintf_of_le {size : ℕ} {text : CStr} (h : text.length ≤ size - 1) : snprintf size text = text :=
  List.take_of_length_le h

/-- A body that fits its buffer fits the response. -/
theorem Reply.uncut_of_length {r : Reply} (h : r.body.length ≤ 699) : r.Uncut := by
  have hprinted : r.printed = r.body := by
    cases r with
    | info serial firmware controller address sequence => exact snprintf_of_le h
    | config profileKey m => exact snprintf_of_le h
    | _ => rfl
  unfold Uncut line
  rw [hprinted]
  apply snprintf_of_le
  have hopen : (cstr "\x7b\"protocol\":1,\"ok\":").length = 19 := by decide +kernel
  have hflag : (if r.ok then cstr "true" else cstr "false").length ≤ 5 := by cases r.ok <;> decide +kernel
  have hclose : (cstr "," ++ cstr "\x7d").length = 2 := by decide +kernel
  simp only [text, List.length_append] at hclose ⊢
  omega

theorem length_controlName_le (mask : UInt32) : (controlName mask).length ≤ 10 := by
  unfold controlName
  split_ifs <;> decide +kernel

theorem length_actionName_le (action : ButtonAction) : (actionName action).length ≤ 16 := by
  cases action with
  | unknown raw h => show (cstr "UNASSIGNED").length ≤ 16; decide +kernel
  | _ => decide +kernel

theorem length_decimal_le (n : UInt32) : (decimal n.toNat).length ≤ 10 := by
  rw [decimal, List.length_map]
  have hlt := n.toNat_lt
  exact Nat.toDigits_length 10 n.toNat 10 (by decide) (by omega)

/-- The profile keys and the list of profiles are short. -/
theorem profiles_short : (∀ profile ∈ kProfiles, profile.key.length ≤ 48) ∧ ∀ list ∈ profilesBody kProfiles, list.length ≤ 699 := by
  decide +kernel

theorem error_uncut (e : RequestError) : (Reply.error e).Uncut := by
  apply Reply.uncut_of_length
  cases e <;> decide +kernel

/-- A line is as long as its body, and its frame of at most 26 bytes. -/
theorem Reply.length_line_le (r : Reply) : r.line.length + 1 ≤ r.body.length + 27 := by
  have hprinted : r.printed.length ≤ r.body.length := by
    cases r with
    | info serial firmware controller address sequence => exact List.length_take_le' ..
    | config profileKey m => exact List.length_take_le' ..
    | _ => exact Nat.le_refl _
  have hline : r.line.length ≤ (text r.ok r.printed).length := List.length_take_le' ..
  have hopen : (cstr "\x7b\"protocol\":1,\"ok\":").length = 19 := by decide +kernel
  have hflag : (if r.ok then cstr "true" else cstr "false").length ≤ 5 := by cases r.ok <;> decide +kernel
  have hclose : (cstr "," ++ cstr "\x7d").length = 2 := by decide +kernel
  simp only [text, List.length_append] at hclose hline
  omega

theorem length_config_le {profileKey : CStr} (h : profileKey.length ≤ 48) (m : ProductionMapping) :
    (Reply.config profileKey m).body.length ≤ 342 := by
  have hdeadman := length_controlName_le m.deadmanMask
  have hcontinuous := length_controlName_le m.continuousMask
  have hresolution := length_controlName_le m.resolutionMask
  have ha := length_actionName_le m.faceA
  have hb := length_actionName_le m.faceB
  have hx := length_actionName_le m.faceX
  have hy := length_actionName_le m.faceY
  have htexts : (cstr "\"result\":\x7b\"schema\":1,\"mapping\":\x7b\"cncProfile\":\"").length +
      (cstr "\",\"deadman\":\"").length + (cstr "\",\"continuous\":\"").length + (cstr "\",\"resolution\":\"").length +
      (cstr "\",\"faceA\":\"").length + (cstr "\",\"faceB\":\"").length + (cstr "\",\"faceX\":\"").length +
      (cstr "\",\"faceY\":\"").length + (cstr "\"\x7d\x7d").length ≤ 200 := by decide +kernel
  simp only [Reply.body, List.length_append]
  omega

theorem config_uncut {profileKey : CStr} (h : profileKey.length ≤ 48) (m : ProductionMapping) : (Reply.config profileKey m).Uncut :=
  Reply.uncut_of_length (Nat.le_trans (length_config_le h m) (by decide))

theorem length_info_le (serial firmware : CStr) (controller address : Option CStr) (sequence : UInt32) :
    (Reply.info serial firmware controller address sequence).body.length ≤
      serial.length + firmware.length + (nullable controller).length + (nullable address).length + 100 := by
  have hsequence := length_decimal_le sequence
  have htexts : (cstr "\"result\":\x7b\"serial\":\"").length + (cstr "\",\"firmware\":\"").length +
      (cstr "\",\"controller\":").length + (cstr ",\"address\":").length + (cstr ",\"configurationSequence\":").length +
      (cstr "\x7d").length ≤ 90 := by decide +kernel
  simp only [Reply.body, List.length_append]
  omega

theorem info_uncut {serial firmware : CStr} {controller address : Option CStr} (sequence : UInt32)
    (h : serial.length + firmware.length + (nullable controller).length + (nullable address).length ≤ 580) :
    (Reply.info serial firmware controller address sequence).Uncut := by
  have hle := length_info_le serial firmware controller address sequence
  exact Reply.uncut_of_length (by omega)

/-- A response is cut only when the identity texts are over-long. -/
theorem handleLine_uncut {s : σ} (line : CStr)
    (h : (host.serial s).length + (host.firmware s).length + (nullable (host.controller s)).length +
      (nullable (host.address s)).length ≤ 580) : (handleLine host s line).reply.Uncut := by
  have hsaved : Reply.saved.Uncut := Reply.uncut_of_length (by decide +kernel)
  have hscanning : Reply.scanning.Uncut := Reply.uncut_of_length (by decide +kernel)
  have hconnecting : Reply.connecting.Uncut := Reply.uncut_of_length (by decide +kernel)
  have hpaired : Reply.paired.Uncut := Reply.uncut_of_length (by decide +kernel)
  have hcancelled : Reply.cancelled.Uncut := Reply.uncut_of_length (by decide +kernel)
  unfold handleLine
  by_cases hprotocol : readUnsigned line (cstr "\"protocol\":") ≠ some 1
  · rw [if_pos hprotocol]
    exact error_uncut _
  · rw [if_neg hprotocol]
    cases readString line (cstr "\"command\":\"") 32 with
    | none => exact error_uncut _
    | some command =>
      dsimp only
      split_ifs
      · exact info_uncut _ h
      · unfold getConfig
        split
        · exact error_uncut _
        · rename_i profile hprofile
          exact config_uncut (profiles_short.1 profile (List.mem_of_find?_eq_some hprofile)) _
      · unfold getCncProfiles
        split
        · exact error_uncut _
        · rename_i list hlist
          exact Reply.uncut_of_length (profiles_short.2 list hlist)
      · unfold setConfig
        split
        · exact error_uncut _
        · split
          · exact error_uncut _
          · dsimp only
            split
            · exact error_uncut _
            · exact hsaved
      · unfold startScan
        split
        · exact error_uncut _
        · exact hscanning
      · unfold pairCandidate
        split
        · dsimp only
          split
          · exact hconnecting
          · exact error_uncut _
        · exact error_uncut _
      · unfold confirmPairing
        split
        · exact error_uncut _
        · dsimp only
          split
          · exact hpaired
          · exact error_uncut _
      · unfold cancelPairing
        split <;> exact hcancelled
      · exact error_uncut _

end RedMonkeyMpg.Setup
