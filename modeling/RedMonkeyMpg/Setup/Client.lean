/-
What a client of the setup port reads. Every line of the session is the compact text of a JSON value:
a reply or a notice. A client that splits what USB took at line feeds and decodes each line gets the
values of the session in their order, without a gap, and all of them once nothing is pending.
-/
import RedMonkeyMpg.Gamepad.Controls
import RedMonkeyMpg.Gamepad.Outputs
import RedMonkeyMpg.Setup.Backup
import RedMonkeyMpg.Setup.Identity

namespace RedMonkeyMpg.Setup

open Gamepad Gamepad.Receiver
open Json (Value)
open Framing (Frame)

/-! ## The values -/

def success (result : Value) : Value :=
  .object [(cstr "protocol", .number 1), (cstr "ok", .bool true), (cstr "result", result)]

def failure (e : RequestError) : Value :=
  .object [(cstr "protocol", .number 1), (cstr "ok", .bool false), (cstr "error", .text e.text)]

/-- A result of one flag. -/
def done (name : CStr) : Value := success (.object [(name, .bool true)])

def nullableValue : Option CStr → Value
  | none => .null
  | some text => .text text

def profileValue (profile : CncControllerProfile) : Value :=
  .object [(cstr "id", .text profile.key), (cstr "name", .text profile.name),
    (cstr "description", .text profile.description),
    (cstr "supportsStepResolution", .bool profile.supportsStepResolution)]

/-- The value of a reply; a profile list is the compiled one. -/
def Reply.value : Reply → Value
  | .error e => failure e
  | .info serial firmware controller address sequence =>
    success (.object [(cstr "serial", .text serial), (cstr "firmware", .text firmware),
      (cstr "controller", nullableValue controller), (cstr "address", nullableValue address),
      (cstr "configurationSequence", .number sequence.toNat)])
  | .config profileKey m => configReply (mappingValue profileKey m)
  | .profiles _ => success (.object [(cstr "profiles", .array (kProfiles.map profileValue))])
  | .saved => done (cstr "saved")
  | .scanning => done (cstr "scanning")
  | .connecting => done (cstr "connecting")
  | .paired => done (cstr "paired")
  | .cancelled => done (cstr "cancelled")

def Notice.value : Notice → Value
  | .scanResult name address rssi =>
    .object [(cstr "protocol", .number 1), (cstr "event", .text (cstr "SCAN_RESULT")),
      (cstr "candidate", .object [(cstr "name", .text name), (cstr "address", .text address), (cstr "rssi", .number rssi)])]
  | .pairingState state =>
    .object [(cstr "protocol", .number 1), (cstr "event", .text (cstr "PAIRING_STATE")), (cstr "state", .text state)]

/-- A line is the compact text of a value. -/
structure Speaks (line : CStr) (v : Value) : Prop where
  line : line = Json.render v
  plain : Json.plain v = true

/-! ## Replies -/

namespace Reply

/-- The texts of a reply need no escape, and a profile list is the compiled one. -/
def Printable : Reply → Prop
  | .info serial firmware controller address _ =>
    Json.plainText serial = true ∧ Json.plainText firmware = true ∧ (∀ text ∈ controller, Json.plainText text = true) ∧
      ∀ text ∈ address, Json.plainText text = true
  | .config profileKey _ => Json.plainText profileKey = true
  | .profiles list => profilesBody kProfiles = some list
  | _ => True

theorem error_speaks (e : RequestError) : Speaks (error e).line (error e).value := by
  constructor
  · rw [show (error e).line = text false (error e).body from error_uncut e]
    cases e <;> decide
  · cases e <;> decide

theorem nullableValue_spec {t : Option CStr} (h : ∀ text ∈ t, Json.plainText text = true) :
    nullable t = Json.render (nullableValue t) ∧ Json.plain (nullableValue t) = true := by
  cases t with
  | none => exact ⟨by decide, rfl⟩
  | some text => exact ⟨rfl, h text rfl⟩

theorem info_speaks {serial firmware : CStr} {controller address : Option CStr} {sequence : UInt32}
    (hu : (info serial firmware controller address sequence).Uncut)
    (hp : (info serial firmware controller address sequence).Printable) :
    Speaks (info serial firmware controller address sequence).line (info serial firmware controller address sequence).value := by
  obtain ⟨hserial, hfirmware, hcontroller, haddress⟩ := hp
  obtain ⟨hc, hcplain⟩ := nullableValue_spec hcontroller
  obtain ⟨ha, haplain⟩ := nullableValue_spec haddress
  have hsequence : decimal sequence.toNat = Json.render (.number sequence.toNat) := rfl
  constructor
  · rw [show (info serial firmware controller address sequence).line = text true _ from hu]
    simp only [text, body, value, success, Json.render, Json.renderMembers, Json.quoted, hc, ha, hsequence,
      List.append_assoc, List.cons_append, List.nil_append, if_true]
    rfl
  · simp only [value, success, Json.plain, Json.plainMembers, hserial, hfirmware, hcplain, haplain]
    decide

theorem config_speaks {profileKey : CStr} {m : ProductionMapping} (hu : (config profileKey m).Uncut)
    (hp : Json.plainText profileKey = true) : Speaks (config profileKey m).line (config profileKey m).value := by
  constructor
  · rw [show (config profileKey m).line = text true _ from hu]
    simp only [text, body, value, configReply, mappingValue, Json.render, Json.renderMembers, Json.quoted,
      List.append_assoc, List.cons_append, List.nil_append, if_true]
    rfl
  · have hmapping : Json.plain (mappingValue profileKey m) = true := by
      simp [mappingValue, Json.plain, Json.plainMembers, hp, controlName_plain, actionName_plain]
      decide
    simp only [value, configReply, Json.plain, Json.plainMembers, hmapping]
    decide

theorem profiles_speaks {list : CStr} (h : profilesBody kProfiles = some list) :
    Speaks (profiles list).line (profiles list).value := by
  have hall : ∀ list ∈ profilesBody kProfiles, (profiles list).line = Json.render (profiles list).value ∧
      Json.plain (profiles list).value = true := by decide +kernel
  exact ⟨(hall list h).1, (hall list h).2⟩

/-- A printable reply that is not cut is the text of its value. -/
theorem speaks {r : Reply} (hu : r.Uncut) (hp : r.Printable) : Speaks r.line r.value := by
  cases r with
  | error e => exact error_speaks e
  | info serial firmware controller address sequence => exact info_speaks hu hp
  | config profileKey m => exact config_speaks hu hp
  | profiles list => exact profiles_speaks hp
  | _ => exact ⟨by decide, by decide⟩

end Reply

/-! ## Notices -/

/-- The texts of a notice are plain and short, and a signal strength is a byte, with a sign or without. -/
def Notice.Printable : Notice → Prop
  | .scanResult name address rssi =>
    (Json.plainText name = true ∧ name.length ≤ 22) ∧ (Json.plainText address = true ∧ address.length ≤ 17) ∧
      -128 ≤ rssi ∧ rssi ≤ 255
  | .pairingState state => Json.plainText state = true ∧ state.length ≤ 30

theorem length_signed_le {n : ℤ} (h : -128 ≤ n ∧ n ≤ 255) : (signed n).length ≤ 4 := by
  have hdigits : (decimal n.natAbs).length ≤ 3 := by
    rw [decimal, List.length_map]
    exact Nat.toDigits_length 10 n.natAbs 3 (by decide) (by omega)
  unfold signed
  split
  · have hminus : (cstr "-").length = 1 := by decide
    rw [List.length_append]
    omega
  · omega

theorem signed_eq (n : ℤ) : signed n = Json.render (.number n) := by
  unfold signed
  rw [Json.render]
  split
  · rfl
  · rfl

theorem Notice.speaks {n : Notice} (h : n.Printable) : Speaks n.line n.value := by
  cases n with
  | scanResult name address rssi =>
    obtain ⟨⟨hname, hnameLength⟩, ⟨haddress, haddressLength⟩, hrssi⟩ := h
    have hsigned := length_signed_le hrssi
    have htexts : (cstr "\x7b\"protocol\":1,\"event\":\"SCAN_RESULT\",\"candidate\":\x7b\"name\":\"").length +
        (cstr "\",\"address\":\"").length + (cstr "\",\"rssi\":").length + (cstr "\x7d\x7d").length ≤ 120 := by decide
    constructor
    · dsimp only [Notice.line]
      rw [snprintf_of_le (by simp only [List.length_append]; omega), signed_eq]
      simp only [Notice.value, Json.render, Json.renderMembers, Json.quoted, List.append_assoc, List.cons_append,
        List.nil_append]
      rfl
    · simp only [Notice.value, Json.plain, Json.plainMembers, hname, haddress]
      decide
  | pairingState state =>
    obtain ⟨hstate, hlength⟩ := h
    have htexts : (cstr "\x7b\"protocol\":1,\"event\":\"PAIRING_STATE\",\"state\":\"").length + (cstr "\"\x7d").length ≤ 120 := by
      decide
    constructor
    · dsimp only [Notice.line]
      rw [snprintf_of_le (by simp only [List.length_append]; omega)]
      simp only [Notice.value, Json.render, Json.renderMembers, Json.quoted, List.append_assoc, List.cons_append,
        List.nil_append]
      rfl
    · simp only [Notice.value, Json.plain, Json.plainMembers, hstate]
      decide

/-! ## The receiver's texts -/

/-- The names that `set_identity` is given. -/
def kControllers : List CStr :=
  [cstr "8BitDo Lite 2 · D mode", cstr "8BitDo Lite 2 — D-input", cstr "Compatible controller"]

/-- A text for a buffer of 18 bytes that needs no escape. -/
def AddressText (text : CStr) : Prop := Json.plainText text = true ∧ text.length ≤ 17

theorem formatAddress_text (a : BdAddr) : AddressText (formatAddress a) := by
  have hdigit : ∀ n, (0x20 ≤ hexDigit n && hexDigit n != Json.quote && hexDigit n != 0x5c) = true ∨ 16 ≤ n := by
    intro n
    rcases Nat.lt_or_ge n 16 with h | h
    · left
      interval_cases n <;> decide
    · exact .inr h
  have hbyte : ∀ b : UInt8, Json.plainText (formatByte b) = true := by
    intro b
    have hb := b.toNat_lt
    simp only [formatByte, Json.plainText, List.all_cons, List.all_nil, Bool.and_true, Bool.and_eq_true]
    constructor
    · simpa only [Bool.and_eq_true] using (hdigit (b.toNat / 16)).resolve_right (by omega)
    · simpa only [Bool.and_eq_true] using (hdigit (b.toNat % 16)).resolve_right (by omega)
  constructor
  · simp only [Json.plainText] at hbyte
    simp only [formatAddress, Json.plainText, List.all_append, List.all_cons, hbyte]
    decide
  · rfl

theorem addressBuffer_text {text : CStr} (h : Json.plainText text = true) : AddressText (addressBuffer text) := by
  refine ⟨?_, List.length_take_le ..⟩
  rw [Json.plainText, List.all_eq_true] at h ⊢
  exact fun c hc => h c (List.mem_of_mem_take hc)

/-- The texts that the receiver hands to the session. -/
structure Legible (p : Platform) (r : Receiver) : Prop where
  kept : Bond.Kept p r.bond
  rested : Bond.Rested p r.bond
  profile : Builtin r.activeProfile
  controller : ∀ name ∈ r.identity.controller, name ∈ kControllers

section Legible

variable {p : Platform} {r : Receiver}

theorem stored_text (h : Bond.Kept p r.bond) : AddressText r.persistentConfig.addressText := by
  rcases h.text with hnone | ⟨a, -, ha⟩
  · rw [show r.persistentConfig.addressText = [] from hnone]
    exact ⟨rfl, Nat.zero_le _⟩
  · rw [show r.persistentConfig.addressText = formatAddress a from ha]
    exact formatAddress_text a

theorem Legible.active (h : Legible p r) (hdefault : Json.plainText p.controllerAddress = true) :
    AddressText r.activeControllerAddress := by
  cases hsel : r.pairingCandidateSelected with
  | true =>
    rw [show r.activeControllerAddress = formatAddress r.controllerAddress from (h.kept.chosen hsel).2]
    exact formatAddress_text _
  | false =>
    rw [show r.activeControllerAddress = r.bond.fallback p from h.rested hsel]
    unfold Bond.fallback
    split
    · exact addressBuffer_text hdefault
    · exact addressBuffer_text (stored_text h.kept).1

theorem Legible.length_active_le (h : Legible p r) : r.activeControllerAddress.length ≤ 17 := by
  cases hsel : r.pairingCandidateSelected with
  | true =>
    rw [show r.activeControllerAddress = formatAddress r.controllerAddress from (h.kept.chosen hsel).2]
    exact (formatAddress_text _).2
  | false =>
    rw [show r.activeControllerAddress = r.bond.fallback p from h.rested hsel]
    unfold Bond.fallback
    split
    · exact List.length_take_le ..
    · exact List.length_take_le ..

/-- Every moment keeps the profile a built-in one. -/
theorem moment_builtin (r : Receiver) (m : Moment) (h : Builtin r.activeProfile) : Builtin (moment p r m).activeProfile := by
  cases m with
  | event e =>
    cases he : e.withoutCommands.reportMs with
    | none =>
      obtain ⟨profile, hc, hb⟩ := step_controls (p := p) r he h
      rw [show (moment p r (.event e)).activeProfile = profile from congrArg Prod.snd hc]
      exact hb
    | some nowMs =>
      obtain ⟨report, hreport⟩ := Receiver.Event.eq_report he
      obtain ⟨rearm, last, mapper, wanted, started, confirmed, outputs, -, hr⟩ :=
        r.silent.consumeControllerReport_eq report nowMs
      show Builtin (Receiver.step p r e.withoutCommands).activeProfile
      rw [hreport]
      show Builtin (r.silent.consumeControllerReport report nowMs).activeProfile
      rw [hr]
      exact h
  | opened => exact h
  | served => exact h
  | command c =>
    rw [show (moment p r (.command c)).activeProfile = r.activeProfile from congrArg Prod.snd (handleCommand_controls r c)]
    exact h

theorem committed_controller (r : Receiver) (previous : CStr) :
    (committed p r previous).identity.controller =
      (r.activeProfile.map ControllerProfile.displayName).getD (some (cstr "Compatible controller")) := by
  obtain ⟨outputs, -, h⟩ := committed_eq (p := p) r previous
  rw [h]

/-- A controller that is named is one of the list. -/
theorem moment_controller (r : Receiver) (m : Moment) (hb : Builtin r.activeProfile)
    (h : ∀ name ∈ r.identity.controller, name ∈ kControllers) :
    ∀ name ∈ (moment p r m).identity.controller, name ∈ kControllers := by
  cases moment_identified (p := p) r m with
  | kept _ _ same => rwa [same]
  | described hd _ =>
    unfold Moment.describes at hd
    split at hd
    · rename_i status descriptor digest _
      obtain ⟨profile, hprofile⟩ := Option.isSome_iff_exists.1 hd
      have hidentity : (Receiver.descriptorAvailable p r.silent status descriptor digest).identity.controller =
          profile.displayName := by
        unfold Receiver.descriptorAvailable
        rw [show supportedProfile p r.silent status descriptor digest = some profile from hprofile]
      intro name hname
      have hname' : name ∈ profile.displayName := hidentity ▸ hname
      rw [supportedProfile_builtin hprofile] at hname'
      cases hname'
      decide
    · cases hd
  | confirmed _ hc _ =>
    obtain ⟨linkKey, faults, rfl, hok⟩ := hc
    show ∀ name ∈ (confirmPairingCandidate p r linkKey faults).2.identity.controller, name ∈ kControllers
    unfold confirmPairingCandidate at hok ⊢
    split
    · exact h
    · rename_i hchecks
      rw [if_neg hchecks] at hok
      split
      · exact h
      · rename_i hkey
        rw [if_neg hkey] at hok
        dsimp only at hok ⊢
        split
        · rw [committed_controller]
          intro name hname
          cases hprofile : r.activeProfile with
          | none =>
            rw [hprofile] at hname
            cases hname
            decide
          | some profile =>
            rw [hprofile, hb profile hprofile] at hname
            cases hname
            decide
        · exact h

theorem moment_legible (hp : p.Documented) (r : Receiver) (m : Moment) (h : Legible p r) : Legible p (moment p r m) :=
  { kept := Bond.moves_kept hp h.kept (moment_bond r m)
    rested := Bond.moves_rested hp h.kept h.rested (moment_bond r m)
    profile := moment_builtin r m h.profile
    controller := moment_controller r m h.profile h.controller }

theorem boot_legible (hp : p.Documented) (flash : Flash) (reads : Option Flash) : Legible p (Receiver.boot p flash reads) := by
  refine ⟨boot_kept hp flash reads, fun _ => rfl, builtin_none, ?_⟩
  unfold Receiver.boot
  dsimp only
  cases (load reads).config.controllerAddress with
  | none => exact nofun
  | some text =>
    intro name hname
    cases hname
    decide

end Legible

/-! ## Lines and notices -/

/-- The texts that the build and the board give. -/
structure Texts (p : Platform) (serial firmware : CStr) : Prop where
  plainSerial : Json.plainText serial = true
  plainFirmware : Json.plainText firmware = true
  plainDefault : Json.plainText p.controllerAddress = true
  short : serial.length + firmware.length ≤ 500

/-- The signal strength of an inquiry result is a byte, which the source does not read as signed. -/
def Sampled (e : Receiver.Event) : Prop :=
  ∀ result, e = .bluetooth (.inquiryResult result) → ∀ rssi ∈ result.rssi, -128 ≤ rssi ∧ rssi ≤ 255

section Line

variable {p : Platform} {serial firmware : CStr}

theorem isNotice_of_isLink {o : Output} (h : o.isLink = true) : o.isNotice = false := by
  cases o with
  | pairingState state => cases h
  | scanResult name address rssi => cases h
  | _ => rfl

theorem emits_printable (hp : p.Documented) {r : Receiver} {m : Moment} (hm : ∀ e, m = .event e → Sampled e) {o : Output}
    (h : Emits p r m o) :
    (∀ state, o = .pairingState state → (Notice.pairingState state).Printable) ∧
      ∀ name address rssi, o = .scanResult name address rssi → (Notice.scanResult name address rssi).Printable := by
  cases h with
  | told state hstate =>
    refine ⟨fun told htold => ?_, nofun⟩
    cases htold
    have hall : ∀ state ∈ kPairingStates, Json.plainText (cstr state) = true ∧ (cstr state).length ≤ 30 := by decide
    exact hall state hstate
  | found name hname result hresult =>
    refine ⟨nofun, fun _ _ _ hfound => ?_⟩
    cases hfound
    have hall : ∀ name ∈ kCandidateNames, Json.plainText (cstr name) = true ∧ (cstr name).length ≤ 22 := by decide
    refine ⟨hall name hname, ?_, ?_⟩
    · rw [hp.toStr, Bond.addressBuffer_formatAddress]
      exact formatAddress_text _
    · cases hr : result.rssi with
      | none => exact ⟨by decide, by decide⟩
      | some rssi => exact hm _ hresult result rfl rssi hr
  | dropped a hd => exact ⟨nofun, nofun⟩
  | confirmed _ _ => exact ⟨nofun, nofun⟩
  | link o ho =>
    constructor
    · rintro state rfl
      cases ho
    · rintro name address rssi rfl
      cases ho

/-- The notices of a moment are printable. -/
theorem notices_printable (hp : p.Documented) {r before : Receiver} {m : Moment} (hm : ∀ e, m = .event e → Sampled e)
    (hbefore : before.outputs = m.carried r) : ∀ n ∈ notices before (moment p r m), n.Printable := by
  intro n hn
  obtain ⟨added, hadded, hemits⟩ := moment_emits (p := p) r m
  unfold notices at hn
  rw [hadded, hbefore, List.drop_left] at hn
  obtain ⟨o, ho, hnotice⟩ := List.mem_filterMap.1 hn
  obtain ⟨htold, hfound⟩ := emits_printable hp hm (hemits o ho)
  cases o with
  | pairingState state =>
    cases hnotice
    exact htold state rfl
  | scanResult name address rssi =>
    cases hnotice
    exact hfound name address rssi rfl
  | _ => cases hnotice

/-- A step that emits no notice. -/
theorem notices_eq_nil {r r' : Receiver} (h : Adds (fun o => o.isNotice = false) r r') : notices r r' = [] := by
  obtain ⟨added, hadded, hquiet⟩ := h
  unfold notices
  rw [hadded, List.drop_left, List.filterMap_eq_nil_iff]
  intro o ho
  have hno := hquiet o ho
  cases o with
  | pairingState state => cases hno
  | scanResult name address rssi => cases hno
  | _ => rfl

/-- A step that may tell one state, behind what is no notice. -/
theorem notices_told {r s r' : Receiver} {state : String} (hs : Adds (fun o => o.isNotice = false) r s)
    (h : r' = s ∨ r' = s.emitPairingState state) : notices r r' = [] ∨ notices r r' = [.pairingState (cstr state)] := by
  have hnone := notices_eq_nil hs
  rcases h with rfl | rfl
  · exact .inl hnone
  · unfold emitPairingState
    split
    · right
      obtain ⟨added, hadded, -⟩ := hs
      unfold notices at hnone ⊢
      show ((s.outputs ++ [Output.pairingState (cstr state)]).drop r.outputs.length).filterMap _ = _
      rw [List.drop_append_of_le_length (by rw [hadded, List.length_append]; omega), List.filterMap_append, hnone]
      rfl
    · exact .inl hnone

/-- The notices of a line are those of a command. -/
theorem handleLine_notices (o : Owner) (line : CStr) :
    ∀ n ∈ (handleLine (portHost p serial firmware) o line).notices,
      ∃ c, n ∈ notices o.receiver (handleCommand p o.receiver c) := by
  unfold handleLine
  split
  · exact nofun
  · cases readString line (cstr "\"command\":\"") 32 with
    | none => exact nofun
    | some command =>
      dsimp only
      split_ifs
      · exact nofun
      · unfold getConfig
        split <;> exact nofun
      · unfold getCncProfiles
        split <;> exact nofun
      · unfold setConfig
        split
        · exact nofun
        · split
          · exact nofun
          · dsimp only
            split <;> exact nofun
      · exact fun n hn => ⟨.startScan o.answer.nowMs, hn⟩
      · unfold pairCandidate
        split
        · rename_i candidate hook _ hhook
          cases hhook
          exact fun n hn => ⟨.pairCandidate candidate, hn⟩
        · exact nofun
      · exact fun n hn => ⟨.confirmPairing o.answer.linkKey o.answer.faults, hn⟩
      · exact fun n hn => ⟨.cancelPairing, hn⟩
      · exact nofun

/-- A line is answered with printable texts. -/
theorem handleLine_printable {σ : Type} (host : Host σ) (s : σ) (line : CStr)
    (hserial : Json.plainText (host.serial s) = true) (hfirmware : Json.plainText (host.firmware s) = true)
    (hcontroller : ∀ text ∈ host.controller s, Json.plainText text = true)
    (haddress : ∀ text ∈ host.address s, Json.plainText text = true) : (handleLine host s line).reply.Printable := by
  unfold handleLine
  split
  · trivial
  · cases readString line (cstr "\"command\":\"") 32 with
    | none => trivial
    | some command =>
      dsimp only
      split_ifs
      · exact ⟨hserial, hfirmware, hcontroller, haddress⟩
      · unfold getConfig
        split
        · trivial
        · rename_i profile hprofile
          exact (profile_by_key (List.mem_of_find?_eq_some hprofile)).2.2
      · unfold getCncProfiles
        split
        · trivial
        · rename_i list hlist
          exact hlist
      · unfold setConfig
        split
        · trivial
        · split
          · trivial
          · dsimp only
            split <;> trivial
      · unfold startScan
        split <;> trivial
      · unfold pairCandidate
        split
        · dsimp only
          split <;> trivial
        · trivial
      · unfold confirmPairing
        split
        · trivial
        · dsimp only
          split <;> trivial
      · unfold cancelPairing
        split <;> trivial
      · trivial

theorem length_nullable_le {t : Option CStr} {n : ℕ} (h : ∀ text ∈ t, text.length ≤ n) : (nullable t).length ≤ n + 4 := by
  have hnull : (cstr "null").length = 4 := by decide
  have hquote : (cstr "\"").length = 1 := by decide
  cases t with
  | none =>
    rw [nullable]
    omega
  | some text =>
    have := h text rfl
    simp only [nullable, List.length_append]
    omega

theorem controller_short {r : Receiver} (h : Legible p r) :
    ∀ name ∈ r.identity.controller, Json.plainText name = true ∧ name.length ≤ 30 := by
  have hnames : ∀ name ∈ kControllers, Json.plainText name = true ∧ name.length ≤ 30 := by decide
  exact fun name hname => hnames name (h.controller name hname)

/-- The names that a legible receiver gives the service are short. -/
theorem identity_short (serial firmware : CStr) {o : Owner} (h : Legible p o.receiver) :
    (nullable ((portHost p serial firmware).controller o)).length +
      (nullable ((portHost p serial firmware).address o)).length ≤ 55 := by
  have hcontroller : (nullable ((portHost p serial firmware).controller o)).length ≤ 30 + 4 :=
    length_nullable_le fun name hname => (controller_short h name hname).2
  have haddress : (nullable ((portHost p serial firmware).address o)).length ≤ 17 + 4 := by
    apply length_nullable_le
    intro text htext
    change text ∈ (gamepadHost p serial firmware o.answer).address o.receiver at htext
    unfold gamepadHost at htext
    dsimp only at htext
    split at htext
    · cases htext
    · cases htext
      exact h.length_active_le
    · cases htext
      exact (stored_text h.kept).2
  omega

/-- A line of a legible receiver is answered with the text of a value. -/
theorem handleLine_speaks (ht : Texts p serial firmware) {o : Owner} (h : Legible p o.receiver) (line : CStr) :
    Speaks (handleLine (portHost p serial firmware) o line).reply.line
      (handleLine (portHost p serial firmware) o line).reply.value := by
  have haddress : ∀ text ∈ (portHost p serial firmware).address o, AddressText text := by
    intro text htext
    change text ∈ (gamepadHost p serial firmware o.answer).address o.receiver at htext
    unfold gamepadHost at htext
    dsimp only at htext
    split at htext
    · cases htext
    · cases htext
      exact h.active ht.plainDefault
    · cases htext
      exact stored_text h.kept
  refine Reply.speaks (handleLine_uncut (portHost p serial firmware) line ?_)
    (handleLine_printable (portHost p serial firmware) o line ht.plainSerial ht.plainFirmware
      (fun text htext => (controller_short h text htext).1) fun text htext => (haddress text htext).1)
  have hidentity := identity_short serial firmware h
  have hs := ht.short
  show serial.length + firmware.length + _ + _ ≤ 580
  omega

end Line

/-! ## Runs -/

namespace Entry

def Spoken : Entry → Prop
  | .response _ reply _ _ => Speaks reply.line reply.value
  | .notice n _ _ => Speaks n.line n.value
  | .closed => True

/-- The values queued in the session after one more entry. -/
def say (values : List Value) : Entry → List Value
  | .response _ reply _ queued => if queued then values ++ [reply.value] else values
  | .notice n _ queued => if queued then values ++ [n.value] else values
  | .closed => []

end Entry

/-- The values of the lines queued since the last pass that saw the port disconnected. -/
def said (log : List Entry) : List Value := log.foldl Entry.say []

/-- A value whose text fits the buffer of a response. -/
def Sayable (v : Value) : Prop := Json.plain v = true ∧ (Json.render v).length ≤ 895

/-- One entry adds the text of its value. -/
theorem queueUp_say {e : Entry} (he : e.Spoken) {values : List Value} (hv : ∀ v ∈ values, Sayable v) :
    e.queueUp (values.flatMap fun v => Json.render v ++ [lineFeed]) =
        ((e.say values).flatMap fun v => Json.render v ++ [lineFeed]) ∧
      ∀ v ∈ e.say values, Sayable v := by
  have hsize := e.size_le
  have hmore : ∀ {line : CStr} {v : Value}, Speaks line v → line.length ≤ 895 →
      (values.flatMap fun v => Json.render v ++ [lineFeed]) ++ line ++ [lineFeed] =
          ((values ++ [v]).flatMap fun v => Json.render v ++ [lineFeed]) ∧
        ∀ u ∈ values ++ [v], Sayable u := by
    intro line v hspeaks hlength
    constructor
    · rw [List.flatMap_append, List.flatMap_singleton, hspeaks.line, List.append_assoc]
    · intro u hu
      rcases List.mem_append.1 hu with hu | hu
      · exact hv u hu
      · rw [List.mem_singleton.1 hu]
        exact ⟨hspeaks.plain, hspeaks.line ▸ hlength⟩
  cases e with
  | response frame reply pending queued =>
    have hlength : reply.line.length + 1 ≤ 896 := hsize
    cases queued with
    | true => exact hmore he (by omega)
    | false => exact ⟨rfl, hv⟩
  | notice n pending queued =>
    have hlength : n.line.length + 1 ≤ 896 := hsize
    cases queued with
    | true => exact hmore he (by omega)
    | false => exact ⟨rfl, hv⟩
  | closed => exact ⟨rfl, fun _ h => absurd h List.not_mem_nil⟩

/-- The bytes of a session are the texts of its values. -/
theorem queuedBytes_said {log : List Entry} (h : ∀ e ∈ log, e.Spoken) :
    queuedBytes log = ((said log).flatMap fun v => Json.render v ++ [lineFeed]) ∧ ∀ v ∈ said log, Sayable v := by
  have hfold : ∀ (log : List Entry) (values : List Value), (∀ e ∈ log, e.Spoken) → (∀ v ∈ values, Sayable v) →
      log.foldl Entry.queueUp (values.flatMap fun v => Json.render v ++ [lineFeed]) =
          ((log.foldl Entry.say values).flatMap fun v => Json.render v ++ [lineFeed]) ∧
        ∀ v ∈ log.foldl Entry.say values, Sayable v := by
    intro log
    induction log with
    | nil => exact fun _ _ hv => ⟨rfl, hv⟩
    | cons e log ih =>
      intro values hall hv
      rw [List.forall_mem_cons] at hall
      obtain ⟨hbytes, hvalues⟩ := queueUp_say hall.1 hv
      rw [List.foldl_cons, List.foldl_cons, hbytes]
      exact ih _ hall.2 hvalues
  exact hfold log [] h fun _ hv => absurd hv List.not_mem_nil

namespace Port

variable {p : Platform} {serial firmware : CStr} {w : Port}

/-- Every line of the record is the text of a value. -/
def Spoken (w : Port) : Prop := ∀ e ∈ w.log, e.Spoken

theorem writeLine_spoken (h : Spoken w) {line : CStr} {entry : ℕ → Bool → Entry} (he : ∀ n queued, (entry n queued).Spoken) :
    Spoken (w.writeLine line entry) := by
  intro e hmem
  rcases List.mem_append.1 hmem with hmem | hmem
  · exact h e hmem
  · rw [List.mem_singleton.1 hmem]
    exact he _ _

theorem emit_spoken (h : Spoken w) {n : Notice} (hn : n.Printable) : Spoken (w.emit n) := by
  unfold World.emit
  split
  · exact h
  · exact writeLine_spoken h fun _ _ => Notice.speaks hn

theorem emits_spoken {ns : List Notice} (hns : ∀ n ∈ ns, n.Printable) (h : Spoken w) : Spoken (ns.foldl World.emit w) := by
  induction ns generalizing w with
  | nil => exact h
  | cons n ns ih =>
    rw [List.forall_mem_cons] at hns
    exact ih hns.2 (emit_spoken h hns.1)

theorem respond_spoken (h : Spoken w) (frame : Frame UInt8) {reply : Reply} (hr : Speaks reply.line reply.value) :
    Spoken (w.respond frame reply) := writeLine_spoken h fun _ _ => hr

theorem line_legible (hp : p.Documented) (r : Receiver) (answers : Answers) (line : CStr) (h : Legible p r) :
    Legible p (handleCommand p r (commandOf r answers line)) :=
  moment_legible hp r (.command (commandOf r answers line)) h

/-- A line of a session. -/
theorem handle_spoken (hp : p.Documented) (ht : Texts p serial firmware) (hlegible : Legible p w.receiver) (h : Spoken w)
    (line : CStr) : Spoken (w.handle (portHost p serial firmware) line) := by
  unfold World.handle
  refine respond_spoken (emits_spoken ?_ ?_) _ (handleLine_speaks ht hlegible line)
  · intro n hn
    obtain ⟨c, hc⟩ := handleLine_notices w.host line n hn
    exact notices_printable (m := .command c) hp (fun _ hm => by cases hm) rfl n hc
  · exact h

/-- One byte of a session. -/
theorem readByte_spoken (hp : p.Documented) (ht : Texts p serial firmware) (v : Port) (byte : UInt8)
    (h : Legible p v.receiver ∧ Spoken v) :
    Legible p (receiver (v.readByte (portHost p serial firmware) byte)) ∧
      Spoken (v.readByte (portHost p serial firmware) byte) := by
  obtain ⟨hlegible, hspoken⟩ := h
  constructor
  · rw [readByte_receiver]
    unfold commandsOfByte
    split
    · exact line_legible hp _ _ _ hlegible
    · exact hlegible
  · unfold World.readByte
    dsimp only
    split
    · exact hspoken
    · rename_i line _
      apply handle_spoken hp ht
      · exact hlegible
      · exact hspoken
    · exact respond_spoken hspoken _ (Reply.error_speaks .frameTooLarge)

theorem readBytes_spoken (hp : p.Documented) (ht : Texts p serial firmware) (h : Legible p w.receiver ∧ Spoken w)
    (reads : ℕ) : Spoken (w.readBytes (portHost p serial firmware) reads) := by
  have hopen : Legible p (receiver { w with fifo := w.fifo.drop (min kMaxBytesPerService reads) }) ∧
      Spoken { w with fifo := w.fifo.drop (min kMaxBytesPerService reads) } := h
  exact (Run.invariant_all (readByte_spoken hp ht) (w.fifo.take (min kMaxBytesPerService reads)) hopen).2

theorem service_spoken (hp : p.Documented) (ht : Texts p serial firmware) (v : Port) (connected : Bool) (reads : ℕ)
    (writes : List UsbWrite) (hlegible : Legible p v.receiver) (hspoken : Spoken v) :
    Spoken (v.service (portHost p serial firmware) connected reads writes) := by
  unfold World.service
  split
  · intro e hmem
    rcases List.mem_append.1 hmem with hmem | hmem
    · exact hspoken e hmem
    · rw [List.mem_singleton.1 hmem]
      trivial
  · dsimp only
    split
    · exact hspoken
    · apply readBytes_spoken hp ht
      exact ⟨hlegible, hspoken⟩

/-- The signal strength of an inquiry result is a byte. -/
def PortEvent.Sampled : PortEvent → Prop
  | .bluetooth (.inquiryResult result) _ => ∀ rssi ∈ result.rssi, -128 ≤ rssi ∧ rssi ≤ 255
  | _ => True

theorem own_spoken (hp : p.Documented) {e : Receiver.Event} (he : e.withoutCommands = e) (hsampled : Setup.Sampled e)
    (h : Spoken w) (writes : List UsbWrite) : Spoken (w.own (Receiver.step p w.receiver e) writes) := by
  refine emits_spoken ?_ h
  intro n hn
  have hmoment : Receiver.step p w.receiver e = moment p w.receiver (.event e) := by
    show _ = Receiver.step p w.receiver e.withoutCommands
    rw [he]
  rw [hmoment] at hn
  exact notices_printable hp (fun e' he' => by cases he'; exact hsampled) rfl n hn

theorem step_spoken (hp : p.Documented) (ht : Texts p serial firmware) (w : Port) (e : PortEvent)
    (h : Legible p w.receiver ∧ Spoken w) (he : PortEvent.Sampled e) :
    Legible p (receiver (step p serial firmware w e)) ∧ Spoken (step p serial firmware w e) := by
  obtain ⟨hlegible, hspoken⟩ := h
  constructor
  · exact step_keeps (fun r m _ hr => moment_legible hp r m hr) (fun r answers line => line_legible hp r answers line) w e hlegible
  · cases e with
    | bluetooth b writes =>
      refine own_spoken hp rfl ?_ hspoken writes
      intro result hresult
      cases hresult
      exact he
    | usb cb => exact own_spoken hp rfl (fun _ hr => by cases hr) hspoken []
    | receive bytes => exact hspoken
    | serviceStaleInput nowMs => exact own_spoken hp rfl (fun _ hr => by cases hr) hspoken []
    | serviceUsbKeyboard a => exact own_spoken hp rfl (fun _ hr => by cases hr) hspoken []
    | setupSession cdcConnected reads writes answers =>
      refine service_spoken hp ht _ _ reads writes ?_ hspoken
      cases hconnected : w.receiver.configConnected cdcConnected with
      | true => exact moment_legible hp w.receiver .opened hlegible
      | false => exact ⟨hlegible.kept, hlegible.rested, hlegible.profile, hlegible.controller⟩

theorem emits_streamed {ns : List Notice} (h : World.Streamed w) : World.Streamed (ns.foldl World.emit w) := by
  induction ns generalizing w with
  | nil => exact h
  | cons n ns ih => exact ih (World.emit_streamed h n)

/-- What USB took in the session and what is pending are the session's queued lines. -/
theorem step_streamed (w : Port) (e : PortEvent) (h : World.Streamed w) :
    World.Streamed (step p serial firmware w e) := by
  have hown : ∀ (r : Receiver) (writes : List UsbWrite), World.Streamed (w.own r writes) := fun r writes =>
    emits_streamed (h.of_eq rfl rfl rfl)
  cases e with
  | bluetooth e writes => exact hown _ _
  | usb cb => exact hown _ _
  | receive bytes => exact h.of_eq rfl rfl rfl
  | serviceStaleInput nowMs => exact hown _ _
  | serviceUsbKeyboard a => exact hown _ _
  | setupSession cdcConnected reads writes answers =>
    have hopened : World.Streamed (w.opened cdcConnected answers) := h.of_eq rfl rfl rfl
    have hserved : World.Streamed (World.step (portHost p serial firmware) (w.opened cdcConnected answers)
        (.service (w.receiver.configConnected cdcConnected) reads writes)) := World.step_streamed _ _ hopened
    exact hserved.of_eq rfl rfl rfl

end Port

/-! ## The client -/

/-- A splitting of the stream at line feeds that takes every printable byte, and lines of 895 bytes. -/
structure Splits (F : Framing UInt8) : Prop where
  ends : F.ends lineFeed = true
  printable : ∀ b : UInt8, 0x20 ≤ b → F.ends b = false ∧ F.skipped b = false ∧ F.bad b = false
  limit : 895 ≤ F.limit

/-- The value of a line. -/
def readValue : Frame UInt8 → Option Value
  | .line text => Json.decode text
  | .rejected => none

theorem Sayable.whole {F : Framing UInt8} (hF : Splits F) {v : Value} (h : Sayable v) : F.Whole (Json.render v) := by
  refine ⟨fun hnil => ?_, fun b hb => hF.printable b (Json.render_printable v h.1 b hb), h.2.trans hF.limit⟩
  have hsize := Json.size_le v
  have hpos := Json.size_pos v
  rw [hnil, List.length_nil] at hsize
  omega

/-- A client reads the values of the session: what it has read so far are the first of them, and all of them once
nothing is pending. -/
theorem Port.client_reads {p : Platform} {serial firmware : CStr} (hp : p.Documented) (ht : Texts p serial firmware)
    (flash : Flash) (reads : Option Flash) (es : List PortEvent) (hes : ∀ e ∈ es, PortEvent.Sampled e)
    {F : Framing UInt8} (hF : Splits F) :
    let w := Run.exec (step p serial firmware) (boot p flash reads) es
    (F.frames (w.sent.map some)).map readValue <+: (said w.log).map some ∧
      (w.tx.pending = [] → (F.frames (w.sent.map some)).map readValue = (said w.log).map some) := by
  intro w
  have hw : Legible p w.receiver ∧ Spoken w := by
    have hsampled : Run.Always (step p serial firmware) (fun _ e => PortEvent.Sampled e) (boot p flash reads) es := by
      rw [Run.always_iff_split]
      rintro pre e post rfl
      exact hes e (by simp)
    exact Run.invariant (I := fun w : Port => Legible p w.receiver ∧ Spoken w) (step_spoken hp ht) hsampled
      ⟨boot_legible hp flash reads, fun _ h => absurd h List.not_mem_nil⟩
  have hstreamed : World.Streamed w := Run.invariant_all step_streamed es (World.start_streamed _)
  obtain ⟨hbytes, hsayable⟩ := queuedBytes_said hw.2
  have hqueued : w.sent ++ w.tx.pending = ((said w.log).map Json.render).flatMap (· ++ [lineFeed]) := by
    rw [List.flatMap_map]
    exact hstreamed.stream.trans hbytes
  have hwhole : ∀ line ∈ (said w.log).map Json.render, F.Whole line := by
    intro line hline
    obtain ⟨v, hv, rfl⟩ := List.mem_map.1 hline
    exact (hsayable v hv).whole hF
  obtain ⟨n, hframes, hall⟩ := F.frames_lines_prefix hF.ends hwhole ⟨w.tx.pending, hqueued⟩
  have hvalues : ∀ values : List Value, (∀ v ∈ values, Sayable v) →
      ((values.map Json.render).map Frame.line).map readValue = values.map some := by
    intro values hv
    rw [List.map_map, List.map_map]
    apply List.map_congr_left
    intro v hmem
    exact Json.decode_render (hv v hmem).1
  have hread : (F.frames (w.sent.map some)).map readValue = ((said w.log).take n).map some := by
    rw [hframes, ← List.map_take]
    exact hvalues _ fun v hv => hsayable v (List.mem_of_mem_take hv)
  rw [hread]
  refine ⟨(List.take_prefix n _).map some, fun hnone => ?_⟩
  rw [hnone, List.append_nil] at hqueued
  have hlength := hall hqueued
  rw [List.length_map] at hlength
  rw [List.take_of_length_le hlength]

/-- A client that drops carriage returns and gives up on control bytes. -/
def clientFraming : Framing UInt8 where
  ends b := b == lineFeed
  skipped b := b == carriageReturn
  bad b := b < 0x20
  limit := 4096

theorem clientFraming_splits : Splits clientFraming where
  ends := rfl
  printable b hb := by
    have hne : ∀ c : UInt8, c < 0x20 → b ≠ c := by
      rintro c hc rfl
      exact absurd hc (UInt8.not_lt.2 hb)
    refine ⟨?_, ?_, ?_⟩
    · exact beq_false_of_ne (hne _ (by decide))
    · exact beq_false_of_ne (hne _ (by decide))
    · exact decide_eq_false (UInt8.not_lt.2 hb)
  limit := by decide

/-- A request for the mapping, and a USB that takes 100 bytes at a time. -/
def asksConfig : List PortEvent :=
  [.receive (Json.render getConfigRequest ++ [lineFeed]), .setupSession true 256 [.takes 100] [],
    .setupSession true 256 [.takes 100] [], .setupSession true 256 [.takes 100] []]

/-- The client reads the answer once USB has taken all of it. -/
theorem Port.client_reads_config :
    let w := Run.exec (step buildPlatform (cstr "E6614C311B4C2F21") (cstr "0.1.0")) (boot buildPlatform (fun _ => none) none) asksConfig
    (said w.log).length = 1 ∧ (clientFraming.frames (w.sent.map some)).map readValue = (said w.log).map some :=
  ⟨by decide +kernel, (Port.client_reads (Platform.plain_documented _) ⟨by decide, by decide, by decide, by decide⟩
    (fun _ => none) none asksConfig (by simp [asksConfig, PortEvent.Sampled]) clientFraming_splits).2 (by decide +kernel)⟩

end RedMonkeyMpg.Setup
