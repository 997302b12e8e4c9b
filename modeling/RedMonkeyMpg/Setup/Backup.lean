/-
A configuration read and written back. The answer to `GET_CONFIG` is the compact text of a JSON value
that carries the mapping; the same mapping value in a `SET_CONFIG` reads as the mapping it was printed
from. So a client that keeps what it read brings a receiver back to it, whatever it was set to since.
-/
import RedMonkeyMpg.Setup.Port
import RedMonkeyMpg.Setup.Request

namespace RedMonkeyMpg.Setup

open Gamepad Gamepad.Receiver
open Json (Value)

/-! ## The values -/

/-- A mapping as the service prints it. -/
def mappingValue (profileKey : CStr) (m : ProductionMapping) : Value :=
  .object [(cstr "cncProfile", .text profileKey), (cstr "deadman", .text (controlName m.deadmanMask)),
    (cstr "continuous", .text (controlName m.continuousMask)), (cstr "resolution", .text (controlName m.resolutionMask)),
    (cstr "faceA", .text (actionName m.faceA)), (cstr "faceB", .text (actionName m.faceB)),
    (cstr "faceX", .text (actionName m.faceX)), (cstr "faceY", .text (actionName m.faceY))]

def getConfigRequest : Value := .object [(cstr "protocol", .number 1), (cstr "command", .text (cstr "GET_CONFIG"))]

/-- The answer to it, around the mapping. -/
def configReply (mapping : Value) : Value :=
  .object [(cstr "protocol", .number 1), (cstr "ok", .bool true),
    (cstr "result", .object [(cstr "schema", .number 1), (cstr "mapping", mapping)])]

def setConfigRequest (mapping : Value) : Value :=
  .object [(cstr "protocol", .number 1), (cstr "command", .text (cstr "SET_CONFIG")), (cstr "schema", .number 1),
    (cstr "mapping", mapping)]

/-! ## Names -/

theorem isMotionControl_cases {mask : UInt32} (h : isMotionControl mask = true) :
    mask = 0x00040 ∨ mask = 0x00080 ∨ mask = 0x00100 ∨ mask = 0x00200 := by
  simp only [isMotionControl, isSingleMask, Bool.and_eq_true, bne_iff_ne, beq_iff_eq] at h
  obtain ⟨⟨hne, hsingle⟩, hmotion⟩ := h
  have hnat : mask.toNat ≠ 0 := fun h0 => hne (UInt32.toNat_inj.1 h0)
  have hpred : (mask - 1).toNat = mask.toNat - 1 := by
    rw [UInt32.toNat_sub_of_le]
    · rfl
    · rw [UInt32.le_iff_toNat_le]
      exact Nat.one_le_iff_ne_zero.2 hnat
  -- one bit, and it is among the four
  obtain ⟨k, hk⟩ : ∃ k, mask.toNat = 2 ^ k := by
    rw [← Nat.isPowerOfTwo, ← Nat.and_sub_one_eq_zero_iff_isPowerOfTwo hnat, ← hpred, ← UInt32.toNat_and, hsingle]
    rfl
  have hlt : k < 32 := by
    have := mask.toNat_lt
    rw [hk] at this
    exact (Nat.pow_lt_pow_iff_right (by decide)).1 this
  obtain rfl : mask = UInt32.ofNat (2 ^ k) := by rw [← hk, UInt32.ofNat_toNat]
  interval_cases k <;> revert hmotion <;> decide

/-- A motion control reads back from its name. -/
theorem controlMask_controlName {mask : UInt32} (h : isMotionControl mask = true) (allow : Bool) :
    controlMask (controlName mask) allow = mask := by
  rcases isMotionControl_cases h with rfl | rfl | rfl | rfl <;> cases allow <;> decide

/-- A safe action reads back from its name. -/
theorem buttonAction_actionName {action : ButtonAction} (h : isSafeFaceAction action = true) :
    buttonAction (actionName action) = action := by
  cases action with
  | unknown raw hraw => cases h
  | _ => decide

/-- A compiled profile is found by its key, which a request can carry. -/
theorem profile_by_key {profile : CncControllerProfile} (h : profile ∈ kProfiles) :
    cncControllerProfileByKey profile.key = some profile ∧ textField 48 profile.key = some profile.key ∧
      Json.plainText profile.key = true := by
  obtain rfl := List.mem_singleton.1 h
  exact ⟨rfl, by decide, by decide⟩

theorem controlName_plain (mask : UInt32) :
    Json.plainText (controlName mask) = true ∧ ∀ size, 16 ≤ size → textField size (controlName mask) = some (controlName mask) := by
  have hlen := length_controlName_le mask
  have hne : controlName mask ≠ [] ∧ Json.plainText (controlName mask) = true := by
    unfold controlName
    split_ifs <;> decide
  refine ⟨hne.2, fun size hsize => if_neg ?_⟩
  rw [not_or]
  exact ⟨hne.1, by omega⟩

theorem actionName_plain (action : ButtonAction) :
    Json.plainText (actionName action) = true ∧ textField 24 (actionName action) = some (actionName action) := by
  cases action with
  | unknown raw h =>
    show Json.plainText (cstr "UNASSIGNED") = true ∧ textField 24 (cstr "UNASSIGNED") = some (cstr "UNASSIGNED")
    decide
  | _ => exact ⟨by decide, by decide⟩

/-! ## The answer and the request -/

section Mapping

variable {m old : ProductionMapping} {profile : CncControllerProfile}

theorem mappingValue_plain (hp : Json.plainText profile.key = true) : Json.plain (mappingValue profile.key m) = true := by
  simp [mappingValue, Json.plain, Json.plainMembers, hp, controlName_plain, actionName_plain]
  decide

theorem setConfigRequest_plain (hp : Json.plainText profile.key = true) :
    Json.plain (setConfigRequest (mappingValue profile.key m)) = true := by
  simp only [setConfigRequest, Json.plain, Json.plainMembers, mappingValue_plain hp]
  decide

/-- What a valid mapping is made of. -/
theorem valid_controls (h : validateProductionMapping m = .valid) :
    isMotionControl m.deadmanMask = true ∧ isMotionControl m.continuousMask = true ∧ m.resolutionMask = 0 ∧
      ∀ action ∈ m.faces, isSafeFaceAction action = true := by
  unfold validateProductionMapping at h
  split at h
  · cases h
  · split_ifs at h with hcontrol hdistinct hfaces hstep
    simp only [Bool.or_eq_true, Bool.not_eq_true', not_or, bne_iff_ne, not_not, Bool.not_eq_false] at hcontrol hfaces
    exact ⟨hcontrol.1.1.1, hcontrol.1.1.2, hcontrol.2, List.all_eq_true.1 hfaces⟩

theorem valid_profile (h : validateProductionMapping m = .valid) : ∃ profile, cncControllerProfile m.cncProfile = some profile := by
  unfold validateProductionMapping at h
  split at h
  · cases h
  · rename_i profile hprofile
    exact ⟨profile, hprofile⟩

/-- The answer to `GET_CONFIG` is the text of its value. -/
theorem config_line (hkey : profile.key.length ≤ 48) :
    (Reply.config profile.key m).line = Json.render (configReply (mappingValue profile.key m)) := by
  have hline : (Reply.config profile.key m).line = Reply.text true (Reply.config profile.key m).body := config_uncut hkey m
  rw [hline]
  simp only [Reply.text, Reply.body, configReply, mappingValue, Json.render, Json.renderMembers, Json.quoted,
    List.append_assoc, List.cons_append, List.nil_append, if_true]
  rfl

/-- A request with a valid mapping reads as the mapping, over any old one with the same precision control. -/
theorem parseMapping_request (hprofile : cncControllerProfile m.cncProfile = some profile)
    (hvalid : validateProductionMapping m = .valid) (hprecision : old.precisionMask = m.precisionMask) :
    parseMapping (Json.render (setConfigRequest (mappingValue profile.key m))) old = some m := by
  obtain ⟨hmem, hid⟩ : profile ∈ kProfiles ∧ profile.id = m.cncProfile :=
    ⟨List.mem_of_find?_eq_some hprofile, by simpa using List.find?_some hprofile⟩
  obtain ⟨hbykey, hkey, hplain⟩ := profile_by_key hmem
  have hv : Json.plain (setConfigRequest (mappingValue profile.key m)) = true := setConfigRequest_plain hplain
  obtain ⟨⟨hdeadman, hcontinuous, hresolution⟩, ⟨ha, hb, hx, hy⟩, hcnc, -⟩ := keys_eq
  have hread : ∀ {name value : CStr} {size : ℕ}, Named name →
      texts name (setConfigRequest (mappingValue profile.key m)) = [value] → textField size value = some value →
      readString (Json.render (setConfigRequest (mappingValue profile.key m))) (textKey name) size = some value := by
    intro name value size hname htexts hfield
    rw [readString_render hname size hv, readText, htexts]
    exact hfield
  have hfound : (strstr cncProfileKey (Json.render (setConfigRequest (mappingValue profile.key m)))).isSome = true := by
    rw [hcnc, strstr_render (by decide) hv]
    rfl
  have hcncRead : readProfile (Json.render (setConfigRequest (mappingValue profile.key m))) old.cncProfile = some m.cncProfile := by
    unfold readProfile
    rw [if_pos hfound, hcnc, hread (by decide) rfl hkey, Option.bind_some, hbykey, Option.map_some, hid]
  obtain ⟨hd, hc, hr, hfaces⟩ := valid_controls hvalid
  have hcandidate : ({ old with
      cncProfile := m.cncProfile
      deadmanMask := controlMask (controlName m.deadmanMask) false
      continuousMask := controlMask (controlName m.continuousMask) false
      resolutionMask := controlMask (controlName m.resolutionMask) true
      faceA := buttonAction (actionName m.faceA)
      faceB := buttonAction (actionName m.faceB)
      faceX := buttonAction (actionName m.faceX)
      faceY := buttonAction (actionName m.faceY) } : ProductionMapping) = m := by
    have hnone : controlMask (controlName m.resolutionMask) true = m.resolutionMask := by
      rw [hr]
      decide
    have hface : ∀ action ∈ m.faces, buttonAction (actionName action) = action := fun action h =>
      buttonAction_actionName (hfaces action h)
    simp only [ProductionMapping.faces, List.forall_mem_cons] at hface
    rw [controlMask_controlName hd, controlMask_controlName hc, hnone, hface.1, hface.2.1, hface.2.2.1, hface.2.2.2.1, hprecision]
  unfold parseMapping
  rw [hdeadman, hcontinuous, hresolution, ha, hb, hx, hy,
    hread (by decide) rfl ((controlName_plain m.deadmanMask).2 16 (by decide)),
    hread (by decide) rfl ((controlName_plain m.continuousMask).2 16 (by decide)),
    hread (by decide) rfl ((controlName_plain m.resolutionMask).2 20 (by decide)),
    hread (by decide) rfl (actionName_plain m.faceA).2, hread (by decide) rfl (actionName_plain m.faceB).2,
    hread (by decide) rfl (actionName_plain m.faceX).2, hread (by decide) rfl (actionName_plain m.faceY).2,
    hcncRead]
  simp only [Option.bind_eq_bind, Option.bind_some, hcandidate, hvalid]
  rfl

/-- The request stores the mapping, and takes it over once it is stored. -/
theorem handleLine_request {σ : Type} (host : Host σ) (s : σ) (hprofile : cncControllerProfile m.cncProfile = some profile)
    (hvalid : validateProductionMapping m = .valid) (hprecision : (host.mapping s).precisionMask = m.precisionMask) :
    handleLine host s (Json.render (setConfigRequest (mappingValue profile.key m))) =
      if !(host.store m s).1 then refuse (host.store m s).2 .configStoreFailed
      else { host := host.setMapping m (host.store m s).2, reply := .saved } := by
  have hplain : Json.plainText profile.key = true := (profile_by_key (List.mem_of_find?_eq_some hprofile)).2.2
  have hv : Json.plain (setConfigRequest (mappingValue profile.key m)) = true := setConfigRequest_plain hplain
  obtain ⟨-, -, -, hcommand, -, hprotocol, hschema⟩ := keys_eq
  unfold handleLine setConfig
  rw [hprotocol, readUnsigned_render (by decide) hv, hcommand, readString_render (by decide) 32 hv,
    hschema, readUnsigned_render (by decide) hv, parseMapping_request hprofile hvalid hprecision]
  rfl

end Mapping

/-- The question is answered with the live mapping. -/
theorem handleLine_question {σ : Type} (host : Host σ) (s : σ) {profile : CncControllerProfile}
    (hprofile : cncControllerProfile (host.mapping s).cncProfile = some profile) :
    handleLine host s (Json.render getConfigRequest) = { host := s, reply := .config profile.key (host.mapping s) } := by
  have hv : Json.plain getConfigRequest = true := by decide
  obtain ⟨-, -, -, hcommand, -, hprotocol, -⟩ := keys_eq
  have hget : getConfig host s = { host := s, reply := .config profile.key (host.mapping s) } := by
    unfold getConfig
    rw [hprofile]
  unfold handleLine
  rw [hprotocol, readUnsigned_render (by decide) hv, hcommand, readString_render (by decide) 32 hv, ← hget]
  rfl

/-! ## Runs -/

/-- A store that no fault meets succeeds. -/
theorem store_faultless {m : ProductionMapping} (hvalid : validateProductionMapping m = .valid) (config : PersistentConfig)
    (flash : Flash) : (config.store flash {} m).ok = true := by
  unfold PersistentConfig.store
  rw [if_neg (not_not.2 hvalid)]
  simp [readRecord_toBytes hvalid]

theorem commandOf_setConfig {r : Receiver} {answers : Answers} {line : CStr} {mapping : ProductionMapping} {faults : StoreFaults}
    (h : commandOf r answers line = .setConfig mapping faults) : parseMapping line r.productionMapping = some mapping := by
  unfold commandOf at h
  split at h
  · cases h
  · split at h
    · cases h
    · split_ifs at h <;> try cases h
      · split at h
        · cases h
        · rename_i candidate hparse
          cases h
          exact hparse
      · split at h <;> cases h

namespace Port

variable {p : Platform} {serial firmware : CStr}

/-- The live mapping is the stored one, and its precision control is still the one it was. -/
structure Settled (mask : UInt32) (r : Receiver) : Prop where
  agreed : Agreed r
  precision : r.productionMapping.precisionMask = mask

theorem step_settled {mask : UInt32} (w : Port) (e : PortEvent) (h : Settled mask w.receiver) :
    Settled mask (step p serial firmware w e).receiver := by
  refine step_keeps ?_ ?_ w e h
  · intro r m hm hr
    refine ⟨moment_agreed r m hr.agreed, ?_⟩
    rcases moment_cases (p := p) r m with ⟨hret, -⟩ | ⟨text, rfl, -⟩ | ⟨mapping, faults, rfl⟩ | ⟨linkKey, faults, rfl⟩
    · rw [show (moment p r m).productionMapping = r.productionMapping from congrArg Memory.productionMapping hret.memory]
      exact hr.precision
    · exact absurd rfl (hm _)
    · exact absurd rfl (hm _)
    · exact absurd rfl (hm _)
  · intro r answers line hr
    refine ⟨moment_agreed r (.command (commandOf r answers line)) hr.agreed, ?_⟩
    rcases moment_cases (p := p) r (.command (commandOf r answers line)) with
      ⟨hret, -⟩ | ⟨text, htext⟩ | ⟨mapping, faults, hset⟩ | ⟨linkKey, faults, hconfirm⟩
    · have hsame : (handleCommand p r (commandOf r answers line)).productionMapping = r.productionMapping :=
        congrArg Memory.productionMapping hret.memory
      rw [hsame]
      exact hr.precision
    · rw [Moment.command.inj htext.1]
      have hsame : (selectPairingCandidate p r text).2.productionMapping = r.productionMapping :=
        congrArg Memory.productionMapping (selectPairingCandidate_memory text)
      exact (congrArg ProductionMapping.precisionMask hsame).trans hr.precision
    · have hc := Moment.command.inj hset
      have hparsed := (parseMapping_some (commandOf_setConfig hc)).2.precision
      rw [hc]
      rcases r.setConfig_eq mapping faults with hsame | ⟨-, stored, -, hmoved⟩
      · exact (congrArg (fun s : Receiver => s.productionMapping.precisionMask) hsame).trans hr.precision
      · refine (congrArg (fun s : Receiver => s.productionMapping.precisionMask) hmoved).trans ?_
        dsimp only
        split
        · exact hparsed.trans hr.precision
        · exact hr.precision
    · rw [Moment.command.inj hconfirm]
      obtain ⟨config, rearm, hout⟩ := confirmPairingCandidate_outside (p := p) (r := r) linkKey faults
      have hsame : (confirmPairingCandidate p r linkKey faults).2.productionMapping = r.productionMapping :=
        congrArg Outside.productionMapping hout
      exact (congrArg ProductionMapping.precisionMask hsame).trans hr.precision

/-- A client that keeps the mapping value of an answer to `GET_CONFIG` brings the receiver back to that mapping with
one `SET_CONFIG`, whatever happened between the two: the mapping is live and stored again, or the flash refused and
nothing changed, which no faultless flash does. -/
theorem backup_restores (p : Platform) (serial firmware : CStr) (flash : Flash) (es es' : List PortEvent) (answers : List Answers) :
    let before := Run.exec (step p serial firmware) (boot p flash (some flash)) es
    let later := (Run.exec (step p serial firmware) before es').receiver
    ∃ mapping : Value,
      (handleLine (portHost p serial firmware) before.host (Json.render getConfigRequest)).reply.line =
          Json.render (configReply mapping) ∧
        let handled := handleLine (portHost p serial firmware) { receiver := later, answers := answers }
          (Json.render (setConfigRequest mapping))
        (handled.reply = .saved ∧ handled.host.receiver.productionMapping = before.receiver.productionMapping ∧
            (load (some handled.host.receiver.flash)).mapping = before.receiver.productionMapping) ∨
          (handled.reply = .error .configStoreFailed ∧ handled.host.receiver.productionMapping = later.productionMapping ∧
            load (some handled.host.receiver.flash) = load (some later.flash) ∧ (answers.headD {}).faults ≠ {}) := by
  intro before later
  have hbefore : Settled before.receiver.productionMapping.precisionMask before.receiver := by
    have hboot : Settled _ (boot p flash (some flash)).receiver := ⟨boot_agreed flash, rfl⟩
    have hagreed : Agreed before.receiver :=
      (Run.invariant_all (I := fun w : Port => ∃ mask, Settled mask w.receiver)
        (fun w e h => h.imp fun _ hs => step_settled w e hs) es ⟨_, hboot⟩).elim fun _ h => h.agreed
    exact ⟨hagreed, rfl⟩
  have hlater : Settled before.receiver.productionMapping.precisionMask later :=
    Run.invariant_all (I := fun w : Port => Settled _ w.receiver) step_settled es' hbefore
  have hvalid : validateProductionMapping before.receiver.productionMapping = .valid := by
    rw [hbefore.agreed.mapping]
    exact load_valid _
  obtain ⟨profile, hprofile⟩ := valid_profile hvalid
  have hmem : profile ∈ kProfiles := List.mem_of_find?_eq_some hprofile
  refine ⟨mappingValue profile.key before.receiver.productionMapping, ?_, ?_⟩
  · rw [handleLine_question (portHost p serial firmware) before.host hprofile]
    exact config_line (profiles_short.1 profile hmem)
  · intro handled
    have hhandled : handled = _ := handleLine_request (portHost p serial firmware) { receiver := later, answers := answers }
      hprofile hvalid hlater.precision
    set m := before.receiver.productionMapping with hm
    have hstored : ((portHost p serial firmware).store m { receiver := later, answers := answers }).1 =
        (later.persistentConfig.store later.flash (answers.headD {}).faults m).ok := rfl
    cases hok : (later.persistentConfig.store later.flash (answers.headD {}).faults m).ok with
    | true =>
      left
      rw [hhandled, hstored, hok]
      refine ⟨rfl, rfl, ?_⟩
      exact hlater.agreed.device.saved (.mapping m) hok
    | false =>
      right
      rw [hhandled, hstored, hok]
      refine ⟨rfl, rfl, (hlater.agreed.device.refused (.mapping m) hok).2, fun hfaultless => ?_⟩
      rw [hfaultless, store_faultless hvalid] at hok
      cases hok

end Port

end RedMonkeyMpg.Setup
