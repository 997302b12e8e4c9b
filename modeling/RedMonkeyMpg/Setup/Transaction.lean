/-
The gamepad receiver as the owner of the setup service, and `SET_CONFIG` as a transaction. A line does
what its command does to the receiver. Over every run from a boot that read the flash faithfully, the
live mapping is valid and is the one a fault-free load would return; a line answered `saved` overwrites
both with its values, and a line answered with an error changes neither.
-/
import RedMonkeyMpg.Gamepad.Confirm
import RedMonkeyMpg.Setup.Line

namespace RedMonkeyMpg.Setup

open Gamepad Gamepad.Receiver

/-! ## The receiver as owner -/

/-- What the clock, BTstack and the flash answer while a line is handled. -/
structure Answers where
  nowMs : UInt32 := 0
  linkKey : Bool := false
  faults : StoreFaults := {}

/-- The notices among what a step emitted. -/
def notices (before after : Receiver) : List Notice :=
  (after.outputs.drop before.outputs.length).filterMap fun
    | .pairingState state => some (.pairingState state)
    | .scanResult name address rssi => some (.scanResult name address rssi)
    | _ => none

/-- What the receiver gives the service: `set_identity` keeps a pointer to the address text. -/
def gamepadHost (p : Platform) (serial firmware : CStr) (answers : Answers) : Host Receiver where
  mapping r := r.productionMapping
  setMapping m r := { r with productionMapping := m }
  store m r :=
    let stored := r.persistentConfig.store r.flash answers.faults m
    (stored.ok, { r with persistentConfig := stored.config, flash := stored.flash })
  sequence r := r.persistentConfig.sequence
  serial _ := serial
  firmware _ := firmware
  controller r := r.identity.controller
  address r :=
    match r.identity.address with
    | .null => none
    | .activeControllerAddress => some r.activeControllerAddress
    | .storedControllerAddress => some r.persistentConfig.addressText
  startScan := some fun r =>
    let r' := startPairingScan p r answers.nowMs
    (r', notices r r')
  selectCandidate := some fun text r =>
    let chosen := selectPairingCandidate p r text
    (chosen.1, chosen.2, notices r chosen.2)
  confirmPairing := some fun r =>
    let confirmed := confirmPairingCandidate p r answers.linkKey answers.faults
    (confirmed.1, confirmed.2, notices r confirmed.2)
  cancelPairing := some fun r =>
    let r' := Receiver.cancelPairing p r
    (r', notices r r')

/-- What a line asks of the receiver. -/
def commandOf (r : Receiver) (answers : Answers) (line : CStr) : SetupCommand :=
  if readUnsigned line (cstr "\"protocol\":") ≠ some 1 then .other
  else
    match readString line (cstr "\"command\":\"") 32 with
    | none => .other
    | some command =>
      if command = cstr "GET_INFO" then .other
      else if command = cstr "GET_CONFIG" then .other
      else if command = cstr "GET_CNC_PROFILES" then .other
      else if command = cstr "SET_CONFIG" then
        if readUnsigned line (cstr "\"schema\":") ≠ some 1 then .other
        else
          match parseMapping line r.productionMapping with
          | none => .other
          | some candidate => .setConfig candidate answers.faults
      else if command = cstr "START_SCAN" then .startScan answers.nowMs
      else if command = cstr "PAIR_CANDIDATE" then
        match readString line (cstr "\"address\":\"") 24 with
        | none => .other
        | some candidate => .pairCandidate candidate
      else if command = cstr "CONFIRM_PAIRING" then .confirmPairing answers.linkKey answers.faults
      else if command = cstr "CANCEL_PAIRING" then .cancelPairing
      else .other

/-- A command that failed. -/
def Failed (p : Platform) (r : Receiver) : SetupCommand → Prop
  | .setConfig mapping faults => (r.persistentConfig.store r.flash faults mapping).ok = false
  | .startScan _ => False
  | .pairCandidate address => (selectPairingCandidate p r address).1 = false
  | .confirmPairing linkKey faults => (confirmPairingCandidate p r linkKey faults).1 = false
  | .cancelPairing => False
  | .other => True

/-- A handled line does what its command does, is answered `saved` only by a stored mapping, and is
refused only when its command fails. -/
structure Does (p : Platform) (r : Receiver) (line : CStr) (c : SetupCommand) (faults : StoreFaults)
    (handled : Handled Receiver) : Prop where
  host : handled.host = handleCommand p r c
  saved : handled.reply = .saved → ∃ candidate, c = .setConfig candidate faults ∧
    parseMapping line r.productionMapping = some candidate ∧
    (r.persistentConfig.store r.flash faults candidate).ok = true
  refused : handled.reply.ok = false → Failed p r c

variable {p : Platform} {r : Receiver} {line serial firmware : CStr} {answers : Answers}

/-- A line that asks nothing of the receiver. -/
theorem Does.other {handled : Handled Receiver} {faults : StoreFaults} (hhost : handled.host = r)
    (hsaved : handled.reply ≠ .saved) : Does p r line .other faults handled :=
  ⟨hhost, fun h => absurd h hsaved, fun _ => trivial⟩

theorem setConfig_does :
    Does p r line
      (if readUnsigned line (cstr "\"schema\":") ≠ some 1 then .other
        else
          match parseMapping line r.productionMapping with
          | none => .other
          | some candidate => .setConfig candidate answers.faults)
      answers.faults (setConfig (gamepadHost p serial firmware answers) r line) := by
  unfold setConfig
  split
  · exact .other rfl Reply.noConfusion
  · dsimp only [gamepadHost]
    cases hparse : parseMapping line r.productionMapping with
    | none => exact .other rfl Reply.noConfusion
    | some candidate =>
      have hvalid := (parseMapping_some hparse).1
      dsimp only
      cases hok : (r.persistentConfig.store r.flash answers.faults candidate).ok with
      | false =>
        constructor
        · simp only [handleCommand, Receiver.setConfig, hvalid, hok, refuse]
          rfl
        · intro hsaved
          cases hsaved
        · intro _
          exact hok
      | true =>
        constructor
        · simp only [handleCommand, Receiver.setConfig, hvalid, hok]
          rfl
        · intro _
          exact ⟨candidate, rfl, hparse, hok⟩
        · intro hrefused
          cases hrefused

theorem pairCandidate_does :
    Does p r line
      (match readString line (cstr "\"address\":\"") 24 with
        | none => .other
        | some candidate => .pairCandidate candidate)
      answers.faults (pairCandidate (gamepadHost p serial firmware answers) r line) := by
  unfold pairCandidate
  dsimp only [gamepadHost]
  cases readString line (cstr "\"address\":\"") 24 with
  | none => exact .other rfl nofun
  | some candidate =>
    dsimp only
    cases hok : (selectPairingCandidate p r candidate).1 with
    | false => exact ⟨rfl, nofun, fun _ => hok⟩
    | true => exact ⟨rfl, nofun, nofun⟩

theorem confirmPairing_does :
    Does p r line (.confirmPairing answers.linkKey answers.faults) answers.faults
      (confirmPairing (gamepadHost p serial firmware answers) r) := by
  unfold confirmPairing
  dsimp only [gamepadHost]
  cases hok : (confirmPairingCandidate p r answers.linkKey answers.faults).1 with
  | false => exact ⟨rfl, nofun, fun _ => hok⟩
  | true => exact ⟨rfl, nofun, nofun⟩

theorem handleLine_does (p : Platform) (serial firmware : CStr) (answers : Answers) (r : Receiver) (line : CStr) :
    Does p r line (commandOf r answers line) answers.faults
      (handleLine (gamepadHost p serial firmware answers) r line) := by
  unfold handleLine commandOf
  split
  · exact .other rfl nofun
  · cases readString line (cstr "\"command\":\"") 32 with
    | none => exact .other rfl nofun
    | some command =>
      dsimp only
      by_cases h₁ : command = cstr "GET_INFO"
      · rw [if_pos h₁, if_pos h₁]
        exact .other rfl nofun
      rw [if_neg h₁, if_neg h₁]
      by_cases h₂ : command = cstr "GET_CONFIG"
      · rw [if_pos h₂, if_pos h₂]
        unfold getConfig
        split <;> exact .other rfl nofun
      rw [if_neg h₂, if_neg h₂]
      by_cases h₃ : command = cstr "GET_CNC_PROFILES"
      · rw [if_pos h₃, if_pos h₃]
        unfold getCncProfiles
        split <;> exact .other rfl nofun
      rw [if_neg h₃, if_neg h₃]
      by_cases h₄ : command = cstr "SET_CONFIG"
      · rw [if_pos h₄, if_pos h₄]
        exact setConfig_does
      rw [if_neg h₄, if_neg h₄]
      by_cases h₅ : command = cstr "START_SCAN"
      · rw [if_pos h₅, if_pos h₅]
        exact ⟨rfl, nofun, nofun⟩
      rw [if_neg h₅, if_neg h₅]
      by_cases h₆ : command = cstr "PAIR_CANDIDATE"
      · rw [if_pos h₆, if_pos h₆]
        exact pairCandidate_does
      rw [if_neg h₆, if_neg h₆]
      by_cases h₇ : command = cstr "CONFIRM_PAIRING"
      · rw [if_pos h₇, if_pos h₇]
        exact confirmPairing_does
      rw [if_neg h₇, if_neg h₇]
      by_cases h₈ : command = cstr "CANCEL_PAIRING"
      · rw [if_pos h₈, if_pos h₈]
        exact ⟨rfl, nofun, nofun⟩
      rw [if_neg h₈, if_neg h₈]
      exact .other rfl nofun

/-! ## The stored and the live mapping -/

/-- The RAM is what a fault-free load would make of the flash, and the live mapping is the one it
would return. -/
structure Agreed (r : Receiver) : Prop where
  device : Consistent r.memory.device
  mapping : r.productionMapping = (load (some r.flash)).mapping

theorem Agreed.of_memory {r' : Receiver} (h : Agreed r) (hm : r'.memory = r.memory) : Agreed r' := by
  have hflash : r'.flash = r.flash := congrArg (·.device.flash) hm
  have hlive : r'.productionMapping = r.productionMapping := congrArg Memory.productionMapping hm
  exact ⟨by rw [hm]; exact h.device, by rw [hlive, hflash, h.mapping]⟩

theorem boot_agreed (flash : Flash) : Agreed (boot p flash (some flash)) := ⟨rfl, rfl⟩

/-- A `SET_CONFIG` that saves moves both mappings, and one that fails neither. -/
theorem setConfig_cases (mapping : ProductionMapping) (faults : StoreFaults) :
    ((r.persistentConfig.store r.flash faults mapping).ok = true ∧
      (r.setConfig mapping faults).memory = ⟨r.memory.device.step (.save (.mapping mapping) faults), mapping⟩) ∨
    ((r.persistentConfig.store r.flash faults mapping).ok = false ∧
      (r.setConfig mapping faults).memory = ⟨r.memory.device.step (.save (.mapping mapping) faults), r.productionMapping⟩) := by
  have hstore := store_cases r.persistentConfig r.flash faults mapping
  unfold Receiver.setConfig
  split
  · rename_i hinvalid
    rcases hstore with ⟨hok, hc, -⟩ | ⟨-, hvalid, -⟩
    · refine .inr ⟨hok, ?_⟩
      have hsame : r.persistentConfig.store r.flash faults mapping = ⟨false, r.persistentConfig, r.flash⟩ := by
        unfold PersistentConfig.store
        rw [if_pos hinvalid]
      show r.memory = Memory.mk ⟨(r.persistentConfig.store r.flash faults mapping).flash,
        (r.persistentConfig.store r.flash faults mapping).config⟩ r.productionMapping
      rw [hsame]
      rfl
    · exact absurd hvalid hinvalid
  · dsimp only
    cases hok : (r.persistentConfig.store r.flash faults mapping).ok with
    | true => exact .inl ⟨rfl, rfl⟩
    | false => exact .inr ⟨rfl, rfl⟩

theorem setConfig_agreed (h : Agreed r) (mapping : ProductionMapping) (faults : StoreFaults) :
    Agreed (r.setConfig mapping faults) := by
  rcases setConfig_cases (r := r) mapping faults with ⟨hok, hm⟩ | ⟨hok, hm⟩
  · have hflash := congrArg (·.device.flash) hm
    have hlive : (r.setConfig mapping faults).productionMapping = mapping := congrArg Memory.productionMapping hm
    refine ⟨by rw [hm]; exact step_consistent _ (.save _ _) h.device trivial, ?_⟩
    rw [hlive]
    show mapping = (load (some (r.setConfig mapping faults).memory.device.flash)).mapping
    rw [hm]
    exact (h.device.saved (.mapping mapping) hok).symm
  · have hlive : (r.setConfig mapping faults).productionMapping = r.productionMapping := congrArg Memory.productionMapping hm
    refine ⟨by rw [hm]; exact step_consistent _ (.save _ _) h.device trivial, ?_⟩
    rw [hlive]
    show r.productionMapping = (load (some (r.setConfig mapping faults).memory.device.flash)).mapping
    rw [hm, (h.device.refused (.mapping mapping) hok).2]
    exact h.mapping

/-- A command that fails changes neither mapping, nor the stored address or sequence. -/
theorem failed_unchanged (h : Agreed r) {c : SetupCommand} (hf : Failed p r c) :
    (handleCommand p r c).productionMapping = r.productionMapping ∧
      (handleCommand p r c).persistentConfig = r.persistentConfig ∧
      load (some (handleCommand p r c).flash) = load (some r.flash) := by
  have hsame : ∀ {r' : Receiver}, r'.memory = r.memory → r'.productionMapping = r.productionMapping ∧
      r'.persistentConfig = r.persistentConfig ∧ load (some r'.flash) = load (some r.flash) := fun hm =>
    ⟨congrArg Memory.productionMapping hm, congrArg (·.device.config) hm,
      congrArg (fun m : Memory => load (some m.device.flash)) hm⟩
  cases c with
  | setConfig mapping faults =>
    have hok : (r.persistentConfig.store r.flash faults mapping).ok = false := hf
    have hm := (setConfig_cases (r := r) mapping faults).resolve_left fun h =>
      Bool.noConfusion (hok.symm.trans h.1)
    obtain ⟨hc, hl⟩ := h.device.refused (.mapping mapping) hok
    refine ⟨congrArg Memory.productionMapping hm.2, (congrArg (·.device.config) hm.2).trans hc, ?_⟩
    show load (some (r.setConfig mapping faults).memory.device.flash) = _
    rw [hm.2]
    exact hl
  | startScan nowMs => exact hf.elim
  | pairCandidate address => exact hsame (selectPairingCandidate_memory address)
  | confirmPairing linkKey faults =>
    have hkeep := (confirmPairingCandidate_failed hf).1
    exact ⟨by simp only [handleCommand]; rw [hkeep], by simp only [handleCommand]; rw [hkeep], confirm_refused h.device hf⟩
  | cancelPairing => exact hf.elim
  | other => exact hsame rfl

theorem moment_agreed (r : Receiver) (m : Moment) (h : Agreed r) : Agreed (moment p r m) := by
  rcases moment_cases (p := p) r m with ⟨hr, -⟩ | ⟨text, rfl, -⟩ | ⟨mapping, faults, rfl⟩ | ⟨linkKey, faults, rfl⟩
  · exact h.of_memory hr.memory
  · exact h.of_memory (selectPairingCandidate_memory text)
  · exact setConfig_agreed h mapping faults
  · cases hok : (confirmPairingCandidate p r linkKey faults).1 with
    | true =>
      obtain ⟨-, hrun, hm, -⟩ := confirmPairingCandidate_ok hok
      have hlive : (confirmPairingCandidate p r linkKey faults).2.productionMapping = r.productionMapping :=
        congrArg Memory.productionMapping hm
      refine ⟨?_, ?_⟩
      · show Consistent (confirmPairingCandidate p r linkKey faults).2.memory.device
        rw [hm]
        exact step_consistent _ (.save _ _) h.device trivial
      · show (confirmPairingCandidate p r linkKey faults).2.productionMapping =
          (load (some (confirmPairingCandidate p r linkKey faults).2.memory.device.flash)).mapping
        rw [hlive, hm]
        exact (h.device.saved r.bondSave hrun).symm
    | false =>
      obtain ⟨hlive, hconfig, hload⟩ := failed_unchanged (p := p) h (c := .confirmPairing linkKey faults) hok
      exact ⟨hconfig.trans (h.device.trans (congrArg Loaded.config hload.symm)),
        hlive.trans (h.mapping.trans (congrArg Loaded.mapping hload.symm))⟩

/-! ## Runs of lines -/

/-- A line that the service handles, or anything else that happens to the receiver. -/
inductive Happening where
  | line (line : CStr) (answers : Answers)
  | moment (m : Moment)

/-- What happens to the receiver. -/
def happen (p : Platform) (serial firmware : CStr) (r : Receiver) : Happening → Receiver
  | .line line answers => (handleLine (gamepadHost p serial firmware answers) r line).host
  | .moment m => moment p r m

theorem happen_agreed (r : Receiver) (x : Happening) (h : Agreed r) : Agreed (happen p serial firmware r x) := by
  cases x with
  | moment m => exact moment_agreed r m h
  | line line answers =>
    simp only [happen]
    rw [(handleLine_does p serial firmware answers r line).host]
    exact moment_agreed r (.command (commandOf r answers line)) h

/-- What a handled line does to the configuration. -/
structure LineLaw (line : CStr) (before : Receiver) (handled : Handled Receiver) : Prop where
  valid : validateProductionMapping handled.host.productionMapping = .valid
  agrees : handled.host.productionMapping = (load (some handled.host.flash)).mapping
  saved : handled.reply = .saved → Overwrites line before.productionMapping handled.host.productionMapping
  refused : handled.reply.ok = false →
    handled.host.productionMapping = before.productionMapping ∧
      handled.host.persistentConfig = before.persistentConfig ∧
      load (some handled.host.flash) = load (some before.flash)

/-- `SET_CONFIG` is a transaction: every line of every run from a boot that read the flash faithfully,
whatever the flash does, keeps the law. -/
theorem lines_transact (p : Platform) (serial firmware : CStr) (flash : Flash) (xs : List Happening)
    (line : CStr) (answers : Answers) :
    LineLaw line (Run.exec (happen p serial firmware) (boot p flash (some flash)) xs)
      (handleLine (gamepadHost p serial firmware answers)
        (Run.exec (happen p serial firmware) (boot p flash (some flash)) xs) line) := by
  have hbefore : Agreed (Run.exec (happen p serial firmware) (boot p flash (some flash)) xs) :=
    Run.invariant_all happen_agreed xs (boot_agreed flash)
  generalize Run.exec (happen p serial firmware) (boot p flash (some flash)) xs = r at hbefore ⊢
  have hdoes := handleLine_does p serial firmware answers r line
  have hafter : Agreed (handleLine (gamepadHost p serial firmware answers) r line).host :=
    happen_agreed r (.line line answers) hbefore
  refine ⟨?_, hafter.mapping, fun hsaved => ?_, fun hno => ?_⟩
  · rw [hafter.mapping]
    exact load_valid _
  · obtain ⟨candidate, hc, hparse, hok⟩ := hdoes.saved hsaved
    rw [hdoes.host, hc]
    have hm := (setConfig_cases (r := r) candidate answers.faults).resolve_right fun h =>
      Bool.noConfusion (hok.symm.trans h.1)
    have hlive : (r.setConfig candidate answers.faults).productionMapping = candidate :=
      congrArg Memory.productionMapping hm.2
    simp only [handleCommand, hlive]
    exact (parseMapping_some hparse).2
  · rw [hdoes.host]
    exact failed_unchanged hbefore (hdoes.refused hno)

end RedMonkeyMpg.Setup
