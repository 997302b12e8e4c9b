/-
The committed address over every run from a boot that read the flash faithfully, one request at a
time. The address in RAM and the one a fault-free load would return change only in a confirmation
that succeeds: it finds a candidate selected, its chord held and a link key for its address, and
commits exactly the text that the last selection named.
-/
import RedMonkeyMpg.Gamepad.Rollback
import RedMonkeyMpg.Gamepad.Gate

namespace RedMonkeyMpg.Gamepad.Receiver

variable {p : Platform} {r : Receiver}

/-! ## What is kept across a power cycle -/

theorem cancelPairing_memory : (Receiver.cancelPairing p r).memory = r.memory := by
  obtain ⟨outputs, -, -, h⟩ := cancelPairing_eq (p := p) r
  rw [h]
  rfl

theorem startPairingScan_memory (nowMs : UInt32) : (startPairingScan p r nowMs).memory = r.memory := by
  obtain ⟨s, outputs, hs, -, -, h⟩ := startPairingScan_eq (p := p) r nowMs
  have hsame : s.memory = r.memory := by
    rw [hs]
    split
    · exact cancelPairing_memory
    · rfl
  rw [h, ← hsame]
  rfl

theorem selectPairingCandidate_memory (address : CStr) : (selectPairingCandidate p r address).2.memory = r.memory := by
  rcases selectPairingCandidate_eq (p := p) r address with ⟨-, h⟩ | ⟨-, -, ⟨-, h⟩ | ⟨parsed, outputs, -, -, -, h⟩⟩
  · rw [h]
  · rw [h]
    rfl
  · rw [h]
    rfl

theorem inquiryResult_memory (result : InquiryResult) : (Receiver.inquiryResult p r result).memory = r.memory := by
  rcases inquiryResult_eq (p := p) r result with h | ⟨outputs, -, h⟩
  · rw [h]
  · rw [h]
    rfl

theorem descriptorAvailable_memory (status : UInt8) (descriptor : Option (List UInt8)) (digest : Option Sha256Digest) :
    (Receiver.descriptorAvailable p r status descriptor digest).memory = r.memory := by
  rcases descriptorAvailable_eq (p := p) r status descriptor digest with
    ⟨profile, -, h⟩ | ⟨-, outputs, -, ⟨-, h⟩ | ⟨-, h⟩⟩
  · rw [h]
    rfl
  · rw [h, cancelPairing_memory]
    rfl
  · rw [h]
    rfl

/-! ## Steps that are no request -/

/-- A step that writes neither the flash, the RAM over it nor the live mapping, and after which a
candidate is selected only if the same one was before it. -/
structure Retains (r r' : Receiver) : Prop where
  memory : r'.memory = r.memory
  choice : r'.pairingCandidateSelected = true →
    r.pairingCandidateSelected = true ∧ r'.activeControllerAddress = r.activeControllerAddress

theorem Retains.refl (r : Receiver) : Retains r r := ⟨rfl, fun h => ⟨h, rfl⟩⟩

theorem Retains.of_bond {r' : Receiver} (hm : r'.memory = r.memory) (hb : r'.bond = r.bond) : Retains r r' := by
  refine ⟨hm, fun h => ⟨?_, congrArg Bond.activeControllerAddress hb⟩⟩
  rw [← show r'.pairingCandidateSelected = r.pairingCandidateSelected from congrArg Bond.pairingCandidateSelected hb]
  exact h

theorem Retains.of_kept {r' : Receiver} (h : r'.kept = r.kept) : Retains r r' :=
  .of_bond (congrArg Prod.snd h) (congrArg Prod.fst h)

/-- After a rollback no candidate is selected. -/
theorem Retains.of_restored {r' : Receiver} (hm : r'.memory = r.memory) (hb : r'.bond = r.bond.restored p) :
    Retains r r' := by
  have hno : r'.pairingCandidateSelected = false := congrArg Bond.pairingCandidateSelected hb
  refine ⟨hm, fun h => ?_⟩
  rw [hno] at h
  cases h

theorem cancelPairing_retains : Retains r (Receiver.cancelPairing p r) :=
  .of_restored cancelPairing_memory cancelPairing_bond

theorem startPairingScan_retains (nowMs : UInt32) : Retains r (startPairingScan p r nowMs) := by
  obtain ⟨s, outputs, -, -, -, h⟩ := startPairingScan_eq (p := p) r nowMs
  have hno : (startPairingScan p r nowMs).pairingCandidateSelected = false := by rw [h]; rfl
  refine ⟨startPairingScan_memory nowMs, fun hsel => ?_⟩
  rw [hno] at hsel
  cases hsel

theorem bluetooth_retains (r : Receiver) (b : BtEvent) : Retains r (bluetooth p r b) := by
  cases b with
  | inquiryResult result =>
    rcases inquiryResult_bond (p := p) (r := r) result with h | h
    · exact .of_bond (inquiryResult_memory result) h
    · refine ⟨inquiryResult_memory result, fun hc => ⟨?_, congrArg Bond.activeControllerAddress h⟩⟩
      exact (congrArg Bond.pairingCandidateSelected h).symm.trans hc
  | inquiryComplete => exact .of_kept inquiryComplete_kept
  | state working =>
    simp only [bluetooth]
    split <;> exact .of_bond rfl rfl
  | pinCodeRequest address => exact .of_bond rfl rfl
  | userConfirmationRequest address => exact .of_kept (userConfirmationRequest_kept address)
  | incomingConnection address cid status acceptStatus =>
    exact .of_kept (incomingConnection_kept address cid status acceptStatus)
  | connectionOpened status cid => exact .of_kept (connectionOpened_kept status cid)
  | descriptorAvailable status descriptor digest =>
    rcases descriptorAvailable_bond (p := p) (r := r) status descriptor digest with h | h
    · exact .of_bond (descriptorAvailable_memory ..) h
    · exact .of_restored (descriptorAvailable_memory ..) h
  | report report nowMs => exact .of_kept (consumeControllerReport_kept report nowMs)
  | connectionClosed => exact .of_kept connectionClosed_kept
  | reconnectTimer status cid => exact .of_kept (reconnectExpired_kept status cid)
  | scanTimer nowMs status => exact .of_kept (scanExpired_kept nowMs status)

/-! ## Requests -/

theorem setConfig_device (mapping : ProductionMapping) (faults : StoreFaults) :
    (r.setConfig mapping faults).memory.device = r.memory.device ∨
      (r.setConfig mapping faults).memory.device = r.memory.device.step (.save (.mapping mapping) faults) := by
  rcases r.setConfig_eq mapping faults with h | ⟨-, stored, rfl, h⟩
  · exact .inl (by rw [h])
  · exact .inr (by rw [h]; rfl)

/-- The save of a confirmation. -/
def bondSave (r : Receiver) : Save := .address r.productionMapping (some r.activeControllerAddress)

/-- A confirmation that fails before its save, or in it. -/
theorem confirmPairingCandidate_failed {linkKey : Bool} {faults : StoreFaults}
    (h : (confirmPairingCandidate p r linkKey faults).1 = false) :
    (confirmPairingCandidate p r linkKey faults).2 =
        { r with flash := (confirmPairingCandidate p r linkKey faults).2.flash } ∧
      ((confirmPairingCandidate p r linkKey faults).2.memory.device = r.memory.device ∨
        (confirmPairingCandidate p r linkKey faults).2.memory.device =
            r.memory.device.step (.save r.bondSave faults) ∧
          (r.bondSave.run r.persistentConfig r.flash faults).ok = false) := by
  rcases confirmPairingCandidate_eq (p := p) r linkKey faults with
    heq | ⟨stored, rfl, ⟨hok, heq⟩ | ⟨-, -, controller, outputs, -, heq⟩⟩
  · rw [heq]
    exact ⟨rfl, .inl rfl⟩
  · have hfail : (r.bondSave.run r.persistentConfig r.flash faults).ok = false := hok
    rw [heq]
    refine ⟨?_, .inr ⟨rfl, hfail⟩⟩
    exact congrArg (fun config : PersistentConfig =>
      { r with
        persistentConfig := config
        flash := (r.bondSave.run r.persistentConfig r.flash faults).flash }) (Save.run_failed hfail).1
  · rw [heq] at h
    cases h

/-- A confirmation that succeeds: what it checked, and its save. -/
theorem confirmPairingCandidate_ok {linkKey : Bool} {faults : StoreFaults}
    (h : (confirmPairingCandidate p r linkKey faults).1 = true) :
    (r.pairingCandidateSelected = true ∧ r.pairingChordConfirmed = true ∧ linkKey = true) ∧
      (r.bondSave.run r.persistentConfig r.flash faults).ok = true ∧
      (confirmPairingCandidate p r linkKey faults).2.memory =
        { r.memory with device := r.memory.device.step (.save r.bondSave faults) } ∧
      (confirmPairingCandidate p r linkKey faults).2.pairingCandidateSelected = false := by
  rcases confirmPairingCandidate_eq (p := p) r linkKey faults with
    heq | ⟨stored, rfl, ⟨-, heq⟩ | ⟨hok, hchecks, controller, outputs, -, heq⟩⟩
  · rw [heq] at h
    cases h
  · rw [heq] at h
    cases h
  · rw [heq]
    exact ⟨hchecks, hok, rfl, rfl⟩

/-- A selection that fails leaves the choice; one that succeeds is of the offered text. -/
theorem selectPairingCandidate_choice (address : CStr) :
    ((selectPairingCandidate p r address).1 = false ∧ Retains r (selectPairingCandidate p r address).2) ∨
      ((selectPairingCandidate p r address).1 = true ∧ address = r.candidateControllerAddress ∧
        address ≠ [] ∧ (selectPairingCandidate p r address).2.activeControllerAddress = addressBuffer address) := by
  rcases selectPairingCandidate_eq (p := p) r address with
    ⟨-, h⟩ | ⟨hne, rfl, ⟨-, h⟩ | ⟨parsed, outputs, -, -, -, h⟩⟩
  · rw [h]
    exact .inl ⟨rfl, .refl r⟩
  · rw [h]
    exact .inl ⟨rfl, rfl, fun hsel => ⟨hsel, rfl⟩⟩
  · rw [h]
    exact .inr ⟨rfl, rfl, hne, rfl⟩

/-! ## One request at a time -/

/-- A part of a run: an event, or the start, one request or the end of a pass that serves an active
session. -/
inductive Moment where
  | event (e : Event)
  | opened
  | command (c : SetupCommand)
  | served

/-- An event with no request in it. -/
def Event.withoutCommands : Event → Event
  | .setupSession cdcConnected _ => .setupSession cdcConnected []
  | e => e

def moment (p : Platform) (r : Receiver) : Moment → Receiver
  | .event e => step p r e.withoutCommands
  | .opened => { r.silent with configActive := true }
  | .command c => handleCommand p r c
  | .served => { r.publishRelease with rearmRequired := true, configWasActive := true }

/-- The moments of an event. -/
def Event.moments (r : Receiver) : Event → List Moment
  | .setupSession cdcConnected commands =>
    if r.configConnected cdcConnected then .opened :: (commands.map .command ++ [.served])
    else [.event (.setupSession cdcConnected [])]
  | e => [.event e]

/-- The moments of a run. -/
def moments (p : Platform) (r : Receiver) : List Event → List Moment
  | [] => []
  | e :: es => e.moments r ++ moments p (step p r e) es

theorem exec_commands (cs : List SetupCommand) (r : Receiver) :
    Run.exec (moment p) r (cs.map .command) = cs.foldl (handleCommand p) r := by
  induction cs generalizing r with
  | nil => rfl
  | cons c cs ih => exact ih _

theorem step_moments (r : Receiver) (e : Event) : Run.exec (moment p) r (e.moments r) = step p r e := by
  cases e with
  | setupSession cdc cs =>
    have hconnected : r.silent.configConnected cdc = r.configConnected cdc := rfl
    simp only [Event.moments, step, setupSession, configService, hconnected]
    split
    · have hactive := (handleCommands_session (p := p) cs { r.silent with configActive := true }).configActive
      rw [Run.exec_cons, Run.exec_append, show moment p r .opened = { r.silent with configActive := true } from rfl,
        exec_commands, if_pos hactive]
      generalize cs.foldl (handleCommand p) { r.silent with configActive := true } = r' at hactive ⊢
      show ({ r'.publishRelease with rearmRequired := true, configWasActive := true } : Receiver) = _
      rw [← show r'.publishRelease.configActive = true from hactive]
    · rename_i hoff
      simp only [Run.exec_cons, Run.exec_nil, moment, Event.withoutCommands, step, setupSession, configService,
        hconnected, if_neg hoff]
  | bluetooth b => rfl
  | usb cb => rfl
  | serviceStaleInput nowMs => rfl
  | serviceUsbKeyboard a => rfl

/-- Every run is a run of its moments. -/
theorem exec_moments (es : List Event) (r : Receiver) :
    Run.exec (step p) r es = Run.exec (moment p) r (moments p r es) := by
  induction es generalizing r with
  | nil => rfl
  | cons e es ih => rw [Run.exec_cons, moments, Run.exec_append, step_moments, ih]

/-! ## What one moment does -/

/-- A confirmation that succeeds. -/
def Confirms (p : Platform) (r : Receiver) (m : Moment) : Prop :=
  ∃ linkKey faults, m = .command (.confirmPairing linkKey faults) ∧
    (confirmPairingCandidate p r linkKey faults).1 = true

/-- A selection of `text` that succeeds. -/
def Selects (p : Platform) (text : CStr) (r : Receiver) (m : Moment) : Prop :=
  m = .command (.pairCandidate text) ∧ (selectPairingCandidate p r text).1 = true

theorem event_retains (r : Receiver) (e : Event) : Retains r (step p r e.withoutCommands) := by
  cases e with
  | bluetooth b => exact ⟨(bluetooth_retains r.silent b).memory, (bluetooth_retains r.silent b).choice⟩
  | usb cb => exact .of_bond rfl rfl
  | setupSession cdc cs =>
    simp only [Event.withoutCommands, step, setupSession, configService, List.foldl_nil]
    split
    · exact .of_bond rfl rfl
    · rw [if_neg Bool.false_ne_true]
      split
      · have h := cancelPairing_retains (p := p) (r := { r.silent with configActive := false })
        exact ⟨h.memory, h.choice⟩
      · exact .of_bond rfl rfl
  | serviceStaleInput nowMs => exact .of_kept (serviceStaleInput_kept (r := r.silent) nowMs)
  | serviceUsbKeyboard a => exact .of_kept (serviceUsbKeyboard_kept (r := r.silent) a)

/-- Everything a moment can do: retain, select a candidate, or run a `SET_CONFIG` or a
confirmation. -/
theorem moment_cases (r : Receiver) (m : Moment) :
    (Retains r (moment p r m) ∧ ∀ text, ¬ Selects p text r m) ∨
      (∃ text, Selects p text r m) ∨
      (∃ mapping faults, m = .command (.setConfig mapping faults)) ∨
      ∃ linkKey faults, m = .command (.confirmPairing linkKey faults) := by
  have hother : (∀ text, m ≠ .command (.pairCandidate text)) → ∀ text, ¬ Selects p text r m :=
    fun h text hs => h text hs.1
  cases m with
  | event e => exact .inl ⟨event_retains r e, hother nofun⟩
  | opened => exact .inl ⟨.of_bond rfl rfl, hother nofun⟩
  | served => exact .inl ⟨.of_bond rfl rfl, hother nofun⟩
  | command c =>
    cases c with
    | setConfig mapping faults => exact .inr (.inr (.inl ⟨mapping, faults, rfl⟩))
    | confirmPairing linkKey faults => exact .inr (.inr (.inr ⟨linkKey, faults, rfl⟩))
    | startScan nowMs => exact .inl ⟨startPairingScan_retains nowMs, hother nofun⟩
    | cancelPairing => exact .inl ⟨cancelPairing_retains, hother nofun⟩
    | other => exact .inl ⟨.refl r, hother nofun⟩
    | pairCandidate address =>
      rcases selectPairingCandidate_choice (p := p) (r := r) address with ⟨hf, hr⟩ | ⟨ht, -⟩
      · refine .inl ⟨hr, ?_⟩
        rintro text ⟨h, hs⟩
        cases h
        rw [hf] at hs
        cases hs
      · exact .inr (.inl ⟨address, rfl, ht⟩)

theorem moment_bond (r : Receiver) (m : Moment) : Bond.Moves p r.bond (moment p r m).bond := by
  cases m with
  | event e => exact step_bond r e.withoutCommands
  | command c => exact handleCommand_bond c
  | opened => exact .refl
  | served => exact .refl

/-- The flash and the RAM over it change in a save only. -/
theorem moment_device (r : Receiver) (m : Moment) :
    (moment p r m).memory.device = r.memory.device ∨
      ∃ save faults, (moment p r m).memory.device = r.memory.device.step (.save save faults) := by
  rcases moment_cases (p := p) r m with ⟨hr, -⟩ | ⟨text, rfl, -⟩ | ⟨mapping, faults, rfl⟩ | ⟨linkKey, faults, rfl⟩
  · exact .inl (congrArg Memory.device hr.memory)
  · exact .inl (congrArg Memory.device (selectPairingCandidate_memory text))
  · rcases r.setConfig_device mapping faults with h | h
    · exact .inl h
    · exact .inr ⟨_, _, h⟩
  · cases hok : (confirmPairingCandidate p r linkKey faults).1 with
    | false =>
      rcases (confirmPairingCandidate_failed hok).2 with h | ⟨h, -⟩
      · exact .inl h
      · exact .inr ⟨_, _, h⟩
    | true =>
      obtain ⟨-, -, h, -⟩ := confirmPairingCandidate_ok hok
      exact .inr ⟨_, _, congrArg Memory.device h⟩

/-! ## The invariant -/

/-- The RAM is what a fault-free load would make of the flash, and the bond is kept. -/
structure Sound (p : Platform) (r : Receiver) : Prop where
  device : Consistent r.memory.device
  bond : Bond.Kept p r.bond

theorem boot_sound (hp : p.Documented) (flash : Flash) : Sound p (boot p flash (some flash)) :=
  ⟨rfl, boot_kept hp flash (some flash)⟩

theorem moment_sound (hp : p.Documented) (r : Receiver) (m : Moment) (h : Sound p r) : Sound p (moment p r m) := by
  refine ⟨?_, Bond.moves_kept hp h.bond (moment_bond r m)⟩
  rcases moment_device (p := p) r m with hd | ⟨save, faults, hd⟩
  · rw [hd]
    exact h.device
  · rw [hd]
    exact step_consistent _ _ h.device trivial

/-- The address that `PersistentConfig` holds. -/
def held (r : Receiver) : Option CStr := r.persistentConfig.controllerAddress

/-- The address of the record a fault-free load would take. -/
def recorded (r : Receiver) : Option CStr := (load (some r.flash)).config.controllerAddress

theorem Sound.recorded (h : Sound p r) : r.recorded = r.held :=
  congrArg PersistentConfig.controllerAddress h.device.symm

theorem held_congr {r' : Receiver} (h : r'.persistentConfig.addressText = r.persistentConfig.addressText) :
    r'.held = r.held := by
  simp only [held, PersistentConfig.controllerAddress, h]

/-- The held address stays, but in a confirmation that succeeds. -/
theorem moment_held (r : Receiver) (m : Moment) : (moment p r m).held = r.held ∨ Confirms p r m := by
  have hsame : ∀ {r' : Receiver}, r'.memory = r.memory → r'.held = r.held := fun h =>
    held_congr (congrArg (·.device.config.addressText) h)
  rcases moment_cases (p := p) r m with ⟨hr, -⟩ | ⟨text, rfl, -⟩ | ⟨mapping, faults, rfl⟩ | ⟨linkKey, faults, rfl⟩
  · exact .inl (hsame hr.memory)
  · exact .inl (hsame (selectPairingCandidate_memory text))
  · exact .inl (held_congr (congrArg Bond.addressText (setConfig_bond mapping faults)))
  · cases hok : (confirmPairingCandidate p r linkKey faults).1 with
    | false =>
      refine .inl (held_congr ?_)
      show (confirmPairingCandidate p r linkKey faults).2.persistentConfig.addressText = _
      rw [(confirmPairingCandidate_failed hok).1]
    | true => exact .inr ⟨linkKey, faults, rfl, hok⟩

/-! ## The chosen address -/

/-- The receiver after the moments of a run from a boot that read the flash faithfully. -/
abbrev reached (p : Platform) (flash : Flash) (ms : List Moment) : Receiver :=
  Run.exec (moment p) (boot p flash (some flash)) ms

/-- `text` is what the last selection of the run named. -/
def Chosen (p : Platform) (flash : Flash) (ms : List Moment) (text : CStr) : Prop :=
  Run.Since (moment p) (fun r m => ∃ other, Selects p other r m) (Selects p text) (boot p flash (some flash)) ms

/-- A selected candidate is the last one that was selected. -/
theorem chosen_of_selected (hp : p.Documented) (flash : Flash) (ms : List Moment)
    (h : (reached p flash ms).pairingCandidateSelected = true) :
    Chosen p flash ms (reached p flash ms).activeControllerAddress := by
  let named (text : CStr) (r : Receiver) : Prop :=
    r.pairingCandidateSelected = true ∧ r.activeControllerAddress = text
  refine Run.since_of_latch (Sound p) (fun _ _ => True) (named _) (fun r m hs _ => moment_sound hp r m hs) ?_
    (Run.always_of_forall (fun _ _ => trivial) _ _) (boot_sound hp flash) (fun hn => Bool.false_ne_true hn.1) ⟨h, rfl⟩
  rintro r m hs - ⟨hsel, htext⟩
  rcases moment_cases (p := p) r m with ⟨hr, hno⟩ | ⟨text, rfl, hok⟩ | ⟨mapping, faults, rfl⟩ | ⟨linkKey, faults, rfl⟩
  · obtain ⟨hbefore, hactive⟩ := hr.choice hsel
    exact .inr ⟨⟨hbefore, hactive.symm.trans htext⟩, fun ⟨text, ht⟩ => hno text ht⟩
  · left
    rcases selectPairingCandidate_choice (p := p) (r := r) text with ⟨hf, -⟩ | ⟨-, hcand, hne, hactive⟩
    · rw [hf] at hok
      cases hok
    · -- the offered text is that of an address, so the buffer holds the whole of it
      obtain ⟨a, ha⟩ := hs.bond.candidateText.resolve_left fun h => hne (hcand.trans h)
      have hbuffer : addressBuffer text = text := by
        rw [hcand, show r.candidateControllerAddress = formatAddress a from ha, Bond.addressBuffer_formatAddress]
      have heq : text = _ := (hbuffer.symm.trans hactive.symm).trans htext
      rw [← heq]
      exact ⟨rfl, hok⟩
  · right
    have hb : (moment p r (.command (.setConfig mapping faults))).bond = r.bond := setConfig_bond mapping faults
    refine ⟨⟨?_, ?_⟩, ?_⟩
    · exact (congrArg Bond.pairingCandidateSelected hb).symm.trans hsel
    · exact (congrArg Bond.activeControllerAddress hb).symm.trans htext
    · rintro ⟨text, hs, -⟩
      cases hs
  · cases hok : (confirmPairingCandidate p r linkKey faults).1 with
    | true =>
      obtain ⟨-, -, -, hdone⟩ := confirmPairingCandidate_ok hok
      exact (Bool.false_ne_true (hdone.symm.trans hsel)).elim
    | false =>
      right
      have hkeep := (confirmPairingCandidate_failed hok).1
      refine ⟨⟨?_, ?_⟩, ?_⟩
      · exact (congrArg pairingCandidateSelected hkeep).symm.trans hsel
      · exact (congrArg activeControllerAddress hkeep).symm.trans htext
      · rintro ⟨text, hs, -⟩
        cases hs

/-! ## The law -/

/-- A tag after a save: as it was, deleted, or with a record of the address that is then held. -/
theorem step_records (d : Device) (save : Save) (faults : StoreFaults) (h : TextOk d.config.addressText) (tag : Tag) :
    (d.step (.save save faults)).flash tag = d.flash tag ∨ (d.step (.save save faults)).flash tag = none ∨
      ∃ record, readRecord ((d.step (.save save faults)).flash tag) = some record ∧
        (adopt tag record).config.addressText = (d.step (.save save faults)).config.addressText := by
  simp only [Device.step]
  cases hok : (save.run d.config d.flash faults).ok with
  | false =>
    rcases (Save.run_failed hok).2 with hf | hf <;> rw [hf]
    · exact .inl rfl
    · unfold Slots.put
      split
      · exact .inr (.inl rfl)
      · exact .inl rfl
  | true =>
    obtain ⟨during, hd, -, hc, contents, hread, hf⟩ := Save.run_ok hok
    rw [hf, hc]
    unfold Slots.put
    split
    · refine .inr (.inr ⟨_, hread, ?_⟩)
      rw [adopt_encode ((Save.config_fields hd).2.2 h)]
      rfl
    · exact .inl rfl

/-- What the moment `m` of a run does to the committed address. -/
structure BondLaw (p : Platform) (flash : Flash) (ms : List Moment) (m : Moment) (before after : Receiver) : Prop where
  changes : after.held ≠ before.held ∨ after.recorded ≠ before.recorded → Confirms p before m
  records : ∀ tag, after.flash tag = before.flash tag ∨ after.flash tag = none ∨
    ∃ record, readRecord (after.flash tag) = some record ∧
      (adopt tag record).config.controllerAddress = after.held
  confirmed : ∀ linkKey faults, m = .command (.confirmPairing linkKey faults) →
    (confirmPairingCandidate p before linkKey faults).1 = true →
    (before.pairingCandidateSelected = true ∧ before.pairingChordConfirmed = true ∧ linkKey = true) ∧
      ∃ text, Chosen p flash ms text ∧ text = formatAddress before.controllerAddress ∧
        after.held = some text ∧ after.recorded = some text ∧
        after.productionMapping = before.productionMapping ∧
        (load (some after.flash)).mapping = before.productionMapping
  configured : ∀ mapping faults, m = .command (.setConfig mapping faults) →
    after.held = before.held ∧ after.recorded = before.recorded
  refused : ∀ linkKey faults, m = .command (.confirmPairing linkKey faults) →
    (confirmPairingCandidate p before linkKey faults).1 = false →
    after = { before with flash := after.flash } ∧ load (some after.flash) = load (some before.flash)

theorem confirmed_law (hp : p.Documented) {flash : Flash} {ms : List Moment} {before : Receiver}
    (hbefore : before = reached p flash ms) (hs : Sound p before)
    {linkKey : Bool} {faults : StoreFaults} (hok : (confirmPairingCandidate p before linkKey faults).1 = true) :
    ∃ text, Chosen p flash ms text ∧ text = formatAddress before.controllerAddress ∧
      (confirmPairingCandidate p before linkKey faults).2.held = some text ∧
      (confirmPairingCandidate p before linkKey faults).2.productionMapping = before.productionMapping ∧
      (load (some (confirmPairingCandidate p before linkKey faults).2.flash)).mapping = before.productionMapping := by
  obtain ⟨⟨hsel, -, -⟩, hrun, hmem, -⟩ := confirmPairingCandidate_ok hok
  obtain ⟨during, hd, -, hc, -⟩ := Save.run_ok hrun
  obtain ⟨a, ha, rfl⟩ := Option.map_eq_some_iff.1 hd
  have htext : before.activeControllerAddress = formatAddress before.controllerAddress := (hs.bond.chosen hsel).2
  have hsame : a = before.controllerAddress := by
    rw [htext] at ha
    have hscan := (Option.filter_eq_some_iff.1 ha).1
    rw [Option.bind_some, scanAddress_formatAddress] at hscan
    exact (Option.some.inj hscan).symm
  have hconfig : (confirmPairingCandidate p before linkKey faults).2.persistentConfig = _ :=
    (congrArg (·.device.config) hmem).trans hc
  have hflash : (confirmPairingCandidate p before linkKey faults).2.flash = _ := congrArg (·.device.flash) hmem
  refine ⟨_, ?_, htext, ?_, congrArg Memory.productionMapping hmem, ?_⟩
  · subst hbefore
    exact chosen_of_selected hp flash ms hsel
  · rw [held, hconfig, htext, ← hsame]
    exact if_neg (formatAddress_ne_nil a)
  · rw [hflash]
    exact hs.device.saved _ hrun

/-- A confirmation that fails leaves what a fault-free load returns. -/
theorem confirm_refused (hd : Consistent r.memory.device) {linkKey : Bool} {faults : StoreFaults}
    (hok : (confirmPairingCandidate p r linkKey faults).1 = false) :
    load (some (confirmPairingCandidate p r linkKey faults).2.flash) = load (some r.flash) := by
  show load (some (confirmPairingCandidate p r linkKey faults).2.memory.device.flash) = _
  rcases (confirmPairingCandidate_failed hok).2 with hdevice | ⟨hdevice, hfail⟩
  · rw [hdevice]
    rfl
  · rw [hdevice]
    exact (hd.refused _ hfail).2

/-- Only a confirmed pairing changes the bond: in every run from a boot that read the flash
faithfully, cut into its moments, every moment keeps the law. -/
theorem only_confirmed_bonds (hp : p.Documented) (flash : Flash) :
    (∀ es, Run.exec (step p) (boot p flash (some flash)) es =
        reached p flash (moments p (boot p flash (some flash)) es)) ∧
      ∀ ms m, BondLaw p flash ms m (reached p flash ms) (reached p flash (ms ++ [m])) := by
  refine ⟨fun es => exec_moments es _, fun ms m => ?_⟩
  have hs : Sound p (reached p flash ms) := Run.invariant_all (moment_sound hp) ms (boot_sound hp flash)
  unfold reached at hs ⊢
  rw [Run.exec_concat]
  generalize hbefore : Run.exec (moment p) (boot p flash (some flash)) ms = before at hs ⊢
  have hs' : Sound p (moment p before m) := moment_sound hp before m hs
  refine ⟨?_, ?_, ?_, ?_, ?_⟩
  · rw [hs.recorded, hs'.recorded, or_self]
    exact fun hne => (moment_held before m).resolve_left hne
  · intro tag
    rcases moment_device (p := p) before m with hd | ⟨save, faults, hd⟩
    · exact .inl (congrFun (congrArg Device.flash hd) tag)
    · have hr := step_records before.memory.device save faults hs.bond.text tag
      rw [← hd] at hr
      rcases hr with hr | hr | ⟨record, hread, htext⟩
      · exact .inl hr
      · exact .inr (.inl hr)
      · refine .inr (.inr ⟨record, hread, ?_⟩)
        simp only [held, PersistentConfig.controllerAddress, htext]
        rfl
  · rintro linkKey faults rfl hok
    obtain ⟨hchecks, -⟩ := confirmPairingCandidate_ok hok
    obtain ⟨text, hchosen, htext, hheld, hlive, hload⟩ := confirmed_law hp hbefore.symm hs hok
    exact ⟨hchecks, text, hchosen, htext, hheld, hs'.recorded.trans hheld, hlive, hload⟩
  · rintro mapping faults rfl
    have hno : ¬ Confirms p before (.command (.setConfig mapping faults)) := by
      rintro ⟨_, _, h, -⟩
      cases h
    have hheld := (moment_held before _).resolve_right hno
    exact ⟨hheld, by rw [hs.recorded, hs'.recorded, hheld]⟩
  · rintro linkKey faults rfl hok
    exact ⟨(confirmPairingCandidate_failed hok).1, confirm_refused hs.device hok⟩

/-- A session that selects a candidate, which connects and holds the chord. -/
def confirmCandidate : List Moment :=
  [.opened, .command (.startScan 1000), .served, .event (.bluetooth (.scanTimer 1750 kSuccess)),
    .event (.bluetooth (.inquiryResult { address := candidate, deviceClass := kLite2DeviceClass })),
    .opened, .command (.pairCandidate (formatAddress candidate)), .served,
    .event (.bluetooth (.reconnectTimer kSuccess 7)), .event (.bluetooth (.connectionOpened kSuccess 7)),
    .event (.bluetooth (.descriptorAvailable kSuccess (some (List.replicate 83 0)) none)),
    .event (.bluetooth (.report (lite2Report 0x0B 127) 3000)), .event (.bluetooth (.report (lite2Report 0x0B 127) 6000)), .opened]

/-- The candidate is confirmed: it becomes the bond. -/
theorem only_confirmed_bonds_candidate :
    Confirms buildPlatform (reached buildPlatform (fun _ => none) confirmCandidate) (.command (.confirmPairing true {})) ∧
      BondLaw buildPlatform (fun _ => none) confirmCandidate (.command (.confirmPairing true {}))
        (reached buildPlatform (fun _ => none) confirmCandidate)
        (reached buildPlatform (fun _ => none) (confirmCandidate ++ [.command (.confirmPairing true {})])) :=
  ⟨⟨true, {}, rfl, by decide +kernel⟩,
    (only_confirmed_bonds (Platform.plain_documented _) (fun _ => none)).2 confirmCandidate (.command (.confirmPairing true {}))⟩

end RedMonkeyMpg.Gamepad.Receiver
