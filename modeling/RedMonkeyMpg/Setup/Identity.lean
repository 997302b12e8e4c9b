/-
The address that `GET_INFO` names. `set_identity` is given a pointer: to the stored text at boot and
by a confirmation, but to the active text when a descriptor is accepted. The active text is the
candidate's while one is selected, and the compiled default, or empty, after a rollback with nothing
stored; so the answer names the stored address exactly as long as no descriptor was accepted since
the pointer was last to the stored text, or the two texts are the same.
-/
import RedMonkeyMpg.Setup.Transaction

namespace RedMonkeyMpg.Gamepad

variable {p : Platform}

/-! ## The active text -/

namespace Bond

variable {b b' : Bond}

/-- With no candidate selected, the active text is the one a rollback restores. -/
def Rested (p : Platform) (b : Bond) : Prop :=
  b.pairingCandidateSelected = false → b.activeControllerAddress = b.fallback p

theorem move_rested (hk : Kept p b) (h : Rested p b) (hm : Move p b b') : Rested p b' := by
  cases hm with
  | found a => exact h
  | restored => exact fun _ => rfl
  | dropped hno => exact h
  | selected parsed hne hparsed => exact fun hc => (Bool.false_ne_true hc.symm).elim
  | committed a hc hparsed =>
    intro _
    have htext := (hk.chosen hc).2
    rw [htext] at hparsed
    have ha := (Option.filter_eq_some_iff.1 hparsed).1
    rw [Option.bind_some, scanAddress_formatAddress] at ha
    obtain rfl := Option.some.inj ha
    show b.activeControllerAddress = _
    unfold fallback
    rw [if_neg (formatAddress_ne_nil _), htext]
    rfl

theorem moves_rested (hp : p.Documented) (hk : Kept p b) (h : Rested p b) (hm : Moves p b b') : Rested p b' := by
  have hboth : Kept p b' ∧ Rested p b' := by
    induction hm with
    | refl => exact ⟨hk, h⟩
    | tail _ hm ih => exact ⟨move_kept hp ih.1 hm, move_rested ih.1 ih.2 hm⟩
  exact hboth.2

/-- A stored text is the one a rollback restores. -/
theorem fallback_stored (hk : Kept p b) (hne : b.addressText ≠ []) : b.fallback p = b.addressText := by
  obtain ⟨a, -, ha⟩ := hk.text.resolve_left hne
  unfold fallback
  rw [if_neg hne, ha]
  rfl

end Bond

namespace Receiver

variable {r : Receiver}

/-! ## What leaves the identity alone -/

theorem cancelPairing_identity : (Receiver.cancelPairing p r).identity = r.identity := by
  obtain ⟨outputs, -, -, h⟩ := cancelPairing_eq (p := p) r
  rw [h]
  rfl

theorem startPairingScan_identity (nowMs : UInt32) : (startPairingScan p r nowMs).identity = r.identity := by
  obtain ⟨s, outputs, hs, -, -, h⟩ := startPairingScan_eq (p := p) r nowMs
  have hsame : s.identity = r.identity := by
    rw [hs]
    split
    · exact cancelPairing_identity
    · rfl
  rw [h]
  exact hsame

theorem selectPairingCandidate_identity (address : CStr) :
    (selectPairingCandidate p r address).2.identity = r.identity := by
  rcases selectPairingCandidate_eq (p := p) r address with ⟨-, h⟩ | ⟨-, -, ⟨-, h⟩ | ⟨parsed, outputs, -, -, -, h⟩⟩
  · rw [h]
  · rw [h]
  · rw [h]
    rfl

theorem setConfig_identity (mapping : ProductionMapping) (faults : StoreFaults) :
    (r.setConfig mapping faults).identity = r.identity := by
  rcases r.setConfig_eq mapping faults with h | ⟨-, stored, -, h⟩
  · rw [h]
  · rw [h]

/-- A confirmation points the identity at the stored text. -/
theorem confirmPairingCandidate_identity (linkKey : Bool) (faults : StoreFaults) :
    ((confirmPairingCandidate p r linkKey faults).1 = false ∧
        (confirmPairingCandidate p r linkKey faults).2.identity = r.identity) ∨
      ((confirmPairingCandidate p r linkKey faults).1 = true ∧
        (confirmPairingCandidate p r linkKey faults).2.identity.address =
          if (confirmPairingCandidate p r linkKey faults).2.held = none then .null else .storedControllerAddress) := by
  rcases confirmPairingCandidate_eq (p := p) r linkKey faults with
    h | ⟨stored, -, ⟨-, h⟩ | ⟨-, -, controller, outputs, -, h⟩⟩
  · rw [h]
    exact .inl ⟨rfl, rfl⟩
  · rw [h]
    exact .inl ⟨rfl, rfl⟩
  · rw [h]
    exact .inr ⟨rfl, rfl⟩

/-! ## What points the identity elsewhere -/

/-- A descriptor is accepted. -/
def Moment.describes (p : Platform) (r : Receiver) : Moment → Bool
  | .event (.bluetooth (.descriptorAvailable status descriptor digest)) =>
    (supportedProfile p r status descriptor digest).isSome
  | _ => false

theorem descriptorAvailable_identity (status : UInt8) (descriptor : Option (List UInt8)) (digest : Option Sha256Digest) :
    ((supportedProfile p r status descriptor digest).isSome = true ∧
        (Receiver.descriptorAvailable p r status descriptor digest).identity.address = .activeControllerAddress) ∨
      ((supportedProfile p r status descriptor digest).isSome = false ∧
        (Receiver.descriptorAvailable p r status descriptor digest).identity = r.identity) := by
  rcases descriptorAvailable_eq (p := p) r status descriptor digest with
    ⟨profile, hprofile, h⟩ | ⟨hnone, outputs, -, ⟨-, h⟩ | ⟨-, h⟩⟩
  · rw [h, hprofile]
    exact .inl ⟨rfl, rfl⟩
  · rw [h, hnone, cancelPairing_identity]
    exact .inr ⟨rfl, rfl⟩
  · rw [h, hnone]
    exact .inr ⟨rfl, rfl⟩

/-- No other Bluetooth event sets the identity. -/
theorem bluetooth_identity (b : BtEvent) (h : (Moment.event (.bluetooth b)).describes p r = false) :
    (bluetooth p r b).identity = r.identity := by
  cases b with
  | inquiryResult result =>
    rcases inquiryResult_eq (p := p) r result with heq | ⟨outputs, -, heq⟩
    · simp only [bluetooth, heq]
    · simp only [bluetooth, heq]
  | inquiryComplete =>
    obtain ⟨outputs, -, heq⟩ := r.inquiryComplete_eq
    simp only [bluetooth, heq]
  | state working =>
    simp only [bluetooth]
    split <;> rfl
  | pinCodeRequest address => rfl
  | userConfirmationRequest address =>
    simp only [bluetooth, userConfirmationRequest]
    split <;> rfl
  | incomingConnection address cid status acceptStatus =>
    obtain ⟨s, known, last, timer, outputs, hs, -, heq⟩ := r.incomingConnection_eq address cid status acceptStatus
    simp only [bluetooth, heq]
    rcases hs with rfl | rfl
    · rfl
    · rfl
  | connectionOpened status cid =>
    obtain ⟨connected, known, last, timer, outputs, -, heq⟩ := r.connectionOpened_eq status cid
    simp only [bluetooth, heq]
    rfl
  | descriptorAvailable status descriptor digest =>
    rcases descriptorAvailable_identity (p := p) (r := r) status descriptor digest with ⟨hsome, -⟩ | ⟨-, hsame⟩
    · exact Bool.noConfusion (h.symm.trans hsome)
    · exact hsame
  | report report nowMs =>
    obtain ⟨rearm, last, mapper, wanted, started, confirmed, outputs, -, heq⟩ := r.consumeControllerReport_eq report nowMs
    simp only [bluetooth, heq]
  | connectionClosed =>
    obtain ⟨timer, heq⟩ := r.connectionClosed_eq
    simp only [bluetooth, heq]
    rfl
  | reconnectTimer status cid =>
    obtain ⟨known, last, timer, outputs, -, heq⟩ := r.reconnectExpired_eq status cid
    simp only [bluetooth, heq]
  | scanTimer nowMs status =>
    obtain ⟨requested, active, timer, outputs, -, -, heq⟩ := r.scanExpired_eq nowMs status
    simp only [bluetooth, heq]

theorem event_identity (r : Receiver) (e : Event) (h : (Moment.event e).describes p r = false) :
    (step p r e.withoutCommands).identity = r.identity := by
  cases e with
  | bluetooth b => exact bluetooth_identity (r := r.silent) b h
  | usb cb => rfl
  | setupSession cdc cs =>
    simp only [Event.withoutCommands, step, setupSession, configService, List.foldl_nil]
    split
    · rfl
    · rw [if_neg Bool.false_ne_true]
      split
      · exact cancelPairing_identity (r := { r.silent with configActive := false })
      · rfl
  | serviceStaleInput nowMs =>
    simp only [Event.withoutCommands, step, serviceStaleInput]
    split <;> rfl
  | serviceUsbKeyboard a =>
    simp only [Event.withoutCommands, step, serviceUsbKeyboard]
    split <;> rfl

/-- All that a moment can do to the identity. -/
inductive Identified (p : Platform) (r : Receiver) (m : Moment) (r' : Receiver) : Prop where
  | kept (hno : m.describes p r = false) (hfree : ¬ Confirms p r m) (same : r'.identity = r.identity)
  | described (h : m.describes p r = true) (active : r'.identity.address = .activeControllerAddress)
  | confirmed (hno : m.describes p r = false) (h : Confirms p r m)
      (stored : r'.identity.address = if r'.held = none then .null else .storedControllerAddress)

theorem moment_identified (r : Receiver) (m : Moment) : Identified p r m (moment p r m) := by
  have hfree : (∀ linkKey faults, m ≠ .command (.confirmPairing linkKey faults)) → ¬ Confirms p r m := by
    rintro hne ⟨linkKey, faults, rfl, -⟩
    exact hne linkKey faults rfl
  cases m with
  | event e =>
    cases hd : (Moment.event e).describes p r with
    | false => exact .kept hd (hfree fun _ _ hm => Moment.noConfusion hm) (event_identity r e hd)
    | true =>
      refine .described hd ?_
      unfold Moment.describes at hd
      split at hd
      · rename_i status descriptor digest hm
        cases hm
        rcases descriptorAvailable_identity (p := p) (r := r.silent) status descriptor digest with ⟨-, hactive⟩ | ⟨hnone, -⟩
        · exact hactive
        · exact Bool.noConfusion (hnone.symm.trans hd)
      · cases hd
  | opened => exact .kept rfl (hfree fun _ _ hm => Moment.noConfusion hm) rfl
  | served => exact .kept rfl (hfree fun _ _ hm => Moment.noConfusion hm) rfl
  | command c =>
    cases c with
    | confirmPairing linkKey faults =>
      rcases confirmPairingCandidate_identity (p := p) (r := r) linkKey faults with ⟨hfail, hsame⟩ | ⟨hok, hstored⟩
      · refine .kept rfl ?_ hsame
        rintro ⟨_, _, hm, hok⟩
        cases hm
        exact Bool.noConfusion (hfail.symm.trans hok)
      · exact .confirmed rfl ⟨linkKey, faults, rfl, hok⟩ hstored
    | setConfig mapping faults => exact .kept rfl (hfree nofun) (setConfig_identity mapping faults)
    | startScan nowMs => exact .kept rfl (hfree nofun) (startPairingScan_identity nowMs)
    | pairCandidate address => exact .kept rfl (hfree nofun) (selectPairingCandidate_identity address)
    | cancelPairing => exact .kept rfl (hfree nofun) cancelPairing_identity
    | other => exact .kept rfl (hfree nofun) rfl

/-- The receiver after the moments of a run from the boot. -/
abbrev after (p : Platform) (flash : Flash) (reads : Option Flash) (ms : List Moment) : Receiver :=
  Run.exec (moment p) (boot p flash reads) ms

/-- The pointer is to the active text exactly since a descriptor was accepted. -/
theorem pointer_active_iff (flash : Flash) (reads : Option Flash) (ms : List Moment) :
    (after p flash reads ms).identity.address = .activeControllerAddress ↔
      Run.Since (moment p) (Confirms p) (fun r m => m.describes p r = true) (boot p flash reads) ms := by
  refine Run.latch_iff_since (fun r : Receiver => r.identity.address = .activeControllerAddress) (fun r m => ?_) ms ?_
  · cases moment_identified (p := p) r m with
    | kept hno hfree same => simp [same, hno, hfree]
    | described h active => simp [active, h]
    | confirmed hno h stored =>
      simp only [stored, hno, h, not_true_eq_false, and_false, or_false, Bool.false_eq_true, iff_false]
      split
      · exact nofun
      · exact nofun
  · unfold boot
    dsimp only
    split
    · exact nofun
    · exact nofun

/-! ## The answer -/

/-- A pointer that is not to the active text is to the stored one, and null only when there is none. -/
structure Pointed (p : Platform) (r : Receiver) : Prop where
  kept : Bond.Kept p r.bond
  rested : Bond.Rested p r.bond
  stored : r.identity.address ≠ .activeControllerAddress →
    r.identity.address = if r.held = none then .null else .storedControllerAddress

theorem boot_pointed (hp : p.Documented) (flash : Flash) (reads : Option Flash) : Pointed p (boot p flash reads) := by
  refine ⟨boot_kept hp flash reads, fun _ => rfl, fun _ => ?_⟩
  have hheld : (boot p flash reads).held = (load reads).config.controllerAddress := rfl
  rw [hheld]
  unfold boot
  dsimp only
  cases (load reads).config.controllerAddress with
  | none => rfl
  | some text => rfl

theorem moment_pointed (hp : p.Documented) (r : Receiver) (m : Moment) (h : Pointed p r) : Pointed p (moment p r m) := by
  have hm := moment_bond (p := p) r m
  refine ⟨Bond.moves_kept hp h.kept hm, Bond.moves_rested hp h.kept h.rested hm, fun hno => ?_⟩
  cases moment_identified (p := p) r m with
  | kept _ hfree same =>
    rw [same] at hno ⊢
    rw [(moment_held r m).resolve_right hfree]
    exact h.stored hno
  | described _ active => exact absurd active hno
  | confirmed _ _ stored => exact stored

theorem held_eq_some {text : CStr} :
    r.held = some text ↔ r.persistentConfig.addressText ≠ [] ∧ r.persistentConfig.addressText = text := by
  unfold held PersistentConfig.controllerAddress
  split
  · rename_i h
    simp [h]
  · rename_i h
    simp [h]

end Receiver

end RedMonkeyMpg.Gamepad

namespace RedMonkeyMpg.Setup

open Gamepad Gamepad.Receiver

variable {p : Platform} {r : Receiver}

/-- The address read through a pointer to the stored text is the held one; through a pointer to the active
text, exactly when one is held and no candidate is selected but the controller that is stored. -/
theorem address_eq_held_iff (serial firmware : CStr) (answers : Answers) (h : Pointed p r) :
    (gamepadHost p serial firmware answers).address r = r.held ↔
      (r.identity.address = .activeControllerAddress →
        r.held ≠ none ∧ (r.pairingCandidateSelected = true → r.held = some r.activeControllerAddress)) := by
  dsimp only [gamepadHost]
  by_cases hactive : r.identity.address = .activeControllerAddress
  · rw [hactive]
    constructor
    · intro heq _
      exact ⟨by rw [← heq]; exact Option.some_ne_none _, fun _ => heq.symm⟩
    · intro hcond
      obtain ⟨hheld, hsel⟩ := hcond rfl
      cases hc : r.pairingCandidateSelected with
      | true => exact (hsel hc).symm
      | false =>
        obtain ⟨text, htext⟩ := Option.ne_none_iff_exists'.1 hheld
        obtain ⟨hne, rfl⟩ := held_eq_some.1 htext
        have hrest : r.activeControllerAddress = r.bond.fallback p := h.rested hc
        rw [htext, hrest, Bond.fallback_stored h.kept hne]
        rfl
  · refine iff_of_true ?_ fun ha => absurd ha hactive
    rw [h.stored hactive]
    cases hheld : r.held with
    | none => rfl
    | some text =>
      obtain ⟨-, rfl⟩ := held_eq_some.1 hheld
      rfl

/-- The answer to `GET_INFO` reads the receiver's fields. -/
theorem handleLine_info {σ : Type} (host : Host σ) (s : σ) {line : CStr}
    (hprotocol : readUnsigned line (cstr "\"protocol\":") = some 1)
    (hcommand : readString line (cstr "\"command\":\"") 32 = some (cstr "GET_INFO")) :
    (handleLine host s line).reply =
      .info (host.serial s) (host.firmware s) (host.controller s) (host.address s) (host.sequence s) := by
  unfold handleLine
  rw [if_neg (not_not.2 hprotocol), hcommand]
  dsimp only
  rw [if_pos rfl]

/-- In every run from the boot, at any point of any transaction, `GET_INFO` names the address that is held, and
null when there is none, exactly when no descriptor was accepted since the boot or the last confirmation, or an
address is held and no candidate is selected but the controller that is stored. -/
theorem info_names_held_iff (hp : p.Documented) (serial firmware : CStr) (answers : Answers) (flash : Flash)
    (reads : Option Flash) (ms : List Moment) {line : CStr}
    (hprotocol : readUnsigned line (cstr "\"protocol\":") = some 1)
    (hcommand : readString line (cstr "\"command\":\"") 32 = some (cstr "GET_INFO")) :
    (handleLine (gamepadHost p serial firmware answers) (after p flash reads ms) line).reply =
        .info serial firmware (after p flash reads ms).identity.controller
          (after p flash reads ms).held
          (after p flash reads ms).persistentConfig.sequence ↔
      (Run.Since (moment p) (Confirms p) (fun r m => m.describes p r = true) (boot p flash reads) ms →
        (after p flash reads ms).held ≠ none ∧
          ((after p flash reads ms).pairingCandidateSelected = true →
            (after p flash reads ms).held =
              some (after p flash reads ms).activeControllerAddress)) := by
  have hpointed : Pointed p (after p flash reads ms) :=
    Run.invariant_all (moment_pointed hp) ms (boot_pointed hp flash reads)
  rw [handleLine_info _ _ hprotocol hcommand, ← pointer_active_iff flash reads ms]
  generalize after p flash reads ms = r at hpointed ⊢
  rw [← address_eq_held_iff serial firmware answers hpointed]
  exact ⟨fun h => (Reply.info.inj h).2.2.2.1, fun h => by rw [h]; rfl⟩

/-- The line of a `GET_INFO` request. -/
def infoLine : CStr := cstr "\x7b\"protocol\":1,\"command\":\"GET_INFO\"\x7d"

/-- A candidate is confirmed, and its descriptor accepted again. -/
def confirmedAgain : List Moment :=
  confirmCandidate ++ [.command (.confirmPairing true {}), .served,
    .event (.bluetooth (.descriptorAvailable kSuccess (some (List.replicate 83 0)) none)), .opened]

/-- The confirmed controller is named through the pointer to the active text. -/
theorem info_names_held_confirmed :
    (handleLine (gamepadHost (Platform.plain []) [] [] {}) (after (Platform.plain []) (fun _ => none) none confirmedAgain)
        infoLine).reply =
      .info [] [] (after (Platform.plain []) (fun _ => none) none confirmedAgain).identity.controller
        (after (Platform.plain []) (fun _ => none) none confirmedAgain).held
        (after (Platform.plain []) (fun _ => none) none confirmedAgain).persistentConfig.sequence :=
  (info_names_held_iff (Platform.plain_documented _) [] [] {} (fun _ => none) none confirmedAgain
    (by decide +kernel) (by decide +kernel)).2 fun _ => by decide +kernel

/-- A candidate whose descriptor was accepted is named before it is confirmed, with nothing stored. -/
theorem info_names_candidate :
    ¬ ∀ (serial firmware : CStr) (answers : Answers) (flash : Flash) (reads : Option Flash) (ms : List Moment) (line : CStr),
      readUnsigned line (cstr "\"protocol\":") = some 1 →
      readString line (cstr "\"command\":\"") 32 = some (cstr "GET_INFO") →
      (handleLine (gamepadHost (Platform.plain []) serial firmware answers) (after (Platform.plain []) flash reads ms) line).reply =
        .info serial firmware (after (Platform.plain []) flash reads ms).identity.controller
          (after (Platform.plain []) flash reads ms).held (after (Platform.plain []) flash reads ms).persistentConfig.sequence := by
  intro h
  have hanswer := h [] [] {} (fun _ => none) none confirmCandidate infoLine (by decide +kernel) (by decide +kernel)
  revert hanswer
  decide +kernel

end RedMonkeyMpg.Setup
