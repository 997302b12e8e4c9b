/-
The link keys that the receiver asks BTstack to drop. BTstack may store a key for an address once the receiver
has accepted its pairing; when it does so is its own affair, and the receiver sees it only at a confirmation.
Over every run, one request at a time, an accepted pairing that was not dropped since is of the committed
controller or of the selected candidate, and a controller is committed exactly until its key is dropped.
-/
import RedMonkeyMpg.Gamepad.Outputs
import RedMonkeyMpg.Gamepad.Stranded

namespace RedMonkeyMpg.Gamepad

namespace Receiver

variable {p : Platform} {r : Receiver}

/-! ## What a moment hands out -/

/-- The outputs of a moment, without those that it found. -/
def handed (p : Platform) (r : Receiver) (m : Moment) : List Output :=
  (moment p r m).outputs.drop (m.carried r).length

theorem handed_eq {m : Moment} {added : List Output} (h : (moment p r m).outputs = m.carried r ++ added) :
    handed p r m = added := by
  rw [handed, h, List.drop_left]

theorem handed_emits (r : Receiver) (m : Moment) : ∀ o ∈ handed p r m, Emits p r m o := by
  obtain ⟨added, h, hemits⟩ := moment_emits (p := p) r m
  rw [handed_eq h]
  exact hemits

/-- The second receiver has the outputs of the first, and then some with `o` among them. -/
def Hands (o : Output) (r r' : Receiver) : Prop := ∃ added, r'.outputs = r.outputs ++ added ∧ o ∈ added

theorem emit_hands (o : Output) : Hands o r (r.emit o) := ⟨[o], rfl, List.mem_singleton_self o⟩

theorem Hands.adds {o : Output} {Q : Output → Prop} {r r' r'' : Receiver} (h : Hands o r r') (h' : Adds Q r' r'') :
    Hands o r r'' := by
  obtain ⟨added, hr, ho⟩ := h
  obtain ⟨added', hr', -⟩ := h'
  exact ⟨added ++ added', by rw [hr', hr, List.append_assoc], List.mem_append_left _ ho⟩

theorem Adds.hands {o : Output} {Q : Output → Prop} {r r' r'' : Receiver} (h : Adds Q r r') (h' : Hands o r' r'') :
    Hands o r r'' := by
  obtain ⟨added, hr, -⟩ := h
  obtain ⟨added', hr', ho⟩ := h'
  exact ⟨added ++ added', by rw [hr', hr, List.append_assoc], List.mem_append_right _ ho⟩

theorem Hands.congr {o : Output} {r r' s s' : Receiver} (h : Hands o r r') (hs : s.outputs = r.outputs)
    (hs' : s'.outputs = r'.outputs) : Hands o s s' := by
  obtain ⟨added, hr, ho⟩ := h
  exact ⟨added, by rw [hs', hs, hr], ho⟩

/-- A request hands out what its handler does. -/
theorem Hands.handed {o : Output} {c : SetupCommand} (h : Hands o r (handleCommand p r c)) :
    o ∈ handed p r (.command c) := by
  obtain ⟨added, hr, ho⟩ := h
  rw [handed_eq (m := .command c) hr]
  exact ho

/-! ## Keys that must go -/

/-- The candidate's key goes with the candidate, unless it is the committed controller. -/
theorem cancelPairing_hands (hp : p.Documented) (hk : Bond.Kept p r.bond) (hsel : r.pairingCandidateSelected = true)
    (hother : r.held ≠ some (formatAddress r.controllerAddress)) :
    Hands (.dropLinkKey r.controllerAddress) r (Receiver.cancelPairing p r) := by
  have htext : r.activeControllerAddress = formatAddress r.controllerAddress := (hk.chosen hsel).2
  have hrejected : r.rejectedAddress = formatAddress r.controllerAddress := by
    unfold rejectedAddress
    rw [if_pos hsel, htext, Bond.addressBuffer_formatAddress]
  have hdrop : Hands (.dropLinkKey r.controllerAddress) r
      (dropRejectedKey p (r.emit .inquiryStop).clearPairing r.rejectedAddress) := by
    have hstop : Adds (fun _ => True) r (r.emit .inquiryStop).clearPairing :=
      (emit_adds (Q := fun _ => True) (o := .inquiryStop) trivial).congr rfl rfl
    refine hstop.hands ?_
    rw [hrejected]
    unfold dropRejectedKey
    rw [if_pos ⟨formatAddress_ne_nil _, hother⟩, hp.sscanf]
    exact emit_hands _
  unfold Receiver.cancelPairing
  dsimp only
  have hcut := disconnectCurrent_adds (Q := fun _ => True) (fun _ _ => trivial)
    (r := restoreAddress p (dropRejectedKey p (r.emit .inquiryStop).clearPairing r.rejectedAddress))
  have hall := (hdrop.congr (s := r) rfl rfl).adds (hcut.congr rfl rfl)
  split
  · exact hall.congr rfl rfl
  · exact hall

theorem startPairingScan_hands (hp : p.Documented) (hk : Bond.Kept p r.bond) (hsel : r.pairingCandidateSelected = true)
    (hother : r.held ≠ some (formatAddress r.controllerAddress)) (nowMs : UInt32) :
    Hands (.dropLinkKey r.controllerAddress) r (startPairingScan p r nowMs) := by
  have hcancel := cancelPairing_hands hp hk hsel hother
  have hstop : Adds (fun _ => True) (Receiver.cancelPairing p r) ((Receiver.cancelPairing p r).requestScan nowMs) :=
    (emit_adds (Q := fun _ => True) (o := .inquiryStop) trivial).congr rfl rfl
  have hcut := disconnectCurrent_adds (Q := fun _ => True) (fun _ _ => trivial)
    (r := (Receiver.cancelPairing p r).requestScan nowMs)
  unfold startPairingScan
  dsimp only
  rw [if_pos hsel]
  exact ((hcancel.adds hstop).adds hcut).congr rfl rfl

/-- A confirmation of another controller drops the key of the one that it replaces. -/
theorem confirmPairingCandidate_hands (hp : p.Documented) (hk : Bond.Kept p r.bond) {a : BdAddr}
    (hheld : r.held = some (formatAddress a)) (hother : a ≠ r.controllerAddress) {linkKey : Bool} {faults : StoreFaults}
    (hok : (confirmPairingCandidate p r linkKey faults).1 = true) :
    Hands (.dropLinkKey a) r (confirmPairingCandidate p r linkKey faults).2 := by
  obtain ⟨⟨hsel, -⟩, -⟩ := confirmPairingCandidate_ok hok
  have htext : r.activeControllerAddress = formatAddress r.controllerAddress := (hk.chosen hsel).2
  have hprevious : addressBuffer (r.persistentConfig.controllerAddress.getD []) = formatAddress a := by
    rw [show r.persistentConfig.controllerAddress = some (formatAddress a) from hheld]
    exact Bond.addressBuffer_formatAddress a
  have hne : formatAddress a ≠ r.activeControllerAddress := by
    rw [htext]
    intro heq
    have hscan := congrArg scanAddress heq
    rw [scanAddress_formatAddress, scanAddress_formatAddress] at hscan
    exact hother (Option.some.inj hscan)
  unfold confirmPairingCandidate at hok ⊢
  split
  · rename_i h
    rw [if_pos h] at hok
    cases hok
  · rename_i h
    rw [if_neg h] at hok
    split
    · rename_i hkey
      rw [if_pos hkey] at hok
      cases hok
    · rename_i hkey
      rw [if_neg hkey] at hok
      dsimp only at hok ⊢
      split
      · rw [hprevious]
        unfold committed dropReplacedKey
        dsimp only
        rw [if_pos ⟨formatAddress_ne_nil a, hne⟩, hp.sscanf]
        refine Hands.adds ?_ (emitPairingState_adds (Q := fun _ => True) trivial)
        exact (emit_hands (r := r) (.dropLinkKey a)).congr rfl rfl
      · rename_i hfail
        rw [if_neg hfail] at hok
        cases hok

/-! ## The selected candidate -/

/-- What becomes of a selected candidate: it stays as it is, or is given up, and its key goes with it unless it is
the committed controller. -/
def Dealt (r : Receiver) (before after : Receiver) : Prop :=
  after.bond = r.bond ∨ after.pairingCandidateSelected = false ∧
    (r.held ≠ some (formatAddress r.controllerAddress) → Hands (.dropLinkKey r.controllerAddress) before after)

theorem cancelPairing_dealt (hp : p.Documented) (hk : Bond.Kept p r.bond) (hsel : r.pairingCandidateSelected = true) :
    Dealt r r (Receiver.cancelPairing p r) := by
  have hfree : (Receiver.cancelPairing p r).pairingCandidateSelected = false :=
    congrArg Bond.pairingCandidateSelected (cancelPairing_bond (p := p) (r := r))
  exact .inr ⟨hfree, cancelPairing_hands hp hk hsel⟩

theorem descriptorAvailable_dealt (hp : p.Documented) (hk : Bond.Kept p r.bond) (hsel : r.pairingCandidateSelected = true)
    (status : UInt8) (descriptor : Option (List UInt8)) (digest : Option Sha256Digest) :
    Dealt r r (Receiver.descriptorAvailable p r status descriptor digest) := by
  unfold Receiver.descriptorAvailable
  split
  · exact .inl rfl
  · dsimp only
    let failed : Receiver := ({ r with activeProfile := none, descriptorReady := false } : Receiver).failClosed
    have htold : Adds (fun _ => True) r (failed.emitPairingState "unsupported_hid_descriptor") :=
      (emitPairingState_adds (r := failed) trivial).congr rfl rfl
    obtain ⟨outputs, -, hs⟩ := emitPairingState_eq (r := failed) "unsupported_hid_descriptor"
    have hbond : (failed.emitPairingState "unsupported_hid_descriptor").bond = r.bond := by
      rw [hs]
      rfl
    split
    · rcases cancelPairing_dealt hp (r := failed.emitPairingState "unsupported_hid_descriptor") (hbond ▸ hk)
        ((congrArg Bond.pairingCandidateSelected hbond).trans hsel) with h | ⟨hfree, hdrop⟩
      · exact .inl (h.trans hbond)
      · refine .inr ⟨hfree, fun hother => ?_⟩
        rw [hs] at htold hdrop ⊢
        exact htold.hands (hdrop hother)
    · rename_i hfree
      exact absurd hsel hfree

/-- An event deals with the candidate, once no scan runs beside it. -/
theorem event_dealt (hp : p.Documented) (hk : Bond.Kept p r.bond) (hsel : r.pairingCandidateSelected = true)
    (hidle : ¬ r.tether.Scanning) (e : Event) : Dealt r r.silent (step p r e.withoutCommands) := by
  cases e with
  | bluetooth b =>
    cases b with
    | inquiryResult result =>
      left
      have hoff : r.pairingScanActive = false := (Bool.not_eq_true _).mp fun h => hidle (.inr h)
      show (Receiver.inquiryResult p r.silent result).bond = r.bond
      unfold Receiver.inquiryResult
      rw [if_pos (by show (!r.pairingScanActive) = true; rw [hoff]; rfl)]
      rfl
    | inquiryComplete => exact .inl (inquiryComplete_bond (r := r.silent))
    | state working =>
      left
      show (bluetooth p r.silent (.state working)).bond = r.bond
      simp only [bluetooth]
      split <;> rfl
    | pinCodeRequest address => exact .inl rfl
    | userConfirmationRequest address => exact .inl (userConfirmationRequest_bond (r := r.silent) address)
    | incomingConnection address cid status acceptStatus =>
      exact .inl (incomingConnection_bond (r := r.silent) address cid status acceptStatus)
    | connectionOpened status cid => exact .inl (connectionOpened_bond (r := r.silent) status cid)
    | descriptorAvailable status descriptor digest =>
      exact descriptorAvailable_dealt (r := r.silent) hp hk hsel status descriptor digest
    | report report nowMs => exact .inl (consumeControllerReport_bond (r := r.silent) report nowMs)
    | connectionClosed => exact .inl (connectionClosed_bond (r := r.silent))
    | reconnectTimer status cid => exact .inl (reconnectExpired_bond (r := r.silent) status cid)
    | scanTimer nowMs status => exact .inl (scanExpired_bond (r := r.silent) nowMs status)
  | usb cb => exact .inl rfl
  | setupSession cdcConnected commands =>
    show Dealt r r.silent (setupSession p r.silent cdcConnected [])
    cases hon : r.silent.configConnected cdcConnected with
    | true =>
      left
      unfold setupSession
      rw [configService_connected _ hon]
      rfl
    | false =>
      obtain ⟨s, hs, ⟨-, -, rfl⟩ | ⟨-, rfl⟩⟩ := setupSession_disconnected (p := p) [] hon
      · rw [hs]
        rcases cancelPairing_dealt (r := { r.silent with configActive := false }) hp hk hsel with h | ⟨hfree, hdrop⟩
        · exact .inl h
        · exact .inr ⟨hfree, fun hother => (hdrop hother).congr rfl rfl⟩
      · rw [hs]
        exact .inl rfl
  | serviceStaleInput nowMs => exact .inl (serviceStaleInput_bond (r := r.silent) nowMs)
  | serviceUsbKeyboard a => exact .inl (serviceUsbKeyboard_bond (r := r.silent) a)

/-- The offered text once a candidate is selected: its own. -/
def Offers (r : Receiver) : Prop := r.candidateControllerAddress = r.activeControllerAddress

/-- Selecting the selected candidate again changes nothing of the bond. -/
theorem selectPairingCandidate_same (hp : p.Documented) (hk : Bond.Kept p r.bond)
    (hsel : r.pairingCandidateSelected = true) (hoffers : Offers r) (address : CStr) :
    (selectPairingCandidate p r address).2.bond = r.bond := by
  have htext : r.activeControllerAddress = formatAddress r.controllerAddress := (hk.chosen hsel).2
  rcases selectPairingCandidate_eq (p := p) r address with
    ⟨-, h⟩ | ⟨-, haddress, ⟨-, h⟩ | ⟨parsed, outputs, hparsed, -, -, h⟩⟩
  · rw [h]
  · rw [h]
    rfl
  · have hactive : address = r.activeControllerAddress := haddress.trans hoffers
    rw [hactive, htext, hp.sscanf] at hparsed
    have hbuffer : addressBuffer address = r.activeControllerAddress := by
      rw [hactive, htext, Bond.addressBuffer_formatAddress]
    have hvalid : r.controllerAddressValid = true := (hk.chosen hsel).1
    rw [h, ← Option.some.inj hparsed]
    show Bond.mk r.controllerAddress true true (addressBuffer address) r.candidateControllerAddress _ =
      Bond.mk r.controllerAddress r.controllerAddressValid r.pairingCandidateSelected r.activeControllerAddress
        r.candidateControllerAddress _
    rw [hbuffer, hvalid, hsel]
    rfl

theorem moment_dealt (hp : p.Documented) (hk : Bond.Kept p r.bond) (hsel : r.pairingCandidateSelected = true)
    (hidle : ¬ r.tether.Scanning) (hoffers : Offers r) (m : Moment) :
    (moment p r m).bond = r.bond ∨
      ((moment p r m).pairingCandidateSelected = false ∧
        (r.held ≠ some (formatAddress r.controllerAddress) → .dropLinkKey r.controllerAddress ∈ handed p r m)) ∨
      Confirms p r m := by
  cases m with
  | event e =>
    rcases event_dealt hp hk hsel hidle e with h | ⟨hfree, hdrop⟩
    · exact .inl h
    · refine .inr (.inl ⟨hfree, fun hother => ?_⟩)
      obtain ⟨added, hr, ho⟩ := hdrop hother
      rw [handed_eq (m := .event e) hr]
      exact ho
  | opened => exact .inl rfl
  | served => exact .inl rfl
  | command c =>
    cases c with
    | setConfig mapping faults => exact .inl (setConfig_bond mapping faults)
    | startScan nowMs =>
      obtain ⟨s, outputs, hs, -, -, h⟩ := startPairingScan_eq (p := p) r nowMs
      have hfree : (startPairingScan p r nowMs).pairingCandidateSelected = false := by rw [h]; rfl
      exact .inr (.inl ⟨hfree, fun hother => Hands.handed (c := .startScan nowMs)
        (startPairingScan_hands hp hk hsel hother nowMs)⟩)
    | pairCandidate address => exact .inl (selectPairingCandidate_same hp hk hsel hoffers address)
    | confirmPairing linkKey faults =>
      cases hok : (confirmPairingCandidate p r linkKey faults).1 with
      | true => exact .inr (.inr ⟨linkKey, faults, rfl, hok⟩)
      | false =>
        left
        show (confirmPairingCandidate p r linkKey faults).2.bond = r.bond
        rw [(confirmPairingCandidate_failed hok).1]
        rfl
    | cancelPairing =>
      rcases cancelPairing_dealt hp hk hsel with h | ⟨hfree, hdrop⟩
      · exact .inl h
      · exact .inr (.inl ⟨hfree, fun hother => Hands.handed (c := .cancelPairing) (hdrop hother)⟩)
    | other => exact .inl rfl

/-! ## What holds between moments -/

/-- No scan runs beside a selected candidate, and the offered text is its own. -/
structure Steady (p : Platform) (r : Receiver) : Prop where
  bond : Bond.Kept p r.bond
  idle : r.pairingCandidateSelected = true → ¬ r.tether.Scanning
  offers : r.pairingCandidateSelected = true → Offers r

theorem boot_steady (hp : p.Documented) (flash : Flash) (reads : Option Flash) : Steady p (boot p flash reads) :=
  ⟨boot_kept hp flash reads, fun h => (Bool.false_ne_true h).elim, fun h => (Bool.false_ne_true h).elim⟩

/-- A scan beside a selected candidate was there before. -/
theorem moment_scanning (m : Moment) (hsel : (moment p r m).pairingCandidateSelected = true)
    (hscan : (moment p r m).tether.Scanning) : r.pairingCandidateSelected = true ∧ r.tether.Scanning := by
  cases m with
  | event e =>
    refine ⟨((event_retains r e).choice hsel).1, ?_⟩
    cases e with
    | bluetooth b => exact bluetooth_scanning (p := p) (r := r.silent) b hscan
    | usb cb => exact hscan
    | setupSession cdcConnected commands =>
      change (setupSession p r.silent cdcConnected []).tether.Scanning at hscan
      cases hon : r.silent.configConnected cdcConnected with
      | true =>
        unfold setupSession at hscan
        rw [configService_connected _ hon] at hscan
        exact hscan
      | false =>
        obtain ⟨s, hs, ⟨-, -, rfl⟩ | ⟨-, rfl⟩⟩ := setupSession_disconnected (p := p) [] hon
        · rw [hs] at hscan
          exact absurd hscan cancelPairing_not_scanning
        · rw [hs] at hscan
          exact hscan
    | serviceStaleInput nowMs => exact (serviceStaleInput_tether (r := r.silent) nowMs) ▸ hscan
    | serviceUsbKeyboard a => exact (serviceUsbKeyboard_tether (r := r.silent) a) ▸ hscan
  | opened => exact ⟨hsel, hscan⟩
  | served => exact ⟨hsel, hscan⟩
  | command c =>
    cases c with
    | setConfig mapping faults =>
      have hb := setConfig_bond (r := r) mapping faults
      exact ⟨(congrArg Bond.pairingCandidateSelected hb).symm.trans hsel, setConfig_tether (r := r) mapping faults ▸ hscan⟩
    | startScan nowMs =>
      obtain ⟨s, outputs, hs, -, -, h⟩ := startPairingScan_eq (p := p) r nowMs
      have hfree : (startPairingScan p r nowMs).pairingCandidateSelected = false := by rw [h]; rfl
      exact absurd (hfree.symm.trans hsel) Bool.false_ne_true
    | pairCandidate address =>
      change (selectPairingCandidate p r address).2.pairingCandidateSelected = true at hsel
      change (selectPairingCandidate p r address).2.tether.Scanning at hscan
      rcases selectPairingCandidate_eq (p := p) r address with ⟨-, h⟩ | ⟨-, -, ⟨-, h⟩ | ⟨parsed, outputs, -, -, -, h⟩⟩
      · rw [h] at hsel hscan
        exact ⟨hsel, hscan⟩
      · rw [h] at hscan
        exact absurd hscan (by rintro (h | h) <;> cases h)
      · rw [h] at hscan
        exact absurd hscan (by rintro (h | h) <;> cases h)
    | confirmPairing linkKey faults =>
      refine ⟨?_, confirmPairingCandidate_tether (p := p) (r := r) linkKey faults ▸ hscan⟩
      rcases confirmPairingCandidate_bond (p := p) (r := r) linkKey faults with hb | ⟨a, hbefore, -⟩
      · exact (congrArg Bond.pairingCandidateSelected hb).symm.trans hsel
      · exact hbefore
    | cancelPairing => exact absurd hscan cancelPairing_not_scanning
    | other => exact ⟨hsel, hscan⟩

theorem moment_steady (hp : p.Documented) (r : Receiver) (m : Moment) (h : Steady p r) : Steady p (moment p r m) := by
  refine ⟨Bond.moves_kept hp h.bond (moment_bond r m), fun hsel hscan => ?_, fun hsel => ?_⟩
  · obtain ⟨hbefore, hscanning⟩ := moment_scanning m hsel hscan
    exact h.idle hbefore hscanning
  · have hsame : r.pairingCandidateSelected = true → (moment p r m).bond = r.bond → Offers (moment p r m) := by
      intro hbefore hb
      have hoffers := h.offers hbefore
      exact (congrArg Bond.candidateControllerAddress hb).trans
        (hoffers.trans (congrArg Bond.activeControllerAddress hb).symm)
    cases hbefore : r.pairingCandidateSelected with
    | true =>
      rcases moment_dealt hp h.bond hbefore (h.idle hbefore) (h.offers hbefore) m with
        hb | ⟨hfree, -⟩ | ⟨linkKey, faults, rfl, hok⟩
      · exact hsame hbefore hb
      · exact absurd (hfree.symm.trans hsel) Bool.false_ne_true
      · obtain ⟨-, -, -, hfree⟩ := confirmPairingCandidate_ok hok
        exact absurd (hfree.symm.trans hsel) Bool.false_ne_true
    | false =>
      rcases moment_cases (p := p) r m with ⟨hr, -⟩ | ⟨text, rfl, hok⟩ | ⟨mapping, faults, rfl⟩ | ⟨linkKey, faults, rfl⟩
      · exact absurd (hbefore.symm.trans (hr.choice hsel).1) Bool.false_ne_true
      · show Offers (selectPairingCandidate p r text).2
        have hkept : r.candidateControllerAddress = text := by
          rcases selectPairingCandidate_choice (p := p) (r := r) text with ⟨hf, -⟩ | ⟨-, hcand, -⟩
          · exact absurd (hf.symm.trans hok) Bool.false_ne_true
          · exact hcand.symm
        rcases selectPairingCandidate_eq (p := p) r text with
          ⟨-, heq⟩ | ⟨hne, -, ⟨-, heq⟩ | ⟨parsed, outputs, -, -, -, heq⟩⟩
        · rw [heq] at hok
          cases hok
        · rw [heq] at hok
          cases hok
        · obtain ⟨a, ha⟩ := h.bond.candidateText.resolve_left hne
          rw [heq]
          show r.candidateControllerAddress = addressBuffer text
          rw [← hkept, show r.candidateControllerAddress = formatAddress a from ha, Bond.addressBuffer_formatAddress]
      · have hb := setConfig_bond (r := r) mapping faults
        have hstill : r.bond.pairingCandidateSelected = true := (congrArg Bond.pairingCandidateSelected hb).symm.trans hsel
        exact absurd (hbefore.symm.trans hstill) Bool.false_ne_true
      · exfalso
        rcases confirmPairingCandidate_bond (p := p) (r := r) linkKey faults with hb | ⟨a, hthen, -⟩
        · have := (congrArg Bond.pairingCandidateSelected hb).symm.trans hsel
          exact Bool.false_ne_true (hbefore.symm.trans this)
        · exact Bool.false_ne_true (hbefore.symm.trans hthen)

/-! ## Committed controllers and candidates -/

/-- The committed controller. -/
def Committed (r : Receiver) (a : BdAddr) : Prop := r.held = some (formatAddress a)

/-- The selected candidate. -/
def Candidate (r : Receiver) (a : BdAddr) : Prop := r.pairingCandidateSelected = true ∧ r.controllerAddress = a

instance (r : Receiver) (a : BdAddr) : Decidable (r.Committed a) := inferInstanceAs (Decidable (_ = _))

instance (r : Receiver) (a : BdAddr) : Decidable (r.Candidate a) := inferInstanceAs (Decidable (_ ∧ _))

theorem formatAddress_inj {a b : BdAddr} (h : formatAddress a = formatAddress b) : a = b := by
  have hscan := congrArg scanAddress h
  rw [scanAddress_formatAddress, scanAddress_formatAddress] at hscan
  exact Option.some.inj hscan

/-- A confirmation commits the selected candidate. -/
theorem confirms_committed (hk : Bond.Kept p r.bond) {m : Moment} (hc : Confirms p r m) :
    (moment p r m).Committed r.controllerAddress ∧ r.pairingCandidateSelected = true := by
  obtain ⟨linkKey, faults, rfl, hok⟩ := hc
  obtain ⟨⟨hsel, -⟩, -, -, hfree⟩ := confirmPairingCandidate_ok hok
  refine ⟨?_, hsel⟩
  rcases confirmPairingCandidate_bond (p := p) (r := r) linkKey faults with hb | ⟨a, -, ha, hb⟩
  · exact absurd (hfree.symm.trans ((congrArg Bond.pairingCandidateSelected hb).trans hsel)) Bool.false_ne_true
  · rw [show r.bond.activeControllerAddress = formatAddress r.controllerAddress from (hk.chosen hsel).2] at ha
    have heq : r.controllerAddress = a := by
      have hscan := (Option.filter_eq_some_iff.1 ha).1
      rw [Option.bind_some, scanAddress_formatAddress] at hscan
      exact Option.some.inj hscan
    have htext : (confirmPairingCandidate p r linkKey faults).2.persistentConfig.addressText = formatAddress a :=
      congrArg Bond.addressText hb
    show (if (confirmPairingCandidate p r linkKey faults).2.persistentConfig.addressText = [] then none else _) = _
    rw [htext, if_neg (formatAddress_ne_nil a), heq]
    exact congrArg some htext

/-- A key that is dropped is not of the controller that is committed after it. -/
theorem dropped_not_committed (hp : p.Documented) (h : Steady p r) {m : Moment} {a : BdAddr}
    (hdrop : .dropLinkKey a ∈ handed p r m) : ¬ (moment p r m).Committed a := by
  intro hheld
  have hbefore : r.Committed a ∨ Confirms p r m ∧ r.controllerAddress = a := by
    rcases moment_held r m with hsame | hc
    · exact .inl (hsame.symm.trans hheld)
    · exact .inr ⟨hc, formatAddress_inj (Option.some.inj ((confirms_committed h.bond hc).1.symm.trans hheld))⟩
  cases handed_emits r m _ hdrop with
  | link o ho => cases ho
  | dropped _ hd =>
    cases hd with
    | rejected hm hsel hne hstored ha =>
      have htext : r.rejectedAddress = formatAddress r.controllerAddress := by
        unfold rejectedAddress
        rw [if_pos hsel, show r.activeControllerAddress = _ from (h.bond.chosen hsel).2,
          Bond.addressBuffer_formatAddress]
        rfl
      rw [htext] at hstored ha
      rw [hp.sscanf] at ha
      rcases hbefore with hsame | ⟨⟨linkKey, faults, hconfirm, -⟩, -⟩
      · exact hstored (Option.some.inj ha ▸ hsame)
      · exact hm linkKey faults hconfirm
    | chosen text hs hstored ha =>
      rcases hbefore with hsame | ⟨⟨linkKey, faults, hconfirm, -⟩, -⟩
      · obtain ⟨hm, hok⟩ := hs
        rcases selectPairingCandidate_choice (p := p) (r := r) text with ⟨hf, -⟩ | ⟨-, hcand, hne, -⟩
        · exact Bool.false_ne_true (hf.symm.trans hok)
        · obtain ⟨b, hb⟩ := h.bond.candidateText.resolve_left fun heq => hne (hcand.trans heq)
          have htext : text = formatAddress b := hcand.trans hb
          rw [htext] at hstored ha
          rw [hp.sscanf] at ha
          exact hstored (Option.some.inj ha ▸ hsame)
      · rw [hconfirm] at hs
        cases hs.1
    | replaced hc hne hother ha =>
      obtain ⟨hnow, hsel⟩ := confirms_committed h.bond hc
      have haddr : r.controllerAddress = a := formatAddress_inj (Option.some.inj (hnow.symm.trans hheld))
      have hactive : r.activeControllerAddress = formatAddress a := by
        rw [← haddr]
        exact (h.bond.chosen hsel).2
      rcases h.bond.text with htext | ⟨b, -, htext⟩
      · have hnone : r.persistentConfig.controllerAddress = none := if_pos htext
        rw [hnone] at hne
        exact hne rfl
      · have hsome : r.persistentConfig.controllerAddress = some (formatAddress b) := by
          have htext' : r.persistentConfig.addressText = formatAddress b := htext
          unfold PersistentConfig.controllerAddress
          rw [htext', if_neg (formatAddress_ne_nil b)]
        rw [hsome, Option.getD_some, Bond.addressBuffer_formatAddress] at hother ha
        rw [hp.sscanf] at ha
        exact hother (Option.some.inj ha ▸ hactive.symm)

/-- A controller is committed by its confirmation, and for as long as its key is not dropped. -/
theorem moment_committed_iff (hp : p.Documented) (h : Steady p r) (m : Moment) (a : BdAddr) :
    (moment p r m).Committed a ↔
      (Confirms p r m ∧ r.controllerAddress = a) ∨ r.Committed a ∧ .dropLinkKey a ∉ handed p r m := by
  constructor
  · intro hheld
    have hkept : .dropLinkKey a ∉ handed p r m := fun hdrop => dropped_not_committed hp h hdrop hheld
    rcases moment_held (p := p) r m with hsame | hc
    · exact .inr ⟨hsame.symm.trans hheld, hkept⟩
    · exact .inl ⟨hc, formatAddress_inj (Option.some.inj ((confirms_committed h.bond hc).1.symm.trans hheld))⟩
  · rintro (⟨hc, rfl⟩ | ⟨hheld, hkept⟩)
    · exact (confirms_committed h.bond hc).1
    · rcases moment_held (p := p) r m with hsame | hc
      · exact hsame.trans hheld
      · by_cases heq : a = r.controllerAddress
        · exact heq ▸ (confirms_committed h.bond hc).1
        · -- a confirmation of another controller drops the key of this one
          obtain ⟨linkKey, faults, rfl, hok⟩ := hc
          have hdrop := confirmPairingCandidate_hands hp h.bond hheld heq hok
          exact absurd (Hands.handed (c := .confirmPairing linkKey faults) hdrop) hkept

/-- A pairing is accepted of the selected candidate only, which stays selected. -/
theorem sspConfirm_candidate {m : Moment} {a : BdAddr} (h : .sspConfirm a ∈ handed p r m) : (moment p r m).Candidate a := by
  cases handed_emits r m _ h with
  | link o ho => cases ho
  | confirmed hm hactive =>
    have hb : (moment p r m).bond = r.bond := by
      rw [hm]
      exact userConfirmationRequest_bond (r := r.silent) r.controllerAddress
    exact ⟨(congrArg Bond.pairingCandidateSelected hb).trans hactive.2, congrArg Bond.controllerAddress hb⟩

/-! ## The requests of a run -/

/-- What a run asks of BTstack, of USB and of the setup session, in order. -/
def requests (p : Platform) (r : Receiver) (ms : List Moment) : List Output := Run.collect (moment p) (handed p) r ms

/-- The pairing of the address was accepted, and its link key is not asked to be dropped since. -/
def Accepted (outputs : List Output) (a : BdAddr) : Prop :=
  ∃ pre post, outputs = pre ++ .sspConfirm a :: post ∧ .dropLinkKey a ∉ post

theorem accepted_append {outputs added : List Output} {a : BdAddr} (h : Accepted (outputs ++ added) a) :
    .sspConfirm a ∈ added ∨ Accepted outputs a ∧ .dropLinkKey a ∉ added := by
  obtain ⟨pre, post, hsplit, hkept⟩ := h
  rcases List.append_eq_append_iff.1 hsplit with ⟨mid, -, hadded⟩ | ⟨mid, houtputs, hpost⟩
  · exact .inl (hadded ▸ List.mem_append_right _ List.mem_cons_self)
  · cases mid with
    | nil =>
      have hadded : .sspConfirm a :: post = added := hpost
      exact .inl (hadded ▸ List.mem_cons_self)
    | cons o mid =>
      obtain ⟨rfl, rfl⟩ := List.cons.inj hpost
      refine .inr ⟨⟨pre, mid, houtputs, ?_⟩, ?_⟩
      · exact fun hdrop => hkept (List.mem_append_left _ hdrop)
      · exact fun hdrop => hkept (List.mem_append_right _ hdrop)

/-- An accepted pairing is of the committed controller or of the selected candidate, or its key is dropped. -/
theorem moment_settled (hp : p.Documented) (h : Steady p r) (m : Moment) {a : BdAddr} (ha : r.Committed a ∨ r.Candidate a)
    (hkept : .dropLinkKey a ∉ handed p r m) : (moment p r m).Committed a ∨ (moment p r m).Candidate a := by
  rcases ha with hheld | ⟨hsel, rfl⟩
  · exact .inl ((moment_committed_iff hp h m a).2 (.inr ⟨hheld, hkept⟩))
  · rcases moment_dealt hp h.bond hsel (h.idle hsel) (h.offers hsel) m with hb | ⟨-, hdrop⟩ | hc
    · exact .inr ⟨(congrArg Bond.pairingCandidateSelected hb).trans hsel, congrArg Bond.controllerAddress hb⟩
    · by_cases hheld : r.Committed r.controllerAddress
      · exact .inl ((moment_committed_iff hp h m _).2 (.inr ⟨hheld, hkept⟩))
      · exact absurd (hdrop hheld) hkept
    · exact .inl (confirms_committed h.bond hc).1

theorem accepted_settled (hp : p.Documented) (h : Steady p r) (ms : List Moment) {a : BdAddr}
    (ha : Accepted (requests p r ms) a) :
    (Run.exec (moment p) r ms).Committed a ∨ (Run.exec (moment p) r ms).Candidate a := by
  induction ms using List.reverseRecOn with
  | nil =>
    obtain ⟨pre, post, hnil, -⟩ := ha
    cases pre <;> cases hnil
  | append_singleton ms m ih =>
    have hsteady : Steady p (Run.exec (moment p) r ms) := Run.invariant_all (moment_steady hp) ms h
    unfold requests at ha
    rw [Run.collect_append, Run.collect_cons, Run.collect_nil, List.append_nil] at ha
    rw [Run.exec_concat]
    rcases accepted_append ha with hnow | ⟨hbefore, hkept⟩
    · exact .inr (sspConfirm_candidate hnow)
    · exact moment_settled hp hsteady m (ih hbefore) hkept

/-- The link keys are dropped as the bond has it. Over every run from a boot, an address whose pairing was accepted
and whose key was not asked to be dropped since is the committed controller or the selected candidate; and a
controller is committed exactly when it was confirmed, or committed at boot, and its key was not asked to be
dropped since. -/
theorem link_keys_follow_bond (hp : p.Documented) (flash : Flash) (reads : Option Flash) (ms : List Moment) :
    (∀ a, Accepted (requests p (boot p flash reads) ms) a →
      (Run.exec (moment p) (boot p flash reads) ms).Committed a ∨ (Run.exec (moment p) (boot p flash reads) ms).Candidate a) ∧
    ∀ a, (Run.exec (moment p) (boot p flash reads) ms).Committed a ↔
      Run.Since (moment p) (fun r m => .dropLinkKey a ∈ handed p r m)
        (fun r m => Confirms p r m ∧ r.controllerAddress = a) (boot p flash reads) ms ∨
      (boot p flash reads).Committed a ∧
        Run.Always (moment p) (fun r m => .dropLinkKey a ∉ handed p r m) (boot p flash reads) ms := by
  have hboot : Steady p (boot p flash reads) := boot_steady hp flash reads
  refine ⟨fun a ha => accepted_settled hp hboot ms ha, fun a => ?_⟩
  exact Run.latch_iff_since_or (Steady p) (fun _ _ => True) (fun r => r.Committed a)
    (fun r m hr _ => moment_steady hp r m hr) (fun r m hr _ => moment_committed_iff hp hr m a)
    (Run.always_of_forall (fun _ _ => trivial) _ ms) hboot

/-- A session that pairs a candidate and confirms it, and selects another one and gives it up. -/
def pairsTwice : List Moment :=
  [.opened, .command (.startScan 1000), .served, .event (.bluetooth (.scanTimer 1750 kSuccess)),
    .event (.bluetooth (.inquiryResult { address := candidate, deviceClass := kLite2DeviceClass })),
    .opened, .command (.pairCandidate (formatAddress candidate)), .served,
    .event (.bluetooth (.reconnectTimer kSuccess 7)), .event (.bluetooth (.userConfirmationRequest candidate)),
    .event (.bluetooth (.connectionOpened kSuccess 7)),
    .event (.bluetooth (.descriptorAvailable kSuccess (some (List.replicate 83 0)) none)),
    .event (.bluetooth (.report (lite2Report 0x0B 127) 3000)), .event (.bluetooth (.report (lite2Report 0x0B 127) 6000)),
    .opened, .command (.confirmPairing true {}), .command (.startScan 7000), .served,
    .event (.bluetooth (.scanTimer 7750 kSuccess)),
    .event (.bluetooth (.inquiryResult { address := { b5 := 1 }, deviceClass := kLite2DeviceClass })),
    .opened, .command (.pairCandidate (formatAddress { b5 := 1 })), .served,
    .event (.bluetooth (.userConfirmationRequest { b5 := 1 })), .event (.setupSession false [])]

/-- The first is committed, from its confirmation on without a drop of its key. The second was accepted too, and its
key was dropped when it was given up. -/
theorem link_keys_follow_bond_twice :
    Run.Since (moment buildPlatform) (fun r m => .dropLinkKey candidate ∈ handed buildPlatform r m)
        (fun r m => Confirms buildPlatform r m ∧ r.controllerAddress = candidate)
        (boot buildPlatform (fun _ => none) none) pairsTwice ∧
      .sspConfirm { b5 := 1 } ∈ requests buildPlatform (boot buildPlatform (fun _ => none) none) pairsTwice ∧
      ¬ Accepted (requests buildPlatform (boot buildPlatform (fun _ => none) none) pairsTwice) { b5 := 1 } := by
  have hlaw := link_keys_follow_bond (p := buildPlatform) (Platform.plain_documented _) (fun _ => none) none pairsTwice
  have hend : (Run.exec (moment buildPlatform) (boot buildPlatform (fun _ => none) none) pairsTwice).Committed candidate ∧
      ¬ (Run.exec (moment buildPlatform) (boot buildPlatform (fun _ => none) none) pairsTwice).Committed { b5 := 1 } ∧
      ¬ (Run.exec (moment buildPlatform) (boot buildPlatform (fun _ => none) none) pairsTwice).Candidate { b5 := 1 } ∧
      .sspConfirm { b5 := 1 } ∈ requests buildPlatform (boot buildPlatform (fun _ => none) none) pairsTwice := by
    decide +kernel
  obtain ⟨hfirst, hsecond, hfree, haccepted⟩ := hend
  refine ⟨?_, haccepted, fun h => ?_⟩
  · exact ((hlaw.2 candidate).1 hfirst).resolve_right fun hbefore => by cases hbefore.1
  · exact (hlaw.1 _ h).elim hsecond hfree

end Receiver

end RedMonkeyMpg.Gamepad
