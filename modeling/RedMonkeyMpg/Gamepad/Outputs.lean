/-
What the moments of a run hand out. The states told to the setup session are of a fixed list, and a scan
result is shown under one of two names and the printed address of what was found. A link key is dropped of
a candidate that is given up, of a chosen candidate that is not the stored controller, and of the controller
that a confirmation replaces. The SSP confirmation is of the selected candidate. `moment_emits` is the
inversion that the results about outputs go through.
-/
import RedMonkeyMpg.Gamepad.Confirm

namespace RedMonkeyMpg.Gamepad

/-- A request to BTstack or USB that concerns no key and no candidate. -/
def Output.isLink : Output → Bool
  | .connect _ | .accept _ | .decline _ | .disconnect _ | .inquiryStart _ | .inquiryStop | .pinCodeNegative _
  | .sspNegative _ | .send _ => true
  | _ => false

/-- A notice of the setup session. -/
def Output.isNotice : Output → Bool
  | .pairingState _ | .scanResult _ _ _ => true
  | _ => false

namespace Receiver

/-! ## What may be handed out -/

/-- The states that `emit_pairing_state` is called with. -/
def kPairingStates : List String :=
  ["scan_complete", "scan_failed", "awaiting_physical_confirmation", "physical_confirmation_complete", "saved",
    "unsupported_hid_descriptor"]

def kCandidateNames : List String := ["8BitDo Lite 2", "8BitDo Lite 2 (D mode)"]

/-- Why a moment drops the link key of an address. -/
inductive Drops (p : Platform) (r : Receiver) (m : Moment) (a : BdAddr) : Prop where
  -- the selected candidate is given up, in anything but a confirmation
  | rejected (hm : ∀ linkKey faults, m ≠ .command (.confirmPairing linkKey faults))
      (h : r.pairingCandidateSelected = true) (hne : r.rejectedAddress ≠ [])
      (hstored : r.persistentConfig.controllerAddress ≠ some r.rejectedAddress)
      (ha : p.sscanfBdAddr r.rejectedAddress = some a)
  -- a candidate that is not the stored controller is chosen
  | chosen (text : CStr) (h : Selects p text r m) (hstored : r.persistentConfig.controllerAddress ≠ some text)
      (ha : p.sscanfBdAddr text = some a)
  -- the stored controller is replaced
  | replaced (h : Confirms p r m) (hne : addressBuffer (r.persistentConfig.controllerAddress.getD []) ≠ [])
      (hother : addressBuffer (r.persistentConfig.controllerAddress.getD []) ≠ r.activeControllerAddress)
      (ha : p.sscanfBdAddr (addressBuffer (r.persistentConfig.controllerAddress.getD [])) = some a)

/-- What a moment hands out. -/
inductive Emits (p : Platform) (r : Receiver) (m : Moment) : Output → Prop where
  | told (state : String) (h : state ∈ kPairingStates) : Emits p r m (.pairingState (cstr state))
  | found (name : String) (h : name ∈ kCandidateNames) (result : InquiryResult)
      (hm : m = .event (.bluetooth (.inquiryResult result))) :
      Emits p r m (.scanResult (cstr name) (addressBuffer (p.bdAddrToStr result.address)) (result.rssi.getD (-127)))
  | dropped (a : BdAddr) (h : Drops p r m a) : Emits p r m (.dropLinkKey a)
  | confirmed (hm : m = .event (.bluetooth (.userConfirmationRequest r.controllerAddress)))
      (h : r.configActive = true ∧ r.pairingCandidateSelected = true) : Emits p r m (.sspConfirm r.controllerAddress)
  | link (o : Output) (h : o.isLink = true) : Emits p r m o

/-- The second receiver has the outputs of the first, and then some that satisfy `Q`. -/
def Adds (Q : Output → Prop) (r r' : Receiver) : Prop :=
  ∃ added, r'.outputs = r.outputs ++ added ∧ ∀ o ∈ added, Q o

section Adds

variable {p : Platform} {Q : Output → Prop} {r r' r'' : Receiver}

theorem Adds.of_eq (h : r'.outputs = r.outputs) : Adds Q r r' :=
  ⟨[], by rw [h, List.append_nil], fun _ ho => absurd ho List.not_mem_nil⟩

theorem Adds.refl (r : Receiver) : Adds Q r r := .of_eq rfl

theorem Adds.trans (h : Adds Q r r') (h' : Adds Q r' r'') : Adds Q r r'' := by
  obtain ⟨added, hr, hq⟩ := h
  obtain ⟨added', hr', hq'⟩ := h'
  refine ⟨added ++ added', by rw [hr', hr, List.append_assoc], fun o ho => ?_⟩
  exact (List.mem_append.1 ho).elim (hq o) (hq' o)

/-- Receivers with the same outputs can stand for each other. -/
theorem Adds.congr {s s' : Receiver} (h : Adds Q r r') (hs : s.outputs = r.outputs) (hs' : s'.outputs = r'.outputs) :
    Adds Q s s' := by
  obtain ⟨added, hr, hq⟩ := h
  exact ⟨added, by rw [hs', hs, hr], hq⟩

theorem emit_adds {o : Output} (h : Q o) : Adds Q r (r.emit o) :=
  ⟨[o], rfl, fun _ ho => List.mem_singleton.1 ho ▸ h⟩

theorem emitPairingState_adds {state : String} (h : Q (.pairingState (cstr state))) : Adds Q r (r.emitPairingState state) := by
  unfold emitPairingState
  split
  · exact emit_adds h
  · exact .refl r

/-! ## Connections -/

variable (hlink : ∀ o : Output, o.isLink = true → Q o)

include hlink

theorem disconnectCurrent_adds : Adds Q r r.disconnectCurrent := by
  unfold disconnectCurrent
  split
  · exact (emit_adds (hlink (.disconnect r.hidCid) rfl)).congr rfl rfl
  · exact .refl r

theorem connectController_adds (status : UInt8) (cid : UInt16) : Adds Q r (r.connectController status cid) := by
  have hconnect : Adds Q r (r.emit (.connect r.controllerAddress)) := emit_adds (hlink _ rfl)
  unfold connectController
  split
  · exact .refl r
  · dsimp only
    split
    · split
      · exact (hconnect.trans (emit_adds (hlink (.disconnect r.lastHidCid) rfl))).congr rfl rfl
      · exact hconnect.congr rfl rfl
    · exact hconnect.congr rfl rfl

theorem reconnectExpired_adds (status : UInt8) (cid : UInt16) : Adds Q r (r.reconnectExpired status cid) := by
  unfold reconnectExpired
  split
  · exact (connectController_adds hlink (r := { r with reconnectTimer := none }) status cid).congr rfl rfl
  · exact .refl r

theorem incomingConnection_adds (address : BdAddr) (cid : UInt16) (status acceptStatus : UInt8) :
    Adds Q r (r.incomingConnection address cid status acceptStatus) := by
  unfold incomingConnection
  split
  · exact emit_adds (hlink _ rfl)
  · have haccept : Adds Q r ({ r with reconnectTimer := none, hidCid := cid, lastHidCid := 0 }.emit (.accept cid)) :=
      (emit_adds (r := { r with reconnectTimer := none, hidCid := cid, lastHidCid := 0 }) (hlink (.accept cid) rfl)).congr rfl rfl
    dsimp only
    split
    · exact haccept.congr rfl rfl
    · exact haccept

theorem connectionOpened_adds (status : UInt8) (cid : UInt16) : Adds Q r (r.connectionOpened status cid) := by
  unfold connectionOpened
  split
  · exact .of_eq rfl
  · exact (emit_adds (hlink (.disconnect cid) rfl)).congr rfl rfl

omit hlink in
theorem connectionClosed_adds : Adds Q r r.connectionClosed := by
  unfold connectionClosed
  dsimp only
  split
  · exact .of_eq rfl
  · split
    · exact .of_eq rfl
    · exact .of_eq rfl

/-! ## Inquiry -/

omit hlink in
theorem inquiryComplete_adds (htold : Q (.pairingState (cstr "scan_complete"))) : Adds Q r r.inquiryComplete :=
  (emitPairingState_adds (r := { r with pairingScanActive := false }) htold).congr rfl rfl

theorem scanExpired_adds (htold : Q (.pairingState (cstr "scan_failed"))) (nowMs : UInt32) (status : UInt8) :
    Adds Q r (r.scanExpired nowMs status) := by
  unfold scanExpired
  split
  · unfold beginPairingScan
    split
    · exact .of_eq rfl
    · split
      · exact (emitPairingState_adds (r := { r with pairingScanTimer := none, pairingScanRequested := false }) htold).congr rfl rfl
      · have hstart : Adds Q r ({ r with pairingScanTimer := none }.emit (.inquiryStart 47)) :=
          (emit_adds (r := { r with pairingScanTimer := none }) (hlink (.inquiryStart 47) rfl)).congr rfl rfl
        dsimp only
        split
        · exact hstart.congr rfl rfl
        · exact hstart.congr rfl rfl
  · exact .refl r

theorem userConfirmationRequest_adds (address : BdAddr)
    (hconfirm : address = r.controllerAddress → r.configActive = true → r.pairingCandidateSelected = true →
      Q (.sspConfirm r.controllerAddress)) :
    Adds Q r (r.userConfirmationRequest address) := by
  unfold userConfirmationRequest
  split
  · rename_i h
    simp only [Bool.and_eq_true, decide_eq_true_eq] at h
    rw [h.2]
    exact emit_adds (hconfirm h.2 h.1.1 h.1.2)
  · exact emit_adds (hlink _ rfl)

omit hlink in
theorem inquiryResult_adds (result : InquiryResult)
    (hfound : ∀ name ∈ kCandidateNames,
      Q (.scanResult (cstr name) (addressBuffer (p.bdAddrToStr result.address)) (result.rssi.getD (-127)))) :
    Adds Q r (Receiver.inquiryResult p r result) := by
  have hname : ∃ name ∈ kCandidateNames, result.candidateName = cstr name := by
    unfold InquiryResult.candidateName
    split
    · exact ⟨_, List.mem_cons_self, rfl⟩
    · exact ⟨_, List.mem_cons_of_mem _ List.mem_cons_self, rfl⟩
  obtain ⟨name, hmem, hname⟩ := hname
  unfold Receiver.inquiryResult
  split
  · exact .refl r
  · split
    · exact .refl r
    · dsimp only
      split
      · rw [hname]
        exact (emit_adds (hfound name hmem)).congr rfl rfl
      · exact .of_eq rfl

/-! ## Pairing -/

omit hlink in
theorem dropRejectedKey_adds {rejected : CStr}
    (hdrop : ∀ a, rejected ≠ [] → r.persistentConfig.controllerAddress ≠ some rejected →
      p.sscanfBdAddr rejected = some a → Q (.dropLinkKey a)) : Adds Q r (dropRejectedKey p r rejected) := by
  unfold dropRejectedKey
  split
  · rename_i h
    split
    · rename_i a ha
      exact emit_adds (hdrop a h.1 h.2 ha)
    · exact .refl r
  · exact .refl r

theorem cancelPairing_adds
    (hdrop : ∀ a, r.pairingCandidateSelected = true → r.rejectedAddress ≠ [] →
      r.persistentConfig.controllerAddress ≠ some r.rejectedAddress →
      p.sscanfBdAddr r.rejectedAddress = some a → Q (.dropLinkKey a)) : Adds Q r (Receiver.cancelPairing p r) := by
  have hselected : r.rejectedAddress ≠ [] → r.pairingCandidateSelected = true := by
    unfold rejectedAddress
    split
    · exact fun _ => by assumption
    · exact fun h => absurd rfl h
  have hstop : Adds Q r (r.emit .inquiryStop).clearPairing := (emit_adds (hlink .inquiryStop rfl)).congr rfl rfl
  have hdropped : Adds Q r (dropRejectedKey p (r.emit .inquiryStop).clearPairing r.rejectedAddress) :=
    hstop.trans (dropRejectedKey_adds fun a hne hstored ha => hdrop a (hselected hne) hne hstored ha)
  unfold Receiver.cancelPairing
  dsimp only
  have hcut := disconnectCurrent_adds hlink
    (r := restoreAddress p (dropRejectedKey p (r.emit .inquiryStop).clearPairing r.rejectedAddress))
  have hall := hdropped.trans (hcut.congr rfl rfl)
  split
  · exact hall.congr rfl rfl
  · exact hall

theorem startPairingScan_adds
    (hdrop : ∀ a, r.pairingCandidateSelected = true → r.rejectedAddress ≠ [] →
      r.persistentConfig.controllerAddress ≠ some r.rejectedAddress →
      p.sscanfBdAddr r.rejectedAddress = some a → Q (.dropLinkKey a)) (nowMs : UInt32) :
    Adds Q r (startPairingScan p r nowMs) := by
  have hrequest : ∀ s : Receiver, Adds Q s { (s.requestScan nowMs).disconnectCurrent with pairingScanTimer := some 750 } := by
    intro s
    have hstop : Adds Q s (s.requestScan nowMs) := (emit_adds (hlink .inquiryStop rfl)).congr rfl rfl
    exact (hstop.trans (disconnectCurrent_adds hlink)).congr rfl rfl
  unfold startPairingScan
  dsimp only
  split
  · exact (cancelPairing_adds hlink hdrop).trans (hrequest _)
  · exact hrequest r

/-- A selection hands out requests, and may tell one state behind them. -/
theorem selectPairingCandidate_tells (address : CStr)
    (hdrop : ∀ a, (selectPairingCandidate p r address).1 = true → r.persistentConfig.controllerAddress ≠ some address →
      p.sscanfBdAddr address = some a → Q (.dropLinkKey a)) :
    ∃ s, Adds Q r s ∧ ((selectPairingCandidate p r address).2 = s ∨
      (selectPairingCandidate p r address).2 = s.emitPairingState "awaiting_physical_confirmation") := by
  unfold selectPairingCandidate at hdrop ⊢
  split
  · exact ⟨r, .refl r, .inl rfl⟩
  · rename_i hoffered
    simp only [if_neg hoffered] at hdrop
    have hstop : Adds Q r { r.emit .inquiryStop with
        pairingScanRequested := false, pairingScanTimer := none, pairingScanActive := false } :=
      (emit_adds (hlink .inquiryStop rfl)).congr rfl rfl
    dsimp only
    split
    · refine ⟨_, ?_, .inl rfl⟩
      exact hstop
    · rename_i a ha
      simp only [ha] at hdrop
      have hkey : ∀ s : Receiver, s.persistentConfig = r.persistentConfig →
          Adds Q s (if s.persistentConfig.controllerAddress = some address then s else s.emit (.dropLinkKey a)) := by
        intro s hs
        split
        · exact .refl s
        · rename_i hstored
          exact emit_adds (hdrop a trivial (hs ▸ hstored) rfl)
      have hadopted := hstop.trans ((hkey (adoptCandidate { r.emit .inquiryStop with
        pairingScanRequested := false, pairingScanTimer := none, pairingScanActive := false } address a) rfl).congr rfl rfl)
      refine ⟨_, ?_, .inr rfl⟩
      exact hadopted.trans ((disconnectCurrent_adds hlink).congr rfl rfl)

theorem selectPairingCandidate_adds (htold : Q (.pairingState (cstr "awaiting_physical_confirmation"))) (address : CStr)
    (hdrop : ∀ a, (selectPairingCandidate p r address).1 = true → r.persistentConfig.controllerAddress ≠ some address →
      p.sscanfBdAddr address = some a → Q (.dropLinkKey a)) :
    Adds Q r (selectPairingCandidate p r address).2 := by
  obtain ⟨s, hs, h | h⟩ := selectPairingCandidate_tells hlink address hdrop
  · rw [h]
    exact hs
  · rw [h]
    exact hs.trans (emitPairingState_adds htold)

omit hlink in
theorem committed_tells {previous : CStr}
    (hdrop : ∀ a, previous ≠ [] → previous ≠ r.activeControllerAddress →
      p.sscanfBdAddr previous = some a → Q (.dropLinkKey a)) :
    ∃ s, Adds Q r s ∧ committed p r previous = s.emitPairingState "saved" := by
  have hdropped : Adds Q r (dropReplacedKey p r previous) := by
    unfold dropReplacedKey
    split
    · rename_i h
      split
      · rename_i a ha
        exact emit_adds (hdrop a h.1 h.2 ha)
      · exact .refl r
    · exact .refl r
  unfold committed
  refine ⟨_, ?_, rfl⟩
  exact hdropped.congr rfl rfl

omit hlink in
/-- A confirmation may drop a key, and tells one state. -/
theorem confirmPairingCandidate_tells (linkKey : Bool) (faults : StoreFaults)
    (hdrop : ∀ a, (confirmPairingCandidate p r linkKey faults).1 = true →
      addressBuffer (r.persistentConfig.controllerAddress.getD []) ≠ [] →
      addressBuffer (r.persistentConfig.controllerAddress.getD []) ≠ r.activeControllerAddress →
      p.sscanfBdAddr (addressBuffer (r.persistentConfig.controllerAddress.getD [])) = some a → Q (.dropLinkKey a)) :
    ∃ s, Adds Q r s ∧ ((confirmPairingCandidate p r linkKey faults).2 = s ∨
      (confirmPairingCandidate p r linkKey faults).2 = s.emitPairingState "saved") := by
  unfold confirmPairingCandidate at hdrop ⊢
  split
  · exact ⟨r, .refl r, .inl rfl⟩
  · rename_i hchecks
    simp only [if_neg hchecks] at hdrop
    split
    · exact ⟨r, .refl r, .inl rfl⟩
    · rename_i hkey
      simp only [if_neg hkey] at hdrop
      dsimp only
      split
      · rename_i hok
        simp only [if_pos hok] at hdrop
        obtain ⟨s, hs, h⟩ := committed_tells (Q := Q) (r := { r with
          persistentConfig := (r.persistentConfig.storeControllerAddress r.flash faults r.productionMapping
            (some r.activeControllerAddress)).config
          flash := (r.persistentConfig.storeControllerAddress r.flash faults r.productionMapping
            (some r.activeControllerAddress)).flash }) fun a => hdrop a trivial
        exact ⟨s, hs.congr rfl rfl, .inr h⟩
      · refine ⟨_, ?_, .inl rfl⟩
        exact .of_eq rfl

omit hlink in
theorem confirmPairingCandidate_adds (htold : Q (.pairingState (cstr "saved"))) (linkKey : Bool) (faults : StoreFaults)
    (hdrop : ∀ a, (confirmPairingCandidate p r linkKey faults).1 = true →
      addressBuffer (r.persistentConfig.controllerAddress.getD []) ≠ [] →
      addressBuffer (r.persistentConfig.controllerAddress.getD []) ≠ r.activeControllerAddress →
      p.sscanfBdAddr (addressBuffer (r.persistentConfig.controllerAddress.getD [])) = some a → Q (.dropLinkKey a)) :
    Adds Q r (confirmPairingCandidate p r linkKey faults).2 := by
  obtain ⟨s, hs, h | h⟩ := confirmPairingCandidate_tells linkKey faults hdrop
  · rw [h]
    exact hs
  · rw [h]
    exact hs.trans (emitPairingState_adds htold)

theorem descriptorAvailable_adds (htold : Q (.pairingState (cstr "unsupported_hid_descriptor"))) (status : UInt8)
    (descriptor : Option (List UInt8)) (digest : Option Sha256Digest)
    (hdrop : ∀ a, r.pairingCandidateSelected = true → r.rejectedAddress ≠ [] →
      r.persistentConfig.controllerAddress ≠ some r.rejectedAddress →
      p.sscanfBdAddr r.rejectedAddress = some a → Q (.dropLinkKey a)) :
    Adds Q r (Receiver.descriptorAvailable p r status descriptor digest) := by
  unfold Receiver.descriptorAvailable
  split
  · exact .of_eq rfl
  · dsimp only
    split
    · have hstate : Adds Q r (({ r with activeProfile := none, descriptorReady := false } : Receiver).failClosed.emitPairingState
          "unsupported_hid_descriptor") :=
        (emitPairingState_adds (r := ({ r with activeProfile := none, descriptorReady := false } : Receiver).failClosed)
          htold).congr rfl rfl
      obtain ⟨outputs, -, hs⟩ := emitPairingState_eq
        (r := ({ r with activeProfile := none, descriptorReady := false } : Receiver).failClosed) "unsupported_hid_descriptor"
      refine hstate.trans (cancelPairing_adds hlink ?_)
      rw [hs]
      exact hdrop
    · split
      · exact (emit_adds (hlink (.disconnect r.hidCid) rfl)).congr rfl rfl
      · exact .of_eq rfl

/-! ## Reports, stale input and USB -/

omit hlink in
theorem consumeControllerReport_adds (htold : Q (.pairingState (cstr "physical_confirmation_complete")))
    (report : List UInt8) (nowMs : UInt32) : Adds Q r (r.consumeControllerReport report nowMs) := by
  have hchord : ∀ input, Adds Q r (r.confirmationChord input nowMs) := by
    intro input
    have hstart : ∃ started, (if r.pairingChordStartedMs = 0 then { r with pairingChordStartedMs := nowMs } else r) =
        { r with pairingChordStartedMs := started } := by
      split
      · exact ⟨nowMs, rfl⟩
      · exact ⟨r.pairingChordStartedMs, rfl⟩
    obtain ⟨started, hs⟩ := hstart
    unfold confirmationChord
    dsimp only
    rw [hs]
    split
    · exact .refl r
    · split
      · split
        · exact (emitPairingState_adds (r := { r with pairingChordStartedMs := started, pairingChordConfirmed := true })
            htold).congr rfl rfl
        · exact .of_eq rfl
      · exact .of_eq rfl
  unfold consumeControllerReport
  split
  · exact .of_eq rfl
  · unfold consumeInput
    split
    · exact (hchord _).congr rfl rfl
    · split
      · exact .of_eq rfl
      · dsimp only
        split
        · unfold rearm
          dsimp only
          split
          · exact .of_eq rfl
          · exact .of_eq rfl
        · exact .of_eq rfl

theorem serviceUsbKeyboard_adds (a : UsbAnswer) : Adds Q r (r.serviceUsbKeyboard a) := by
  unfold serviceUsbKeyboard
  dsimp only
  split
  · rename_i report _
    exact (emit_adds (hlink (.send report) rfl)).congr rfl rfl
  · exact .of_eq rfl

end Adds

/-! ## Moments -/

variable {p : Platform} {r : Receiver}

theorem Emits.of_told {m : Moment} {state : String} (h : state ∈ kPairingStates := by decide) :
    Emits p r m (.pairingState (cstr state)) := .told state h

/-- The outputs that are there when a moment begins: a request adds to those of its pass. -/
def Moment.carried (r : Receiver) : Moment → List Output
  | .event _ | .opened => []
  | .command _ | .served => r.outputs

theorem bluetooth_emits (r : Receiver) (b : BtEvent) :
    Adds (Emits p r (.event (.bluetooth b))) r.silent (bluetooth p r.silent b) := by
  have hlink : ∀ o : Output, o.isLink = true → Emits p r (.event (.bluetooth b)) o := Emits.link
  cases b with
  | inquiryResult result => exact inquiryResult_adds result fun name hn => .found name hn result rfl
  | inquiryComplete => exact inquiryComplete_adds .of_told
  | state working =>
    simp only [bluetooth]
    split
    · exact .of_eq rfl
    · exact .refl _
  | pinCodeRequest address => exact emit_adds (hlink _ rfl)
  | userConfirmationRequest address =>
    exact userConfirmationRequest_adds hlink address fun heq ha hs => .confirmed (heq ▸ rfl) ⟨ha, hs⟩
  | incomingConnection address cid status acceptStatus =>
    exact incomingConnection_adds hlink address cid status acceptStatus
  | connectionOpened status cid => exact connectionOpened_adds hlink status cid
  | descriptorAvailable status descriptor digest =>
    exact descriptorAvailable_adds hlink .of_told status descriptor digest fun a hs hne hstored ha =>
      .dropped a (.rejected (fun _ _ h => by cases h) hs hne hstored ha)
  | report report nowMs => exact consumeControllerReport_adds .of_told report nowMs
  | connectionClosed => exact connectionClosed_adds
  | reconnectTimer status cid => exact reconnectExpired_adds hlink status cid
  | scanTimer nowMs status => exact scanExpired_adds hlink .of_told nowMs status

/-- A pass without a session cancels, or hands out nothing. -/
theorem setupSession_emits (r : Receiver) (cdcConnected : Bool) (cs : List SetupCommand) :
    Adds (Emits p r (.event (.setupSession cdcConnected cs))) r.silent (setupSession p r.silent cdcConnected []) := by
  have hservice : configService p r.silent cdcConnected [] =
      { r.silent with configActive := r.configConnected cdcConnected } := by
    unfold configService
    split
    · rename_i h
      rw [show r.configConnected cdcConnected = true from h]
      rfl
    · rename_i h
      rw [show r.configConnected cdcConnected = false from (Bool.not_eq_true _).mp h]
  unfold setupSession
  dsimp only
  rw [hservice]
  split
  · exact .of_eq rfl
  · split
    · refine (cancelPairing_adds (r := { r.silent with configActive := r.configConnected cdcConnected })
        Emits.link ?_).congr rfl rfl
      exact fun a hs hne hstored ha => .dropped a (.rejected (fun _ _ h => by cases h) hs hne hstored ha)
    · exact .of_eq rfl

/-- A moment adds to the outputs that are there when it begins, and what it adds is what a moment may hand out. -/
theorem moment_emits (r : Receiver) (m : Moment) :
    ∃ added, (moment p r m).outputs = m.carried r ++ added ∧ ∀ o ∈ added, Emits p r m o := by
  cases m with
  | event e =>
    cases e with
    | bluetooth b => exact bluetooth_emits r b
    | usb cb => exact Adds.refl r.silent
    | setupSession cdcConnected cs => exact setupSession_emits r cdcConnected cs
    | serviceStaleInput nowMs =>
      refine Adds.of_eq (r := r.silent) ?_
      show (r.silent.serviceStaleInput nowMs).outputs = []
      unfold serviceStaleInput
      split <;> rfl
    | serviceUsbKeyboard a => exact serviceUsbKeyboard_adds (r := r.silent) Emits.link a
  | opened => exact Adds.refl r.silent
  | served => exact Adds.refl r
  | command c =>
    cases c with
    | setConfig mapping faults =>
      refine Adds.of_eq (r := r) ?_
      show (r.setConfig mapping faults).outputs = r.outputs
      rcases r.setConfig_eq mapping faults with h | ⟨-, stored, -, h⟩
      · rw [h]
      · rw [h]
    | startScan nowMs =>
      exact startPairingScan_adds Emits.link (fun a hs hne hstored ha => .dropped a (.rejected (fun _ _ h => by cases h) hs hne hstored ha)) nowMs
    | pairCandidate address =>
      exact selectPairingCandidate_adds Emits.link .of_told address fun a hok hstored ha =>
        .dropped a (.chosen address ⟨rfl, hok⟩ hstored ha)
    | confirmPairing linkKey faults =>
      exact confirmPairingCandidate_adds .of_told linkKey faults fun a hok hne hother ha =>
        .dropped a (.replaced ⟨linkKey, faults, rfl, hok⟩ hne hother ha)
    | cancelPairing =>
      exact cancelPairing_adds Emits.link fun a hs hne hstored ha => .dropped a (.rejected (fun _ _ h => by cases h) hs hne hstored ha)
    | other => exact Adds.refl r

end Receiver

end RedMonkeyMpg.Gamepad
