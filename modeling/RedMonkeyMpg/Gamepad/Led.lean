/-
The light of the gamepad receiver, set at the end of every pass of the main loop: a short flash each second
without a controller, a fast blink while a neutral report is needed, and on when armed. A key is wanted under
the third only, so a dark light means that none is. Both blinks are dark in the second half of each quarter of
a second, and a light that is found on for half of one, by passes close enough, shows an armed receiver.
-/
import RedMonkeyMpg.Gamepad.Gate

namespace RedMonkeyMpg.Gamepad.Receiver

/-- `service_led`. -/
def serviceLed (r : Receiver) (nowMs : UInt32) : Bool :=
  if !r.controllerConnected || !r.descriptorReady then nowMs % 1000 < 100
  else if r.rearmRequired then nowMs % 250 < 125
  else true

variable {p : Platform} {r : Receiver}

/-! ## The link -/

/-- The connection and its descriptor, as the light reads them. -/
def link (r : Receiver) : Bool × Bool := (r.controllerConnected, r.descriptorReady)

@[simp] theorem cancelPairing_link : (Receiver.cancelPairing p r).link = r.link := by
  obtain ⟨outputs, -, -, h⟩ := cancelPairing_eq (p := p) r
  rw [h]
  rfl

theorem startPairingScan_link (nowMs : UInt32) : (startPairingScan p r nowMs).link = r.link := by
  obtain ⟨s, outputs, hs, -, -, h⟩ := startPairingScan_eq (p := p) r nowMs
  rw [h]
  show s.link = r.link
  rw [hs]
  split
  · exact cancelPairing_link
  · rfl

theorem selectPairingCandidate_link (address : CStr) : (selectPairingCandidate p r address).2.link = r.link := by
  rcases selectPairingCandidate_eq (p := p) r address with
    ⟨-, h⟩ | ⟨-, -, ⟨-, h⟩ | ⟨parsed, outputs, -, -, -, h⟩⟩ <;> rw [h] <;> rfl

theorem confirmPairingCandidate_link (linkKey : Bool) (faults : StoreFaults) :
    (confirmPairingCandidate p r linkKey faults).2.link = r.link := by
  rcases confirmPairingCandidate_eq (p := p) r linkKey faults with
    h | ⟨stored, -, ⟨-, h⟩ | ⟨-, -, controller, outputs, -, h⟩⟩ <;> rw [h] <;> rfl

theorem setConfig_link (mapping : ProductionMapping) (faults : StoreFaults) : (r.setConfig mapping faults).link = r.link := by
  rcases setConfig_eq r mapping faults with h | ⟨-, stored, -, h⟩ <;> rw [h]
  rfl

theorem handleCommand_link (r : Receiver) (c : SetupCommand) : (handleCommand p r c).link = r.link := by
  cases c with
  | setConfig mapping faults => exact setConfig_link mapping faults
  | startScan nowMs => exact startPairingScan_link nowMs
  | pairCandidate address => exact selectPairingCandidate_link address
  | confirmPairing linkKey faults => exact confirmPairingCandidate_link linkKey faults
  | cancelPairing => exact cancelPairing_link
  | other => rfl

/-- No setup session touches the link. -/
theorem setupSession_link {cdc : Bool} (cs : List SetupCommand) : (setupSession p r cdc cs).link = r.link :=
  setupSession_keeps (I := fun s => s.link = r.link) (fun _ _ _ hs => hs)
    (fun s c hs => (handleCommand_link s c).trans hs) (fun _ hs => hs) (fun _ hs => cancelPairing_link.trans hs) cs rfl

theorem serviceUsbKeyboard_link (a : UsbAnswer) : (r.serviceUsbKeyboard a).link = r.link := by
  unfold serviceUsbKeyboard
  dsimp only
  split <;> rfl

theorem serviceStaleInput_link (nowMs : UInt32) : (r.serviceStaleInput nowMs).link = r.link := by
  unfold serviceStaleInput
  split <;> rfl

theorem consumeControllerReport_link (report : List UInt8) (nowMs : UInt32) :
    (r.consumeControllerReport report nowMs).link = r.link := by
  obtain ⟨rearm, last, mapper, wanted, started, confirmed, outputs, -, h⟩ := r.consumeControllerReport_eq report nowMs
  rw [h]
  rfl

theorem scanExpired_link (nowMs : UInt32) (status : UInt8) : (r.scanExpired nowMs status).link = r.link := by
  obtain ⟨requested, active, timer, outputs, -, -, h⟩ := r.scanExpired_eq nowMs status
  rw [h]
  rfl

theorem reconnectExpired_link (status : UInt8) (cid : UInt16) : (r.reconnectExpired status cid).link = r.link := by
  obtain ⟨known, last, timer, outputs, -, h⟩ := r.reconnectExpired_eq status cid
  rw [h]
  rfl

theorem inquiryResult_link (result : InquiryResult) : (Receiver.inquiryResult p r result).link = r.link := by
  rcases inquiryResult_eq (p := p) r result with h | ⟨outputs, -, h⟩ <;> rw [h]
  rfl

theorem inquiryComplete_link : r.inquiryComplete.link = r.link := by
  obtain ⟨outputs, -, h⟩ := r.inquiryComplete_eq
  rw [h]
  rfl

/-- An armed receiver has a descriptor, and a descriptor a connection. -/
structure LinkReady (r : Receiver) : Prop where
  connected : r.descriptorReady = true → r.controllerConnected = true
  ready : r.rearmRequired = false → r.descriptorReady = true

/-- A descriptor is that of an open connection. -/
def OnConnection (r : Receiver) : Event → Prop
  | .bluetooth (.descriptorAvailable _ _ _) => r.controllerConnected = true
  | _ => True

instance (r : Receiver) : ∀ e : Event, Decidable (OnConnection r e)
  | .bluetooth (.descriptorAvailable ..) => inferInstanceAs (Decidable (r.controllerConnected = true))
  | .bluetooth (.inquiryResult _) | .bluetooth .inquiryComplete | .bluetooth (.state _) | .bluetooth (.pinCodeRequest _)
  | .bluetooth (.userConfirmationRequest _) | .bluetooth (.incomingConnection ..) | .bluetooth (.connectionOpened ..)
  | .bluetooth (.report ..) | .bluetooth .connectionClosed | .bluetooth (.reconnectTimer ..) | .bluetooth (.scanTimer ..)
  | .usb _ | .setupSession .. | .serviceStaleInput _ | .serviceUsbKeyboard _ => .isTrue trivial

theorem LinkReady.of_link {s : Receiver} (hl : s.link = r.link)
    (harm : s.rearmRequired = false → r.rearmRequired = false ∨ r.descriptorReady = true) (h : LinkReady r) :
    LinkReady s := by
  obtain ⟨hconnected, hready⟩ := Prod.mk.inj hl
  constructor
  · intro hs
    rw [hconnected]
    exact h.connected (hready ▸ hs)
  · intro hs
    rw [hready]
    exact (harm hs).elim h.ready id

theorem LinkReady.of_failClosed {s : Receiver} (hready : s.descriptorReady = false) (harm : s.rearmRequired = true) :
    LinkReady s := by
  constructor
  · intro hs
    rw [hready] at hs
    cases hs
  · intro hs
    rw [harm] at hs
    cases hs

/-- Only a report under an accepted descriptor arms. -/
theorem step_arms (r : Receiver) (e : Event) (h : (step p r e).rearmRequired = false) :
    r.rearmRequired = false ∨ r.descriptorReady = true := by
  rcases step_armed (p := p) r e h with ⟨bytes, nowMs, raw, -, hparse, -⟩ | ⟨hopen, -⟩
  · right
    by_contra hnot
    simp [parseReport, hnot] at hparse
  · exact .inl hopen

theorem step_linkReady (r : Receiver) (e : Event) (h : LinkReady r) (hon : OnConnection r e) : LinkReady (step p r e) := by
  have hkept : (step p r e).link = r.link → LinkReady (step p r e) := fun hl => h.of_link hl (step_arms r e)
  cases e with
  | bluetooth b =>
    cases b with
    | inquiryResult result => exact hkept (inquiryResult_link result)
    | inquiryComplete => exact hkept inquiryComplete_link
    | state working =>
      refine hkept ?_
      simp only [step, bluetooth]
      split <;> rfl
    | pinCodeRequest address => exact hkept rfl
    | userConfirmationRequest address =>
      refine hkept ?_
      simp only [step, bluetooth, userConfirmationRequest]
      split <;> rfl
    | incomingConnection address cid status acceptStatus =>
      obtain ⟨s, known, last, timer, outputs, hs, -, heq⟩ := r.silent.incomingConnection_eq address cid status acceptStatus
      have hstep : step p r (.bluetooth (.incomingConnection address cid status acceptStatus)) =
        { s with hidCid := known, lastHidCid := last, reconnectTimer := timer, outputs := outputs } := heq
      rcases hs with rfl | rfl
      · refine hkept ?_
        rw [hstep]
        rfl
      · rw [hstep]
        exact .of_failClosed rfl rfl
    | connectionOpened status cid =>
      obtain ⟨connected, known, last, timer, outputs, -, heq⟩ := r.silent.connectionOpened_eq status cid
      simp only [step, bluetooth, heq]
      exact .of_failClosed rfl rfl
    | descriptorAvailable status descriptor digest =>
      simp only [step, bluetooth]
      rcases descriptorAvailable_eq (p := p) r.silent status descriptor digest with
        ⟨profile, -, heq⟩ | ⟨-, outputs, -, ⟨-, heq⟩ | ⟨-, heq⟩⟩ <;> rw [heq]
      · exact ⟨fun _ => hon, fun _ => rfl⟩
      · refine .of_failClosed ?_ ?_
        · exact congrArg Prod.snd (cancelPairing_link (p := p) (r := { r.silent.failClosed with outputs := outputs }))
        · exact congrArg Outside.rearmRequired
            (cancelPairing_outside (p := p) (r := { r.silent.failClosed with outputs := outputs }))
      · exact .of_failClosed rfl rfl
    | report report nowMs => exact hkept (consumeControllerReport_link report nowMs)
    | connectionClosed =>
      obtain ⟨timer, heq⟩ := r.silent.connectionClosed_eq
      simp only [step, bluetooth, heq]
      exact .of_failClosed rfl rfl
    | reconnectTimer status cid => exact hkept (reconnectExpired_link status cid)
    | scanTimer nowMs status => exact hkept (scanExpired_link nowMs status)
  | usb cb => exact hkept rfl
  | setupSession cdc cs => exact hkept (setupSession_link cs)
  | serviceStaleInput nowMs => exact hkept (serviceStaleInput_link nowMs)
  | serviceUsbKeyboard a => exact hkept (serviceUsbKeyboard_link a)

/-! ## The blinks -/

/-- The receiver is armed, with a controller that it accepted. -/
structure ShowsArmed (r : Receiver) : Prop where
  connected : r.controllerConnected = true
  ready : r.descriptorReady = true
  armed : r.rearmRequired = false

theorem ShowsArmed.serviceLed (h : ShowsArmed r) (nowMs : UInt32) : r.serviceLed nowMs = true := by
  simp [Receiver.serviceLed, h.connected, h.ready, h.armed]

/-- A receiver that is not armed is lit in the first half of a quarter of a second only. -/
theorem serviceLed_cases {nowMs : UInt32} (h : r.serviceLed nowMs = true) : ShowsArmed r ∨ nowMs.toNat % 250 < 125 := by
  unfold serviceLed at h
  split at h
  · -- the flash of 100 ms is inside the first half
    right
    have hflash : nowMs.toNat % 1000 < 100 := by
      have hlt := UInt32.lt_iff_toNat_lt.1 (of_decide_eq_true h)
      rwa [UInt32.toNat_mod] at hlt
    omega
  · rename_i hlink
    simp only [Bool.or_eq_true, Bool.not_eq_true', not_or, Bool.not_eq_false] at hlink
    split at h
    · right
      have hlt := UInt32.lt_iff_toNat_lt.1 (of_decide_eq_true h)
      rwa [UInt32.toNat_mod] at hlt
    · rename_i harm
      exact .inl ⟨hlink.1, hlink.2, (Bool.not_eq_true _).mp harm⟩

/-- Passes that are no more than half a blink apart. -/
def Close (a b : Pass) : Prop := a.nowMs.toNat ≤ b.nowMs.toNat ∧ b.nowMs.toNat ≤ a.nowMs.toNat + 125

/-- Close passes in the first halves alone stay in one. -/
theorem close_quarter {first : Pass} {rest : List Pass} (hclose : (first :: rest).IsChain Close)
    (hhalf : ∀ pass ∈ first :: rest, pass.nowMs.toNat % 250 < 125) :
    ∀ pass ∈ first :: rest, pass.nowMs.toNat / 250 = first.nowMs.toNat / 250 := by
  induction rest generalizing first with
  | nil =>
    intro pass hpass
    rw [List.mem_singleton.1 hpass]
  | cons next rest ih =>
    obtain ⟨⟨hlo, hhi⟩, hrest⟩ := List.isChain_cons_cons.1 hclose
    have hfirst := hhalf first List.mem_cons_self
    have hnext := hhalf next (List.mem_cons_of_mem _ List.mem_cons_self)
    have hsame : next.nowMs.toNat / 250 = first.nowMs.toNat / 250 := by omega
    intro pass hpass
    rcases List.mem_cons.1 hpass with rfl | hpass
    · rfl
    · rw [← hsame]
      exact ih hrest (fun q hq => hhalf q (List.mem_cons_of_mem _ hq)) pass hpass

/-! ## The light -/

/-- The receiver after a pass. -/
def afterPass (p : Platform) (start : Receiver) (passes : List Pass) (pass : Pass) : Receiver :=
  Run.exec (step p) start (loop (passes ++ [pass]))

/-- What the light tells. When it is dark after a pass no key is wanted, if descriptors are those of open
connections. When passes at most 125 ms apart find it on for 125 ms, one of them found an armed receiver, which
had consumed a neutral report since its latest fault. -/
theorem light_tells (p : Platform) (flash : Flash) (reads : Option Flash) :
    (∀ passes pass, Run.Always (step p) OnConnection (boot p flash reads) (loop (passes ++ [pass])) →
      (afterPass p (boot p flash reads) passes pass).serviceLed pass.nowMs = false →
      reportHasKey (afterPass p (boot p flash reads) passes pass).usb.desired = false) ∧
    ∀ before first rest, (first :: rest).IsChain Close →
      (∃ last ∈ first :: rest, first.nowMs.toNat + 125 ≤ last.nowMs.toNat) →
      (∀ pre pass post, first :: rest = pre ++ pass :: post →
        (afterPass p (boot p flash reads) (before ++ pre) pass).serviceLed pass.nowMs = true) →
      ∃ pre pass post, first :: rest = pre ++ pass :: post ∧
        ShowsArmed (afterPass p (boot p flash reads) (before ++ pre) pass) ∧
        Run.Since (step p) Fault Neutral (boot p flash reads) (loop (before ++ pre ++ [pass])) := by
  constructor
  · intro passes pass hopen hdark
    by_contra hkey
    have harmed : Armed (afterPass p (boot p flash reads) passes pass) :=
      Run.invariant_all step_keepsArmed _ fun hk => by cases hk
    have hlinked : LinkReady (afterPass p (boot p flash reads) passes pass) :=
      Run.invariant step_linkReady hopen (.of_failClosed rfl rfl)
    have harm := harmed (by simpa using hkey)
    have hready := hlinked.ready harm
    have hlit := ShowsArmed.serviceLed ⟨hlinked.connected hready, hready, harm⟩ pass.nowMs
    rw [hlit] at hdark
    cases hdark
  · rintro before first rest hclose ⟨last, hlast, hlong⟩ hlit
    -- with no armed pass all would be in the first half of one quarter, which is too short
    have harmed : ∃ pre pass post, first :: rest = pre ++ pass :: post ∧
        ShowsArmed (afterPass p (boot p flash reads) (before ++ pre) pass) := by
      by_contra hnone
      have hhalf : ∀ pass ∈ first :: rest, pass.nowMs.toNat % 250 < 125 := by
        intro pass hpass
        obtain ⟨pre, post, hsplit⟩ := List.append_of_mem hpass
        rcases serviceLed_cases (hlit pre pass post hsplit) with harmed | hphase
        · exact absurd ⟨pre, pass, post, hsplit, harmed⟩ hnone
        · exact hphase
      have hquarter := close_quarter hclose hhalf last hlast
      have hfirst := hhalf first List.mem_cons_self
      have hend := hhalf last hlast
      omega
    obtain ⟨pre, pass, post, hsplit, harmed⟩ := harmed
    refine ⟨pre, pass, post, hsplit, harmed, ?_⟩
    exact Run.since_of_latch (fun _ => True) (fun _ _ => True) (fun s => s.rearmRequired = false)
      (fun _ _ _ _ => trivial) (fun s e _ _ hl => step_armed s e hl) (Run.always_of_forall (fun _ _ => trivial) _ _) trivial
      (fun h => by cases h) harmed.armed

/-- A connection with a supported descriptor, and a neutral report. -/
def neutralPass : Pass where
  poll :=
    [.connectionOpened kSuccess 1, .descriptorAvailable kSuccess (some (List.replicate 83 0)) none,
      .report (lite2Report 0x00 127) 10]
  nowMs := 30

/-- A held report. -/
def heldPass : Pass where
  poll := [.report (lite2Report 0x01 0) 100]
  nowMs := 120

/-- The connection is lost. -/
def lostPass : Pass where
  poll := [.connectionClosed]
  nowMs := 600

/-- After a jog was wanted the connection is lost, and the light is dark; and two passes of an armed receiver, 125 ms
apart, find it on. -/
theorem light_tells_neutral :
    let start := boot (Platform.plain []) (fun _ => none) none
    reportHasKey (afterPass (Platform.plain []) start [neutralPass] heldPass).usb.desired = true ∧
      reportHasKey (afterPass (Platform.plain []) start [neutralPass, heldPass] lostPass).usb.desired = false ∧
      ∃ pre pass post, [neutralPass, { nowMs := 155 }] = pre ++ pass :: post ∧
        ShowsArmed (afterPass (Platform.plain []) start ([] ++ pre) pass) ∧
        Run.Since (step (Platform.plain [])) Fault Neutral start (loop ([] ++ pre ++ [pass])) := by
  have htells := light_tells (Platform.plain []) (fun _ => none) none
  have hopen : Run.Always (step (Platform.plain [])) OnConnection (boot (Platform.plain []) (fun _ => none) none)
      (loop ([neutralPass, heldPass] ++ [lostPass])) := by decide +kernel
  refine ⟨by decide +kernel, htells.1 [neutralPass, heldPass] lostPass hopen (by decide +kernel), ?_⟩
  refine htells.2 [] neutralPass [{ nowMs := 155 }] ?_ ⟨{ nowMs := 155 }, by simp, by decide⟩ ?_
  · exact List.isChain_cons_cons.2 ⟨by unfold Close; decide, List.isChain_singleton _⟩
  · intro pre pass post hsplit
    rcases pre with _ | ⟨x, _ | ⟨y, pre⟩⟩
    · obtain ⟨rfl, -⟩ := List.cons.inj hsplit
      decide +kernel
    · obtain ⟨hx, hnext⟩ := List.cons.inj hsplit
      obtain ⟨rfl, -⟩ := List.cons.inj hnext
      rw [← hx]
      decide +kernel
    · simp at hsplit

end RedMonkeyMpg.Gamepad.Receiver
