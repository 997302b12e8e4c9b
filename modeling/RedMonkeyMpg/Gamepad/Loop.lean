/-
The main loop of the gamepad receiver: the boot, the setup session, every event as one step, and
the pass of `main` that handles them in its order (Bluetooth, USB task, setup session, stale check,
keyboard).
-/
import RedMonkeyMpg.Lib.Run
import RedMonkeyMpg.Gamepad.Pairing

namespace RedMonkeyMpg.Gamepad.Receiver

variable (p : Platform)

/-! ## Boot -/

/-- `main` before the loop, on a flash of which the load reads `reads`. -/
def boot (flash : Flash) (reads : Option Flash) : Receiver :=
  let loaded := load reads
  let text := addressBuffer (loaded.config.controllerAddress.getD p.controllerAddress)
  -- the compiled default is parsed into the buffer first, and the boot address over it
  { controllerAddress := (p.sscanfBdAddr text).getD ((p.sscanfBdAddr p.controllerAddress).getD {})
    controllerAddressValid := (p.sscanfBdAddr text).isSome
    productionMapping := loaded.mapping
    persistentConfig := loaded.config
    flash := flash
    identity :=
      match loaded.config.controllerAddress with
      | some _ => { controller := some (cstr "8BitDo Lite 2 · D mode"), address := .storedControllerAddress }
      | none => {}
    activeControllerAddress := text }

/-! ## The setup session -/

/-- A request line of the setup session, by what it asks of the receiver; `other` reads, or is
refused before it reaches any of these. -/
inductive SetupCommand where
  | setConfig (mapping : ProductionMapping) (faults : StoreFaults)
  | startScan (nowMs : UInt32)
  | pairCandidate (address : CStr)
  | confirmPairing (linkKey : Bool) (faults : StoreFaults)
  | cancelPairing
  | other

/-- `SET_CONFIG`, once its mapping was read. -/
def setConfig (r : Receiver) (mapping : ProductionMapping) (faults : StoreFaults) : Receiver :=
  if validateProductionMapping mapping ≠ .valid then r
  else
    let stored := r.persistentConfig.store r.flash faults mapping
    let r := { r with persistentConfig := stored.config, flash := stored.flash }
    if stored.ok then { r with productionMapping := mapping } else r

/-- `ConfigService::handle_line`. -/
def handleCommand (r : Receiver) : SetupCommand → Receiver
  | .setConfig mapping faults => r.setConfig mapping faults
  | .startScan nowMs => startPairingScan p r nowMs
  | .pairCandidate address => (selectPairingCandidate p r address).2
  | .confirmPairing linkKey faults => (confirmPairingCandidate p r linkKey faults).2
  | .cancelPairing => Receiver.cancelPairing p r
  | .other => r

/-- `red_monkey_mpg_usb_config_connected`. -/
def configConnected (r : Receiver) (cdcConnected : Bool) : Bool := !r.usb.usbSuspended && cdcConnected

/-- `ConfigService::service`: the requests are handled by an active session only. -/
def configService (r : Receiver) (cdcConnected : Bool) (commands : List SetupCommand) : Receiver :=
  if r.configConnected cdcConnected then commands.foldl (handleCommand p) { r with configActive := true }
  else { r with configActive := false }

/-- The setup part of a pass. Closing the session cancels a pairing transaction. -/
def setupSession (r : Receiver) (cdcConnected : Bool) (commands : List SetupCommand) : Receiver :=
  let wasActive := r.configWasActive
  let r := configService p r cdcConnected commands
  let r :=
    if r.configActive then { r.publishRelease with rearmRequired := true }
    -- the pass that sees the session close, and only that one
    else if wasActive && (r.pairingScanRequested || r.pairingScanActive || r.pairingCandidateSelected) then
      Receiver.cancelPairing p r
    else r
  { r with configWasActive := r.configActive }

section Session

variable {p} {r : Receiver} {cdcConnected : Bool}

/-- A mapping is refused, or stored, and goes live once it is stored. -/
theorem setConfig_eq (r : Receiver) (mapping : ProductionMapping) (faults : StoreFaults) :
    r.setConfig mapping faults = r ∨
      validateProductionMapping mapping = .valid ∧
        ∃ stored, stored = r.persistentConfig.store r.flash faults mapping ∧
          r.setConfig mapping faults =
            { r with
              persistentConfig := stored.config
              flash := stored.flash
              productionMapping := if stored.ok then mapping else r.productionMapping } := by
  unfold setConfig
  split
  · exact .inl rfl
  · rename_i hvalid
    refine .inr ⟨not_not.1 hvalid, _, rfl, ?_⟩
    dsimp only
    split <;> rfl

theorem configService_connected (commands : List SetupCommand) (h : r.configConnected cdcConnected = true) :
    configService p r cdcConnected commands = commands.foldl (handleCommand p) { r with configActive := true } := by
  unfold configService
  rw [if_pos h]

theorem configService_disconnected (commands : List SetupCommand) (h : r.configConnected cdcConnected = false) :
    configService p r cdcConnected commands = { r with configActive := false } := by
  unfold configService
  rw [if_neg (by simp [h])]

/-- The rule for the setup part of a pass: it keeps what the session's own flags, every request, a release and a
cancellation keep. -/
theorem setupSession_keeps {I : Receiver → Prop}
    (hsession : ∀ (s : Receiver) (active was : Bool), I s → I { s with configActive := active, configWasActive := was })
    (hcommand : ∀ s c, I s → I (handleCommand p s c))
    (hrelease : ∀ s : Receiver, I s → I { s.publishRelease with rearmRequired := true })
    (hcancel : ∀ s, I s → I (Receiver.cancelPairing p s)) (commands : List SetupCommand) (h : I r) :
    I (setupSession p r cdcConnected commands) := by
  have hcommands : ∀ (cs : List SetupCommand) (s : Receiver), I s → I (cs.foldl (handleCommand p) s) := by
    intro cs
    induction cs with
    | nil => exact fun _ hs => hs
    | cons c cs ih => exact fun s hs => ih _ (hcommand s c hs)
  have hservice : I (configService p r cdcConnected commands) := by
    unfold configService
    split
    · exact hcommands commands _ (hsession r true r.configWasActive h)
    · exact hsession r false r.configWasActive h
  unfold setupSession
  dsimp only
  generalize configService p r cdcConnected commands = s at hservice ⊢
  split
  · exact hsession _ _ _ (hrelease s hservice)
  · split
    · exact hsession _ _ _ (hcancel s hservice)
    · exact hsession _ _ _ hservice

/-- A pass without a session cancels what the session that it closes has left, and does nothing else. -/
theorem setupSession_disconnected (commands : List SetupCommand) (h : r.configConnected cdcConnected = false) :
    ∃ s, setupSession p r cdcConnected commands = { s with configWasActive := s.configActive } ∧
      ((r.configWasActive = true ∧
          (r.pairingScanRequested = true ∨ r.pairingScanActive = true ∨ r.pairingCandidateSelected = true) ∧
          s = Receiver.cancelPairing p { r with configActive := false }) ∨
        (¬ (r.configWasActive = true ∧
            (r.pairingScanRequested = true ∨ r.pairingScanActive = true ∨ r.pairingCandidateSelected = true)) ∧
          s = { r with configActive := false })) := by
  unfold setupSession
  rw [configService_disconnected commands h]
  dsimp only
  rw [if_neg Bool.false_ne_true]
  refine ⟨_, rfl, ?_⟩
  split
  · rename_i hcancel
    simp only [Bool.and_eq_true, Bool.or_eq_true, or_assoc] at hcancel
    exact .inl ⟨hcancel.1, hcancel.2, rfl⟩
  · rename_i hcancel
    simp only [Bool.and_eq_true, Bool.or_eq_true, or_assoc] at hcancel
    exact .inr ⟨hcancel, rfl⟩

end Session

/-! ## Events -/

/-- What the Bluetooth poll hands to `packet_handler` and to the two timers. -/
inductive BtEvent where
  | inquiryResult (result : InquiryResult)
  | inquiryComplete
  | state (working : Bool)
  | pinCodeRequest (address : BdAddr)
  | userConfirmationRequest (address : BdAddr)
  | incomingConnection (address : BdAddr) (cid : UInt16) (status acceptStatus : UInt8)
  | connectionOpened (status : UInt8) (cid : UInt16)
  | descriptorAvailable (status : UInt8) (descriptor : Option (List UInt8)) (digest : Option Sha256Digest)
  | report (report : List UInt8) (nowMs : UInt32)
  | connectionClosed
  | reconnectTimer (status : UInt8) (cid : UInt16)
  | scanTimer (nowMs : UInt32) (status : UInt8)

/-- `packet_handler`, `connect_controller` and `begin_pairing_scan`. -/
def bluetooth (r : Receiver) : BtEvent → Receiver
  | .inquiryResult result => Receiver.inquiryResult p r result
  | .inquiryComplete => r.inquiryComplete
  | .state working => if working && r.controllerAddressValid then r.scheduleConnect 100 else r
  | .pinCodeRequest address => r.emit (.pinCodeNegative address)
  | .userConfirmationRequest address => r.userConfirmationRequest address
  | .incomingConnection address cid status acceptStatus => r.incomingConnection address cid status acceptStatus
  | .connectionOpened status cid => r.connectionOpened status cid
  | .descriptorAvailable status descriptor digest => Receiver.descriptorAvailable p r status descriptor digest
  | .report report nowMs => r.consumeControllerReport report nowMs
  | .connectionClosed => r.connectionClosed
  | .reconnectTimer status cid => r.reconnectExpired status cid
  | .scanTimer nowMs status => r.scanExpired nowMs status

inductive Event where
  | bluetooth (e : BtEvent)
  | usb (cb : UsbCallback)
  | setupSession (cdcConnected : Bool) (commands : List SetupCommand)
  | serviceStaleInput (nowMs : UInt32)
  | serviceUsbKeyboard (a : UsbAnswer)

/-- The receiver at the start of an event. -/
def silent (r : Receiver) : Receiver := { r with outputs := [] }

def step (r : Receiver) : Event → Receiver
  | .bluetooth b => bluetooth p r.silent b
  | .usb cb => { r.silent with usb := r.usb.callback cb }
  | .setupSession cdcConnected commands => setupSession p r.silent cdcConnected commands
  | .serviceStaleInput nowMs => r.silent.serviceStaleInput nowMs
  | .serviceUsbKeyboard a => r.silent.serviceUsbKeyboard a

/-- One pass of `main`. -/
structure Pass where
  poll : List BtEvent := []
  usbTask : List UsbCallback := []
  cdcConnected : Bool := false
  commands : List SetupCommand := []
  nowMs : UInt32 := 0
  answer : UsbAnswer := {}

/-- The events of a pass up to the stale check. -/
def Pass.before (pass : Pass) : List Event :=
  pass.poll.map .bluetooth ++ pass.usbTask.map .usb ++ [.setupSession pass.cdcConnected pass.commands]

def Pass.events (pass : Pass) : List Event :=
  pass.before ++ [.serviceStaleInput pass.nowMs, .serviceUsbKeyboard pass.answer]

/-- The main loop. -/
def loop (passes : List Pass) : List Event := passes.flatMap Pass.events

end RedMonkeyMpg.Gamepad.Receiver
