/-
The gamepad receiver with its setup port, down to the bytes: the service reads a stream of bytes and
owns a transmit queue, the lines it completes are handled on the receiver, and the rest of `main` runs
around it. Every run of the whole is a run of the receiver in which a pass of the setup session
handles the commands of the lines it completed, and the two agree on whether a session is active.
-/
import RedMonkeyMpg.Setup.Isolation

namespace RedMonkeyMpg.Setup

open Gamepad Gamepad.Receiver
open Framing (Frame)

/-! ## The owner -/

/-- The receiver, and what the clock, BTstack and the flash will answer to the lines of the pass. -/
structure Owner where
  receiver : Receiver
  answers : List Answers := []

namespace Owner

/-- The next answer. -/
def answer (o : Owner) : Answers := o.answers.headD {}

/-- The owner after a line that used an answer. -/
def answered (o : Owner) (r : Receiver) : Owner := { receiver := r, answers := o.answers.tail }

end Owner

/-- What the receiver gives the service, each line with its own answers. -/
def portHost (p : Platform) (serial firmware : CStr) : Host Owner where
  mapping o := o.receiver.productionMapping
  setMapping m o := { o with receiver := { o.receiver with productionMapping := m } }
  store m o :=
    let stored := o.receiver.persistentConfig.store o.receiver.flash o.answer.faults m
    (stored.ok, o.answered { o.receiver with persistentConfig := stored.config, flash := stored.flash })
  sequence o := o.receiver.persistentConfig.sequence
  serial _ := serial
  firmware _ := firmware
  controller o := o.receiver.identity.controller
  address o := (gamepadHost p serial firmware o.answer).address o.receiver
  startScan := some fun o =>
    let r := startPairingScan p o.receiver o.answer.nowMs
    (o.answered r, notices o.receiver r)
  selectCandidate := some fun text o =>
    let chosen := selectPairingCandidate p o.receiver text
    (chosen.1, { o with receiver := chosen.2 }, notices o.receiver chosen.2)
  confirmPairing := some fun o =>
    let confirmed := confirmPairingCandidate p o.receiver o.answer.linkKey o.answer.faults
    (confirmed.1, o.answered confirmed.2, notices o.receiver confirmed.2)
  cancelPairing := some fun o =>
    let r := Receiver.cancelPairing p o.receiver
    ({ o with receiver := r }, notices o.receiver r)

/-! ## The main loop -/

/-- What happens to the receiver and its port. -/
inductive PortEvent where
  | bluetooth (e : BtEvent) (writes : List UsbWrite)
  | usb (cb : UsbCallback)
  | receive (bytes : List UInt8)
  | setupSession (cdcConnected : Bool) (reads : ℕ) (writes : List UsbWrite) (answers : List Answers)
  | serviceStaleInput (nowMs : UInt32)
  | serviceUsbKeyboard (a : UsbAnswer)

/-- The part of a pass of `main` behind `config_service.service()`. -/
def closeSession (p : Platform) (wasActive : Bool) (r : Receiver) : Receiver :=
  let r :=
    if r.configActive then { r.publishRelease with rearmRequired := true }
    else if wasActive && (r.pairingScanRequested || r.pairingScanActive || r.pairingCandidateSelected) then
      Receiver.cancelPairing p r
    else r
  { r with configWasActive := r.configActive }

/-- The whole: the service over its owner. -/
abbrev Port := World Owner

namespace Port

variable (p : Platform) (serial firmware : CStr)

def receiver (w : Port) : Receiver := w.host.receiver

/-- The receiver takes a step of its own; its notices go to the service. -/
def own (w : Port) (r : Receiver) (writes : List UsbWrite) : Port :=
  (notices w.receiver.silent r).foldl World.emit { w with host := { w.host with receiver := r }, writes := writes }

/-- The setup part of a pass of `main`. -/
def setupSession (w : Port) (cdcConnected : Bool) (reads : ℕ) (writes : List UsbWrite) (answers : List Answers) : Port :=
  let connected := w.receiver.configConnected cdcConnected
  let served := World.service (portHost p serial firmware)
    { w with host := { receiver := { w.receiver.silent with configActive := connected }, answers := answers } }
    connected reads writes
  { served with host := { served.host with receiver := closeSession p w.receiver.configWasActive served.host.receiver } }

def step (w : Port) : PortEvent → Port
  | .bluetooth e writes => w.own (Receiver.step p w.receiver (.bluetooth e)) writes
  | .usb cb => w.own (Receiver.step p w.receiver (.usb cb)) []
  | .receive bytes => { w with fifo := w.fifo ++ bytes, received := w.received ++ bytes }
  | .setupSession cdcConnected reads writes answers => w.setupSession p serial firmware cdcConnected reads writes answers
  | .serviceStaleInput nowMs => w.own (Receiver.step p w.receiver (.serviceStaleInput nowMs)) []
  | .serviceUsbKeyboard a => w.own (Receiver.step p w.receiver (.serviceUsbKeyboard a)) []

/-- The whole after `main` booted. -/
def boot (flash : Flash) (reads : Option Flash) : Port :=
  { host := { receiver := Receiver.boot p flash reads }, tx := .empty }

/-- What the service of a pass finds. -/
def opened (w : Port) (cdcConnected : Bool) (answers : List Answers) : Port :=
  { w with
    host :=
      { receiver := { w.receiver.silent with configActive := w.receiver.configConnected cdcConnected }
        answers := answers } }

/-! ## What the receiver sees of it -/

/-- The command of the line that a byte completes. -/
def commandsOfByte (w : Port) (byte : UInt8) : List SetupCommand :=
  match (framing.push w.input byte).2 with
  | some (.line line) => [commandOf w.receiver w.host.answer line]
  | _ => []

/-- The commands of a pass: those of the lines that it completes. -/
def commands (w : Port) (cdcConnected : Bool) (reads : ℕ) (writes : List UsbWrite) (answers : List Answers) :
    List SetupCommand :=
  let opened := World.serviceTx
    { w with
      host := { receiver := { w.receiver.silent with configActive := w.receiver.configConnected cdcConnected }, answers := answers }
      active := true
      writes := writes }
  if w.receiver.configConnected cdcConnected = false ∨ opened.tx.bytes.length ≠ 0 then []
  else
    Run.collect (World.readByte (portHost p serial firmware)) commandsOfByte
      { opened with fifo := opened.fifo.drop (min kMaxBytesPerService reads) }
      (opened.fifo.take (min kMaxBytesPerService reads))

/-- What an event of the whole is to the receiver. -/
def events (w : Port) : PortEvent → List Receiver.Event
  | .bluetooth e _ => [.bluetooth e]
  | .usb cb => [.usb cb]
  | .receive _ => []
  | .setupSession cdcConnected reads writes answers =>
    [.setupSession cdcConnected (commands p serial firmware w cdcConnected reads writes answers)]
  | .serviceStaleInput nowMs => [.serviceStaleInput nowMs]
  | .serviceUsbKeyboard a => [.serviceUsbKeyboard a]

variable {p serial firmware} {w : Port}

/-! ## One line -/

/-- A line of the port is a line of the receiver with the next answer. -/
theorem handleLine_port (o : Owner) (line : CStr) :
    (handleLine (portHost p serial firmware) o line).host.receiver =
        (handleLine (gamepadHost p serial firmware o.answer) o.receiver line).host ∧
      (handleLine (portHost p serial firmware) o line).notices =
        (handleLine (gamepadHost p serial firmware o.answer) o.receiver line).notices ∧
      (handleLine (portHost p serial firmware) o line).reply =
        (handleLine (gamepadHost p serial firmware o.answer) o.receiver line).reply := by
  unfold handleLine
  split
  · exact ⟨rfl, rfl, rfl⟩
  · cases readString line (cstr "\"command\":\"") 32 with
    | none => exact ⟨rfl, rfl, rfl⟩
    | some command =>
      dsimp only
      split_ifs
      · exact ⟨rfl, rfl, rfl⟩
      · unfold getConfig
        dsimp only [portHost, gamepadHost]
        split <;> exact ⟨rfl, rfl, rfl⟩
      · unfold getCncProfiles
        split <;> exact ⟨rfl, rfl, rfl⟩
      · unfold setConfig
        dsimp only [portHost, gamepadHost]
        split
        · exact ⟨rfl, rfl, rfl⟩
        · split
          · exact ⟨rfl, rfl, rfl⟩
          · split <;> exact ⟨rfl, rfl, rfl⟩
      · exact ⟨rfl, rfl, rfl⟩
      · unfold pairCandidate
        dsimp only [portHost, gamepadHost]
        cases readString line (cstr "\"address\":\"") 24 with
        | none => exact ⟨rfl, rfl, rfl⟩
        | some candidate => exact ⟨rfl, rfl, rfl⟩
      · exact ⟨rfl, rfl, rfl⟩
      · exact ⟨rfl, rfl, rfl⟩
      · exact ⟨rfl, rfl, rfl⟩

theorem handle_receiver (line : CStr) :
    receiver (w.handle (portHost p serial firmware) line) =
      handleCommand p w.receiver (commandOf w.receiver w.host.answer line) := by
  have hhost : (w.handle (portHost p serial firmware) line).host =
      (handleLine (portHost p serial firmware) w.host line).host :=
    World.emits_host _ { w with host := (handleLine (portHost p serial firmware) w.host line).host }
  unfold receiver
  rw [hhost, (handleLine_port w.host line).1]
  exact (handleLine_does p serial firmware w.host.answer w.host.receiver line).host

theorem readByte_receiver (w : Port) (byte : UInt8) :
    receiver (w.readByte (portHost p serial firmware) byte) =
      (commandsOfByte w byte).foldl (handleCommand p) w.receiver := by
  unfold World.readByte commandsOfByte
  dsimp only
  cases (framing.push w.input byte).2 with
  | none => rfl
  | some frame =>
    cases frame with
    | line line => exact handle_receiver line
    | rejected => rfl

/-! ## One pass -/

theorem setupSession_eq (r : Receiver) (cdcConnected : Bool) (cs : List SetupCommand) :
    Receiver.setupSession p r cdcConnected cs =
      closeSession p r.configWasActive (configService p r cdcConnected cs) := rfl

/-- A pass that sees the port connected opens the receiver's session. -/
theorem opened_receiver {cdcConnected : Bool} {answers : List Answers} (h : w.receiver.configConnected cdcConnected = true) :
    (w.opened cdcConnected answers).receiver = moment p w.receiver .opened := by
  show { w.receiver.silent with configActive := w.receiver.configConnected cdcConnected } = _
  rw [h]
  rfl

/-- What a pass of the service does to the receiver. -/
theorem service_receiver (w : Port) (cdcConnected : Bool) (reads : ℕ) (writes : List UsbWrite) (answers : List Answers) :
    receiver ((w.opened cdcConnected answers).service (portHost p serial firmware)
        (w.receiver.configConnected cdcConnected) reads writes) =
      configService p w.receiver.silent cdcConnected (commands p serial firmware w cdcConnected reads writes answers) := by
  unfold commands opened World.service
  cases hconnected : w.receiver.configConnected cdcConnected with
  | false => exact (configService_disconnected (r := w.receiver.silent) _ hconnected).symm
  | true =>
    rw [configService_connected (r := w.receiver.silent) _ hconnected]
    simp only [Bool.not_true, Bool.false_eq_true, if_false, Bool.true_eq_false, false_or]
    split
    · rfl
    · exact Run.exec_refines (π := receiver) readByte_receiver _ _

/-- The receiver of the whole steps as the receiver does. -/
theorem step_receiver (w : Port) (e : PortEvent) :
    receiver (step p serial firmware w e) =
      Run.exec (Receiver.step p) w.receiver (events p serial firmware w e) := by
  have hown : ∀ (r : Receiver) (writes : List UsbWrite), receiver (w.own r writes) = r := fun r writes =>
    congrArg Owner.receiver (World.emits_host _ _)
  cases e with
  | bluetooth e writes => exact hown _ _
  | usb cb => exact hown _ _
  | receive bytes => rfl
  | serviceStaleInput nowMs => exact hown _ _
  | serviceUsbKeyboard a => exact hown _ _
  | setupSession cdcConnected reads writes answers =>
    exact congrArg (closeSession p w.receiver.configWasActive)
      (service_receiver w cdcConnected reads writes answers)

section Rule

variable {I : Receiver → Prop}

/-- What every line keeps is kept by a pass of the service. -/
theorem service_keeps (hline : ∀ r answers line, I r → I (handleCommand p r (commandOf r answers line))) (w : Port)
    (connected : Bool) (reads : ℕ) (writes : List UsbWrite) (h : I w.receiver) :
    I (receiver (w.service (portHost p serial firmware) connected reads writes)) := by
  have hread : ∀ (v : Port) (byte : UInt8), I v.receiver → I (receiver (v.readByte (portHost p serial firmware) byte)) := by
    intro v byte hv
    rw [readByte_receiver]
    unfold commandsOfByte
    split
    · exact hline _ _ _ hv
    · exact hv
  unfold World.service
  split
  · exact h
  · dsimp only
    split
    · exact h
    · exact Run.invariant_all (I := fun v => I (receiver v)) hread _ h

/-- The rule for the whole: what every moment without a request keeps, and every line with any answers, is kept by
every step. -/
theorem step_keeps (hmoment : ∀ r m, (∀ c, m ≠ .command c) → I r → I (moment p r m))
    (hline : ∀ r answers line, I r → I (handleCommand p r (commandOf r answers line))) (w : Port) (e : PortEvent)
    (h : I w.receiver) : I (step p serial firmware w e).receiver := by
  have hevent : ∀ e : Receiver.Event, e.moments w.receiver = [.event e] → I (Receiver.step p w.receiver e) := by
    intro e he
    rw [← step_moments, he, Run.exec_cons, Run.exec_nil]
    exact hmoment _ (.event e) (fun _ hc => by cases hc) h
  have hreceiver : (step p serial firmware w e).receiver = _ := step_receiver w e
  rw [hreceiver]
  cases e with
  | bluetooth e writes => exact hevent (.bluetooth e) rfl
  | usb cb => exact hevent (.usb cb) rfl
  | receive bytes => exact h
  | serviceStaleInput nowMs => exact hevent (.serviceStaleInput nowMs) rfl
  | serviceUsbKeyboard a => exact hevent (.serviceUsbKeyboard a) rfl
  | setupSession cdcConnected reads writes answers =>
    show I (Receiver.step p w.receiver (.setupSession cdcConnected _))
    rw [← step_moments, Receiver.Event.moments]
    cases hconnected : w.receiver.configConnected cdcConnected with
    | false =>
      rw [if_neg Bool.false_ne_true]
      exact hmoment _ (.event (.setupSession cdcConnected [])) (fun _ hc => by cases hc) h
    | true =>
      have hopened : I (w.opened cdcConnected answers).receiver := by
        rw [opened_receiver hconnected]
        exact hmoment _ .opened (fun _ hc => by cases hc) h
      have hserved : I (receiver ((w.opened cdcConnected answers).service (portHost p serial firmware)
          (w.receiver.configConnected cdcConnected) reads writes)) := service_keeps hline _ _ reads writes hopened
      rw [service_receiver, configService_connected (r := w.receiver.silent) _ hconnected] at hserved
      rw [if_pos rfl, Run.exec_cons, Run.exec_append, exec_commands]
      exact hmoment _ .served (fun _ hc => by cases hc) hserved

end Rule

/-! ## The session's flag -/

/-- The service and the receiver agree on whether a session is active. -/
def Synced (w : Port) : Prop := w.active = w.receiver.configActive

theorem own_synced {r : Receiver} (h : Synced w) (hr : r.configActive = w.receiver.configActive)
    (writes : List UsbWrite) : Synced (w.own r writes) := by
  unfold Synced own
  rw [World.emits_active, receiver, World.emits_host]
  exact h.trans hr.symm

theorem readBytes_active (h : w.active = true) (reads : ℕ) :
    (w.readBytes (portHost p serial firmware) reads).active = true := by
  refine World.readBytes_keeps (I := fun v => v.active = true) ?_ ?_ ?_ reads h
  · intro v u hu heq
    exact (congrArg World.Outbound.active heq).trans hu
  · intro v frame reply _ hv
    exact hv
  · intro v notice hv
    unfold World.emit
    split
    · exact hv
    · exact hv

theorem service_active (w : Port) (connected : Bool) (reads : ℕ) (writes : List UsbWrite) :
    (w.service (portHost p serial firmware) connected reads writes).active = connected := by
  unfold World.service
  cases connected with
  | false => rfl
  | true =>
    simp only [Bool.not_true, Bool.false_eq_true, if_false]
    split
    · rfl
    · exact readBytes_active rfl reads

theorem setupSession_active (r : Receiver) (cdcConnected : Bool) (cs : List SetupCommand) :
    (Receiver.setupSession p r cdcConnected cs).configActive = r.configConnected cdcConnected := by
  have hservice : (configService p r cdcConnected cs).configActive = r.configConnected cdcConnected := by
    cases h : r.configConnected cdcConnected with
    | false => rw [configService_disconnected cs h]
    | true =>
      rw [configService_connected cs h]
      exact (handleCommands_session cs _).configActive
  rw [setupSession_eq]
  unfold closeSession
  dsimp only
  split
  · exact hservice
  · split
    · exact (congrArg Outside.configActive cancelPairing_outside).trans hservice
    · exact hservice

theorem step_synced (w : Port) (e : PortEvent) (h : Synced w) : Synced (step p serial firmware w e) := by
  cases e with
  | bluetooth e writes => exact own_synced h (bluetooth_session w.receiver.silent e).1.configActive writes
  | usb cb => exact own_synced (r := Receiver.step p w.receiver (.usb cb)) h rfl _
  | receive bytes => exact h
  | serviceStaleInput nowMs => exact own_synced h (serviceStaleInput_session (r := w.receiver.silent) nowMs).configActive _
  | serviceUsbKeyboard a => exact own_synced h (serviceUsbKeyboard_session (r := w.receiver.silent) a).configActive _
  | setupSession cdcConnected reads writes answers =>
    have hr : receiver (step p serial firmware w (.setupSession cdcConnected reads writes answers)) = _ :=
      step_receiver w (.setupSession cdcConnected reads writes answers)
    unfold Synced
    rw [hr]
    exact (service_active _ _ reads writes).trans (setupSession_active w.receiver.silent cdcConnected _).symm

/-- Every run of the whole is a run of the receiver, in which each pass of the setup session handles the
commands of the lines it completed. -/
theorem port_refines (p : Platform) (serial firmware : CStr) (flash : Flash) (reads : Option Flash) (es : List PortEvent) :
    (Run.exec (step p serial firmware) (boot p flash reads) es).receiver =
        Run.exec (Receiver.step p) (Receiver.boot p flash reads)
          (Run.collect (step p serial firmware) (events p serial firmware) (boot p flash reads) es) ∧
      (Run.exec (step p serial firmware) (boot p flash reads) es).active =
        (Run.exec (step p serial firmware) (boot p flash reads) es).receiver.configActive :=
  ⟨Run.exec_refines step_receiver _ es, Run.invariant_all step_synced es rfl⟩

end Port

end RedMonkeyMpg.Setup
