/-
What a frame is charged: the longest answer that its bytes can be given, from what the service reads of them.
A frame that is none of the commands is charged its one answer. Over every run of the receiver with its setup
port, while the frames that a reading pass completes are charged no more than the transmit queue holds, every
frame is answered; and a pass of refused frames that USB takes nothing of answers them exactly then.
-/
import RedMonkeyMpg.Setup.Progress

namespace RedMonkeyMpg.Setup

open Gamepad Gamepad.Receiver
open Framing (Frame)

/-! ## Charges -/

/-- The bytes of an error's line and its line feed. -/
def errorBytes (e : RequestError) : ℕ := (Reply.error e).line.length + 1

/-- The most that a command's answer takes in the queue, with its notice; an unknown one is refused. -/
def commandBytes (serial firmware command : CStr) : ℕ :=
  if command = cstr "GET_INFO" then 190 + serial.length + firmware.length
  else if command = cstr "GET_CONFIG" then 370
  else if command = cstr "GET_CNC_PROFILES" then 213
  else if command = cstr "SET_CONFIG" then 60
  else if command = cstr "START_SCAN" then 60
  else if command = cstr "PAIR_CANDIDATE" then 140
  else if command = cstr "CONFIRM_PAIRING" then 140
  else if command = cstr "CANCEL_PAIRING" then 60
  else errorBytes .unknownCommand

/-- What a frame is charged. -/
def charge (serial firmware : CStr) : Frame UInt8 → ℕ
  | .rejected => errorBytes .frameTooLarge
  | .line line =>
    if readUnsigned line (cstr "\"protocol\":") ≠ some 1 then errorBytes .unsupportedProtocol
    else
      match readString line (cstr "\"command\":\"") 32 with
      | none => errorBytes .invalidRequest
      | some command => commandBytes serial firmware command

def kCommands : List CStr :=
  [cstr "GET_INFO", cstr "GET_CONFIG", cstr "GET_CNC_PROFILES", cstr "SET_CONFIG", cstr "START_SCAN",
    cstr "PAIR_CANDIDATE", cstr "CONFIRM_PAIRING", cstr "CANCEL_PAIRING"]

/-- A frame that is none of the commands. -/
def Refused : Frame UInt8 → Prop
  | .rejected => True
  | .line line => readUnsigned line (cstr "\"protocol\":") ≠ some 1 ∨
    ∀ command ∈ readString line (cstr "\"command\":\"") 32, command ∉ kCommands

instance : ∀ f : Frame UInt8, Decidable (Refused f)
  | .rejected => .isTrue trivial
  | .line _ => inferInstanceAs (Decidable (_ ∨ _))

namespace World

variable {σ : Type} {host : Host σ} {w : World σ} {log : List Entry}

/-- Such a frame is refused with the error that it is charged. -/
theorem react_refused (host : Host σ) (serial firmware : CStr) {f : Frame UInt8} (h : Refused f) (s : σ) :
    ∃ e, react host s f = refuse s e ∧ charge serial firmware f = errorBytes e := by
  cases f with
  | rejected => exact ⟨_, rfl, rfl⟩
  | line line =>
    dsimp only [react, handleLine, charge]
    by_cases hprotocol : readUnsigned line (cstr "\"protocol\":") ≠ some 1
    · rw [if_pos hprotocol, if_pos hprotocol]
      exact ⟨_, rfl, rfl⟩
    · rw [if_neg hprotocol, if_neg hprotocol]
      have hunknown := h.resolve_left hprotocol
      cases hcommand : readString line (cstr "\"command\":\"") 32 with
      | none => exact ⟨_, rfl, rfl⟩
      | some command =>
        have hno := hunknown command hcommand
        simp only [kCommands, List.mem_cons, List.not_mem_nil, or_false, not_or] at hno
        obtain ⟨h1, h2, h3, h4, h5, h6, h7, h8⟩ := hno
        refine ⟨.unknownCommand, ?_, ?_⟩
        · simp only [h1, h2, h3, h4, h5, h6, h7, h8, if_false]
        · simp only [commandBytes, h1, h2, h3, h4, h5, h6, h7, h8, if_false]

/-! ## A pass that USB takes nothing of -/

/-- USB takes nothing, and while every line since `log` is queued all their bytes are pending. -/
def Piled (log : List Entry) (w : World σ) : Prop :=
  w.writes = [] ∧ ∃ added, w.log = log ++ added ∧
    ((∀ e ∈ added, e.Queued) → w.tx.pending.length = (added.map Entry.size).sum)

theorem writeLine_piled (h : Piled log w) {line : CStr} {entry : ℕ → Bool → Entry}
    (hsize : ∀ n queued, (entry n queued).size = line.length + 1) (hqueued : ∀ n, ¬ (entry n false).Queued) :
    Piled log (w.writeLine line entry) := by
  obtain ⟨hwrites, added, hlog, hpending⟩ := h
  have hspec := w.tx.writeLine_spec line w.writes
  obtain ⟨htaken, hrest⟩ := TxQueue.writeLine_idle (q := w.tx) line
  unfold writeLine
  dsimp only
  rw [hwrites] at hspec ⊢
  generalize w.tx.writeLine line [] = written at hspec htaken hrest ⊢
  refine ⟨hrest, added ++ [entry w.tx.pending.length written.1], ?_, fun hall => ?_⟩
  · show w.log ++ [_] = _
    rw [hlog, List.append_assoc]
  · rw [List.forall_mem_append, List.forall_mem_singleton] at hall
    rw [List.map_append, List.sum_append, List.map_singleton, List.sum_singleton, hsize]
    rcases hspec with ⟨-, -, hbytes⟩ | ⟨hq, -⟩
    · have hlen := congrArg List.length hbytes
      rw [htaken] at hlen
      simp only [List.nil_append, List.length_append, List.length_singleton] at hlen
      have hbefore := hpending hall.1
      show written.2.queue.pending.length = _
      omega
    · rw [hq] at hall
      exact absurd hall.2 (hqueued _)

theorem readBytes_piled (host : Host σ) (h : Piled log w) (reads : ℕ) : Piled log (w.readBytes host reads) := by
  refine readBytes_keeps (I := Piled log) ?_ ?_ ?_ reads h
  · rintro v u ⟨hwrites, added, hlog, hpending⟩ heq
    have htx : v.tx = u.tx := congrArg Outbound.tx heq
    exact ⟨(congrArg Outbound.writes heq).trans hwrites, added, (congrArg Outbound.log heq).trans hlog, by rwa [htx]⟩
  · intro v frame reply _ hv
    exact writeLine_piled hv (fun _ _ => rfl) fun _ hq => Bool.false_ne_true hq
  · intro v notice hv
    unfold emit
    split
    · exact hv
    · exact writeLine_piled hv (fun _ _ => rfl) fun _ hq => Bool.false_ne_true hq

/-- Refused frames are answered with what they are charged. -/
theorem readBytes_refused (host : Host σ) (w : World σ) (serial firmware : CStr) (reads : ℕ)
    (h : ∀ f ∈ w.completes reads, Refused f) :
    ∃ added, (w.readBytes host reads).log = w.log ++ added ∧
      added.map Entry.size = (w.completes reads).map (charge serial firmware) ∧
      ∀ e ∈ added, e.frame.isSome = true ∧ e.Uncut := by
  have hfold : ∀ (bytes : List UInt8) (v : World σ), (∀ f ∈ framing.emits v.input bytes, Refused f) →
      ∃ added, (bytes.foldl (readByte host) v).log = v.log ++ added ∧
        added.map Entry.size = (framing.emits v.input bytes).map (charge serial firmware) ∧
        ∀ e ∈ added, e.frame.isSome = true ∧ e.Uncut := by
    intro bytes
    induction bytes with
    | nil => exact fun v _ => ⟨[], (List.append_nil _).symm, rfl, fun _ he => absurd he List.not_mem_nil⟩
    | cons byte bytes ih =>
      intro v hv
      rw [Framing.emits, List.forall_mem_append] at hv
      have hinput : (v.readByte host byte).input = (framing.push v.input byte).1 :=
        congrArg Inbound.input (readByte_spec host v byte).1
      obtain ⟨rest, hlog, hsizes, hrest⟩ := ih (v.readByte host byte) (hinput ▸ hv.2)
      rw [hinput] at hsizes
      rw [List.foldl_cons, hlog, readByte_eq, Framing.emits]
      cases hf : (framing.push v.input byte).2 with
      | none => exact ⟨rest, rfl, hsizes, hrest⟩
      | some f =>
        rw [hf] at hv
        obtain ⟨e, hreact, hcharge⟩ := react_refused host serial firmware (hv.1 f (by simp)) v.host
        dsimp only
        rw [hreact]
        refine ⟨_ :: rest, List.append_assoc .., ?_, ?_⟩
        · rw [Option.toList_some, List.singleton_append, List.map_cons, List.map_cons, hsizes, hcharge]
          rfl
        · rw [List.forall_mem_cons]
          exact ⟨⟨rfl, error_uncut e⟩, hrest⟩
  exact hfold (w.fifo.take (min kMaxBytesPerService reads)) { w with fifo := w.fifo.drop (min kMaxBytesPerService reads) } h

/-- The charge is exact for refused frames. A pass that finds the queue empty and completes only such frames, with a
USB that takes nothing, answers all of them exactly when they are charged no more than the queue holds. -/
theorem refused_pass_iff (serial firmware : CStr) (hf : Framed w) (hempty : w.tx.pending = []) {reads : ℕ}
    (h : ∀ f ∈ w.completes reads, Refused f) :
    Answered (w.service host true reads []) ↔
      Answered w ∧ ((w.completes reads).map (charge serial firmware)).sum ≤ kTxSize := by
  set opened := ({ w with active := true, writes := [] } : World σ).serviceTx with hopened
  have htx : opened.tx = {} := by
    have hlen := TxQueue.length_pending (q := w.tx)
    have hle := w.tx.offset_le
    rw [hempty, List.length_nil] at hlen
    show (w.tx.service []).queue = {}
    unfold TxQueue.service
    rw [if_pos (by omega)]
  have hservice : w.service host true reads [] = (opened.readBytes host reads).serviceTx := by
    unfold service
    simp only [Bool.not_true, Bool.false_eq_true, if_false, ← hopened, htx]
    exact if_neg fun hne => hne rfl
  have hafter : Framed (w.service host true reads []) := step_framed w (.service true reads []) hf
  have hpiled : Piled w.log opened := by
    refine ⟨TxQueue.service_idle.2, [], (List.append_nil _).symm, fun _ => ?_⟩
    rw [htx]
    rfl
  obtain ⟨added, hlog, hsizes, hadded⟩ := readBytes_refused host opened serial firmware reads h
  obtain ⟨-, added', hlog', hpending⟩ := readBytes_piled host hpiled reads
  obtain rfl : added = added' := List.append_cancel_left (hlog.symm.trans hlog')
  obtain ⟨added', hlog', hqueued⟩ := service_offered host w reads []
  have hlogs : (w.service host true reads []).log = w.log ++ added := by
    rw [hservice]
    exact hlog
  obtain rfl : added = added' := List.append_cancel_left (hlogs.symm.trans hlog')
  rw [hsizes] at hpending hqueued
  rw [answered_iff_complete hafter, answered_iff_complete hf, hlogs, List.forall_mem_append]
  refine and_congr_right fun _ => ⟨fun hall => ?_, fun hsum e he => ?_⟩
  · have hfull := hpending fun e he => Entry.queued_of_complete (hadded e he).1 (hall e he)
    have hle := TxQueue.length_pending_le (q := (opened.readBytes host reads).tx)
    exact hfull ▸ hle
  · exact Entry.complete_eq_frame (hadded e he).2 (hqueued (.inl hsum) e he)

/-- 128 requests of one letter in one pass, with a USB that takes nothing. -/
def flood {σ : Type} : List (Event σ) :=
  [.receive (List.replicate 128 [0x78, lineFeed]).flatten, .service true 256 []]

/-- The queue is full after 71 responses, and the other 57 requests are never answered. -/
theorem flood_unanswered :
    ¬ ∀ es : List (Event Gamepad.Receiver),
      Answered (Run.exec (step (gamepadHost Gamepad.Receiver.buildPlatform [] [] {}))
        { host := Gamepad.Receiver.boot Gamepad.Receiver.buildPlatform (fun _ => none) (some fun _ => none) } es) := by
  intro h
  set w : World Gamepad.Receiver := step (gamepadHost Gamepad.Receiver.buildPlatform [] [] {})
    { host := Gamepad.Receiver.boot Gamepad.Receiver.buildPlatform (fun _ => none) (some fun _ => none) }
    (.receive (List.replicate 128 [0x78, lineFeed]).flatten) with hw
  have hframed : Framed w := step_framed _ _ (start_framed _)
  have hcharged : (∀ f ∈ w.completes 256, Refused f) ∧ ¬ ((w.completes 256).map (charge [] [])).sum ≤ kTxSize := by
    rw [hw]
    decide +kernel
  exact hcharged.2 ((refused_pass_iff [] [] hframed rfl hcharged.1).1 (h flood)).2

end World

/-! ## The receiver's answers -/

/-- The answers without a field, the profile list and the states that a request tells are short. -/
theorem fixed_bytes :
    (∀ e, errorBytes e ≤ 60) ∧
    (∀ reply ∈ [Reply.saved, .scanning, .connecting, .paired, .cancelled], reply.line.length + 1 ≤ 60) ∧
    (∀ list ∈ profilesBody kProfiles, (Reply.profiles list).line.length + 1 ≤ 213) ∧
    ∀ state ∈ kPairingStates, (Notice.pairingState (cstr state)).line.length + 1 ≤ 80 := by
  refine ⟨fun e => ?_, by decide +kernel⟩
  unfold errorBytes
  cases e <;> decide +kernel

theorem errorBytes_le (e : RequestError) : errorBytes e ≤ 60 := fixed_bytes.1 e

theorem fixed_reply {reply : Reply} (h : reply ∈ [Reply.saved, .scanning, .connecting, .paired, .cancelled]) :
    reply.line.length + 1 ≤ 60 := fixed_bytes.2.1 reply h

section Handlers

variable {σ : Type} (host : Host σ) (s : σ)

theorem refuse_bytes (e : RequestError) : (refuse s e).bytes = errorBytes e := Nat.zero_add _

theorem getConfig_bytes : (getConfig host s).bytes ≤ 370 := by
  unfold getConfig
  split
  · rw [refuse_bytes]
    exact Nat.le_trans (errorBytes_le _) (by decide)
  · rename_i profile hprofile
    have hshort := profiles_short.1 profile (List.mem_of_find?_eq_some hprofile)
    have hbody := length_config_le hshort (host.mapping s)
    have hline := Reply.length_line_le (.config profile.key (host.mapping s))
    show 0 + ((Reply.config profile.key (host.mapping s)).line.length + 1) ≤ 370
    omega

theorem getCncProfiles_bytes : (getCncProfiles s).bytes ≤ 213 := by
  unfold getCncProfiles
  split
  · rw [refuse_bytes]
    exact Nat.le_trans (errorBytes_le _) (by decide)
  · rename_i list hlist
    show 0 + ((Reply.profiles list).line.length + 1) ≤ 213
    rw [Nat.zero_add]
    exact fixed_bytes.2.2.1 list hlist

theorem setConfig_bytes (line : CStr) : (setConfig host s line).bytes ≤ 60 := by
  unfold setConfig
  split
  · exact (refuse_bytes s _).trans_le (errorBytes_le _)
  · split
    · exact (refuse_bytes s _).trans_le (errorBytes_le _)
    · dsimp only
      split
      · exact (refuse_bytes _ _).trans_le (errorBytes_le _)
      · exact (Nat.zero_add _).trans_le (fixed_reply (by simp))

end Handlers

section Receiver

variable {p : Platform} {serial firmware : CStr}

/-- The states that a request tells. -/
theorem told_bytes {ns : List Notice} {state : String} (hstate : state ∈ kPairingStates)
    (h : ns = [] ∨ ns = [.pairingState (cstr state)]) : noticeBytes ns ≤ 80 := by
  rcases h with rfl | rfl
  · exact Nat.zero_le _
  · exact fixed_bytes.2.2.2 state hstate

theorem pairCandidate_bytes (o : Owner) (line : CStr) : (pairCandidate (portHost p serial firmware) o line).bytes ≤ 140 := by
  have hconnecting : Reply.connecting.line.length + 1 ≤ 60 := fixed_reply (by simp)
  have herror := errorBytes_le .pairCandidateRejected
  unfold pairCandidate
  split
  · rename_i candidate hook _ hhook
    cases hhook
    obtain ⟨s, hs, htells⟩ := selectPairingCandidate_tells (p := p) (r := o.receiver)
      (Q := fun o => o.isNotice = false) (fun _ => isNotice_of_isLink) candidate fun _ _ _ _ => rfl
    have hnotices := told_bytes (by decide) (notices_told hs htells)
    show noticeBytes (notices o.receiver (selectPairingCandidate p o.receiver candidate).2) + _ ≤ 140
    dsimp only
    split
    · omega
    · unfold errorBytes at herror
      omega
  · rw [refuse_bytes]
    omega

theorem confirmPairing_bytes (o : Owner) : (confirmPairing (portHost p serial firmware) o).bytes ≤ 140 := by
  have hpaired : Reply.paired.line.length + 1 ≤ 60 := fixed_reply (by simp)
  have herror := errorBytes_le .pairingNotConfirmed
  obtain ⟨s, hs, htells⟩ := confirmPairingCandidate_tells (p := p) (r := o.receiver) (Q := fun o => o.isNotice = false)
    o.answer.linkKey o.answer.faults fun _ _ _ _ _ => rfl
  have hnotices := told_bytes (by decide) (notices_told hs htells)
  show noticeBytes (notices o.receiver (confirmPairingCandidate p o.receiver o.answer.linkKey o.answer.faults).2) + _ ≤ 140
  dsimp only [confirmPairing, portHost]
  split
  · omega
  · unfold errorBytes at herror
    omega

theorem startScan_bytes (o : Owner) : (startScan (portHost p serial firmware) o).bytes ≤ 60 := by
  have hscanning : Reply.scanning.line.length + 1 ≤ 60 := fixed_reply (by simp)
  have hnone : notices o.receiver (startPairingScan p o.receiver o.answer.nowMs) = [] :=
    notices_eq_nil (startPairingScan_adds (fun _ => isNotice_of_isLink) (fun _ _ _ _ _ => rfl) _)
  show noticeBytes (notices o.receiver (startPairingScan p o.receiver o.answer.nowMs)) + _ ≤ 60
  rw [hnone]
  exact (Nat.zero_add _).trans_le hscanning

theorem cancelPairing_bytes (o : Owner) : (cancelPairing (portHost p serial firmware) o).bytes ≤ 60 := by
  have hcancelled : Reply.cancelled.line.length + 1 ≤ 60 := fixed_reply (by simp)
  have hnone : notices o.receiver (Receiver.cancelPairing p o.receiver) = [] :=
    notices_eq_nil (cancelPairing_adds (fun _ => isNotice_of_isLink) fun _ _ _ _ _ => rfl)
  show noticeBytes (notices o.receiver (Receiver.cancelPairing p o.receiver)) + _ ≤ 60
  rw [hnone]
  exact (Nat.zero_add _).trans_le hcancelled

/-- A line adds no more than its frame is charged. -/
theorem handleLine_bytes {o : Owner} (h : Legible p o.receiver) (line : CStr) :
    (handleLine (portHost p serial firmware) o line).bytes ≤ charge serial firmware (.line line) := by
  dsimp only [handleLine, charge]
  split
  · exact (refuse_bytes _ _).le
  · cases readString line (cstr "\"command\":\"") 32 with
    | none => exact (refuse_bytes _ _).le
    | some command =>
      dsimp only [commandBytes]
      split_ifs
      · have hidentity := identity_short serial firmware h
        have hbody := length_info_le serial firmware ((portHost p serial firmware).controller o)
          ((portHost p serial firmware).address o) ((portHost p serial firmware).sequence o)
        have hline := Reply.length_line_le (.info serial firmware ((portHost p serial firmware).controller o)
          ((portHost p serial firmware).address o) ((portHost p serial firmware).sequence o))
        show 0 + ((Reply.info serial firmware _ _ _).line.length + 1) ≤ _
        omega
      · exact getConfig_bytes _ _
      · exact getCncProfiles_bytes _
      · exact setConfig_bytes _ _ _
      · exact startScan_bytes _
      · exact pairCandidate_bytes _ _
      · exact confirmPairing_bytes _
      · exact cancelPairing_bytes _
      · exact (refuse_bytes _ _).le

/-- The receiver answers within what frames are charged. -/
theorem portHost_bounded (hp : p.Documented) (hshort : serial.length + firmware.length ≤ 500) :
    Bounded (portHost p serial firmware) (fun o => Legible p o.receiver) (charge serial firmware) where
  keeps o f h := by
    cases f with
    | rejected => exact h
    | line line =>
      show Legible p (handleLine (portHost p serial firmware) o line).host.receiver
      rw [(Port.handleLine_port o line).1, (handleLine_does p serial firmware o.answer o.receiver line).host]
      exact Port.line_legible hp _ _ _ h
  uncut o f h := by
    cases f with
    | rejected => exact error_uncut _
    | line line =>
      apply handleLine_uncut
      have hidentity := identity_short serial firmware h
      show serial.length + firmware.length + _ + _ ≤ 580
      omega
  size_le o f h := by
    cases f with
    | rejected => exact (refuse_bytes _ _).le
    | line line => exact handleLine_bytes h line

end Receiver

/-! ## Runs of the port -/

namespace Port

variable {p : Platform} {serial firmware : CStr} {w : Port}

/-- The frames that a reading pass completes are charged no more than the queue holds. A pass reads when the port
is connected and USB takes all that is pending. -/
def Affords (serial firmware : CStr) (w : Port) : PortEvent → Prop
  | .setupSession cdcConnected reads writes _ => w.receiver.configConnected cdcConnected = true → w.Clears writes →
    ((w.completes reads).map (charge serial firmware)).sum ≤ kTxSize
  | _ => True

instance (w : Port) (writes : List UsbWrite) : Decidable (w.Clears writes) := inferInstanceAs (Decidable (_ ≤ _))

instance (serial firmware : CStr) (w : Port) : ∀ e : PortEvent, Decidable (Affords serial firmware w e)
  | .setupSession _ _ _ _ => inferInstanceAs (Decidable (_ → _ → _ ≤ _))
  | .bluetooth _ _ | .usb _ | .receive _ | .serviceStaleInput _ | .serviceUsbKeyboard _ => .isTrue trivial

theorem charge_le (hshort : serial.length + firmware.length ≤ 500) (f : Frame UInt8) : charge serial firmware f ≤ 690 := by
  have herror : ∀ e, errorBytes e ≤ 690 := fun e => (errorBytes_le e).trans (by decide)
  cases f with
  | rejected => exact herror _
  | line line =>
    dsimp only [charge]
    split
    · exact herror _
    · split
      · exact herror _
      · have hunknown := herror .unknownCommand
        unfold commandBytes
        split_ifs <;> omega

/-- Five frames are always afforded. -/
theorem affords_of_few (hshort : serial.length + firmware.length ≤ 500) {cdcConnected : Bool} {reads : ℕ}
    {writes : List UsbWrite} {answers : List Answers} (hfew : (w.completes reads).length ≤ 5) :
    Affords serial firmware w (.setupSession cdcConnected reads writes answers) := by
  intro _ _
  have hsum := List.sum_le_card_nsmul ((w.completes reads).map (charge serial firmware)) 690 fun n hn => by
    obtain ⟨f, -, rfl⟩ := List.mem_map.1 hn
    exact charge_le hshort f
  rw [List.length_map, smul_eq_mul] at hsum
  unfold kTxSize
  omega

/-- Every frame of the record has its response. -/
def Complete (w : Port) : Prop := ∀ e ∈ w.log, e.complete = e.frame

theorem own_complete (h : Complete w) (r : Receiver) (writes : List UsbWrite) : Complete (w.own r writes) := by
  have hemits : ∀ (ns : List Notice) (v : Port), Complete v → Complete (ns.foldl World.emit v) := by
    intro ns
    induction ns with
    | nil => exact fun _ hv => hv
    | cons n ns ih =>
      intro v hv
      apply ih
      unfold World.emit
      split
      · exact hv
      · intro e he
        rcases List.mem_append.1 he with he | he
        · exact hv e he
        · rw [List.mem_singleton.1 he]
          rfl
  exact hemits _ _ h

theorem step_complete (hp : p.Documented) (hshort : serial.length + firmware.length ≤ 500) (w : Port) (e : PortEvent)
    (h : Legible p w.receiver ∧ Complete w) (he : Affords serial firmware w e) :
    Legible p (receiver (step p serial firmware w e)) ∧ Complete (step p serial firmware w e) := by
  obtain ⟨hlegible, hcomplete⟩ := h
  constructor
  · exact step_keeps (fun r m _ hr => moment_legible hp r m hr) (fun r answers line => line_legible hp r answers line)
      w e hlegible
  · cases e with
    | bluetooth b writes => exact own_complete hcomplete _ _
    | usb cb => exact own_complete hcomplete _ _
    | receive bytes => exact hcomplete
    | serviceStaleInput nowMs => exact own_complete hcomplete _ _
    | serviceUsbKeyboard a => exact own_complete hcomplete _ _
    | setupSession cdcConnected reads writes answers =>
      show ∀ e ∈ ((w.opened cdcConnected answers).service (portHost p serial firmware) (w.receiver.configConnected cdcConnected) reads writes).log, _
      cases hconnected : w.receiver.configConnected cdcConnected with
      | true =>
        have hopened : Legible p (w.opened cdcConnected answers).receiver :=
          opened_receiver (p := p) hconnected ▸ moment_legible hp w.receiver .opened hlegible
        exact World.service_complete (portHost_bounded hp hshort) hopened (fun hclears => he hconnected hclears) hcomplete
      | false =>
        intro e hmem
        rcases List.mem_append.1 hmem with hmem | hmem
        · exact hcomplete e hmem
        · rw [List.mem_singleton.1 hmem]
          rfl

/-- One response per request, while the passes afford it. Over every run of the receiver with its setup port, whatever
the bytes, the passes and USB: when the frames that each reading pass completes are charged no more than the queue
holds, every frame that was read has exactly one complete response in the queue's record, in order, and the queued
lines are what USB took of the session and what is pending. -/
theorem answered_of_affords (hp : p.Documented) (hshort : serial.length + firmware.length ≤ 500) (flash : Flash)
    (reads : Option Flash) (es : List PortEvent)
    (h : Run.Always (step p serial firmware) (Affords serial firmware) (boot p flash reads) es) :
    World.Answered (Run.exec (step p serial firmware) (boot p flash reads) es) ∧
      (Run.exec (step p serial firmware) (boot p flash reads) es).sent ++
          (Run.exec (step p serial firmware) (boot p flash reads) es).tx.pending =
        queuedBytes (Run.exec (step p serial firmware) (boot p flash reads) es).log := by
  have hcomplete := (Run.invariant (I := fun w => Legible p (receiver w) ∧ Complete w) (step_complete hp hshort) h
    ⟨boot_legible hp flash reads, fun _ he => absurd he List.not_mem_nil⟩).2
  have htraced : Traced (Run.exec (step p serial firmware) (boot p flash reads) es) :=
    Run.invariant_all step_traced es ⟨rfl, World.start_framed _⟩
  have hstreamed : World.Streamed (Run.exec (step p serial firmware) (boot p flash reads) es) :=
    Run.invariant_all step_streamed es (World.start_streamed _)
  exact ⟨(World.answered_iff_complete htraced.framed).2 hcomplete, hstreamed.stream⟩

/-- Two requests, of which USB takes a part of the answers; 12 more, which wait until it takes the rest. -/
def waiting : List PortEvent :=
  [.receive (cstr "\x7b\"protocol\":1,\"command\":\"GET_INFO\"\x7d\nx\n"), .setupSession true 256 [.takes 50] [],
    .serviceStaleInput 10, .serviceUsbKeyboard {}, .receive (List.replicate 12 [0x78, lineFeed]).flatten,
    .bluetooth .inquiryComplete [], .setupSession true 256 [.takes 0] [], .setupSession true 256 [.takes 4096] []]

theorem answered_of_affords_waiting :
    let w := Run.exec (step buildPlatform (cstr "E6614C311B4C2F21") (cstr "0.1.0"))
      (boot buildPlatform (fun _ => none) none) waiting
    ((framing.frames w.read).length = 14 ∧ w.tx.pending.length = 12 * 57) ∧
      World.Answered w ∧ w.sent ++ w.tx.pending = queuedBytes w.log :=
  ⟨by decide +kernel,
    answered_of_affords (Platform.plain_documented _) (by decide) (fun _ => none) none waiting (by decide +kernel)⟩

end Port

end RedMonkeyMpg.Setup
