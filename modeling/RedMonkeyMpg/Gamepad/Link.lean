/-
The gamepad receiver and the one HID connection BTstack keeps for it. A disconnect that the
receiver requests is not done at once: the link is closing until its closed event, and may deliver
reports until then. An event ends the link, brings a new one to the address in the receiver's
buffer, opens the one there is, or leaves it to what the receiver requests: `step_link` says all
that an event can do.
-/
import RedMonkeyMpg.Gamepad.Rollback

namespace RedMonkeyMpg.Gamepad

/-- A HID connection: its ID, the address of its peer, and whether its disconnect was requested. -/
structure Link where
  cid : UInt16
  peer : BdAddr
  closing : Bool := false
  deriving DecidableEq

/-- The receiver and its connection. BTstack is configured for a single one. -/
structure World where
  receiver : Receiver
  link : Option Link := none

/-- The link after the receiver's requests. -/
def Link.after (l : Link) (outputs : List Output) : Link :=
  { l with closing := l.closing || outputs.contains (.disconnect l.cid) }

/-- The address a connect was requested to. -/
def connectTarget (outputs : List Output) : Option BdAddr :=
  outputs.findSome? fun o => match o with | .connect a => some a | _ => none

namespace World

open Receiver

variable (p : Platform)

/-- The link after an event: an accepted or requested connection is a new one, and a failed opening
or a closed event ends it. -/
def linkAfter (link : Option Link) (outputs : List Output) : Event → Option Link
  | .bluetooth (.incomingConnection address cid _ acceptStatus) =>
    if outputs.contains (.accept cid) && acceptStatus == kSuccess then some { cid := cid, peer := address }
    else link.map (·.after outputs)
  | .bluetooth (.reconnectTimer status cid) =>
    match connectTarget outputs with
    | some address => if status = kSuccess then some { cid := cid, peer := address } else link.map (·.after outputs)
    | none => link.map (·.after outputs)
  | .bluetooth (.connectionOpened status _) => if status = kSuccess then link.map (·.after outputs) else none
  | .bluetooth .connectionClosed => none
  | _ => link.map (·.after outputs)

def step (w : World) (e : Event) : World :=
  let receiver := Receiver.step p w.receiver e
  { receiver := receiver, link := linkAfter w.link receiver.outputs e }

/-- The receiver booted and no connection. -/
def boot (flash : Flash) (reads : Option Flash) : World := { receiver := Receiver.boot p flash reads }

end World

namespace Receiver

/-- The ID of the connection an event brings, when it comes in or its connect succeeds. -/
def Event.connects : Event → Option UInt16
  | .bluetooth (.incomingConnection _ cid status _) => if status = kSuccess then some cid else none
  | .bluetooth (.reconnectTimer status cid) => if status = kSuccess then some cid else none
  | _ => none

/-- The connection an opened event names. -/
def Event.opens : Event → Option UInt16
  | .bluetooth (.connectionOpened _ cid) => some cid
  | _ => none

end Receiver

namespace World

/-- What BTstack does: it brings a connection only with no other one, and with an ID that is not 0;
an opened event names the connection there is, and a report needs one. -/
def Enabled (w : World) (e : Receiver.Event) : Prop :=
  (∀ cid ∈ e.connects, w.link = none ∧ cid ≠ 0) ∧ (∀ cid ∈ e.opens, w.link.map Link.cid = some cid) ∧
    (e.reportMs ≠ none → w.link ≠ none)

-- Looks at the ID there is, and does not run through every `UInt16`.
instance (w : World) (e : Receiver.Event) : Decidable (Enabled w e) :=
  have := Option.decidableForallMem (p := fun cid => w.link = none ∧ cid ≠ 0) e.connects
  have := Option.decidableForallMem (p := fun cid => w.link.map Link.cid = some cid) e.opens
  inferInstanceAs (Decidable (_ ∧ _ ∧ (_ → _)))

end World

/-! ## What a step requests of its link -/

/-- The bond's address is the peer's, and the effective one once no candidate is selected. -/
def Bond.Serves (p : Platform) (b : Bond) (peer : BdAddr) : Prop :=
  b.controllerAddress = peer ∧ (b.pairingCandidateSelected = false → b.effective p = some peer)

/-- A valid address serves itself. -/
theorem Bond.Kept.serves {p : Platform} {b : Bond} (h : b.Kept p) (hv : b.controllerAddressValid = true) :
    b.Serves p b.controllerAddress := by
  refine ⟨rfl, fun hc => ?_⟩
  obtain ⟨a, ha⟩ := Option.isSome_iff_exists.1 ((h.valid hc).symm.trans hv)
  rw [ha, h.address hc a ha]

/-- An address that serves is valid. -/
theorem Bond.Kept.valid_of_serves {p : Platform} {b : Bond} {peer : BdAddr} (h : b.Kept p) (hs : b.Serves p peer) :
    b.controllerAddressValid = true := by
  cases hc : b.pairingCandidateSelected with
  | true => exact (h.chosen hc).1
  | false =>
    rw [h.valid hc, hs.2 hc]
    rfl

namespace Receiver

variable {p : Platform} {r s : Receiver} {cid : UInt16} {peer : BdAddr}

/-- A step in the course of an event that keeps the connection ID and what was requested. -/
structure Attached (r s : Receiver) : Prop where
  hidCid : s.hidCid = r.hidCid
  outputs : ∀ o ∈ r.outputs, o ∈ s.outputs

theorem Attached.refl (r : Receiver) : Attached r r := ⟨rfl, fun _ h => h⟩

theorem Attached.trans {t : Receiver} (h : Attached r s) (h' : Attached s t) : Attached r t :=
  ⟨h'.hidCid.trans h.hidCid, fun o ho => h'.outputs o (h.outputs o ho)⟩

theorem attached_of_eq (hc : s.hidCid = r.hidCid) (ho : s.outputs = r.outputs) : Attached r s :=
  ⟨hc, fun _ h => ho ▸ h⟩

theorem emit_attached (o : Output) : Attached r (r.emit o) := ⟨rfl, fun _ h => List.mem_append_left _ h⟩

/-- A step in the course of an event that requests the disconnect of the connection the receiver
knows, if any. -/
structure Cut (r s : Receiver) : Prop where
  outputs : ∀ o ∈ r.outputs, o ∈ s.outputs
  disconnect : r.hidCid ≠ 0 → Output.disconnect r.hidCid ∈ s.outputs

theorem Attached.cut {t : Receiver} (h : Attached r s) (hc : Cut s t) : Cut r t :=
  ⟨fun o ho => hc.outputs o (h.outputs o ho), fun hne => h.hidCid ▸ hc.disconnect (h.hidCid ▸ hne)⟩

theorem Cut.attached {t : Receiver} (hc : Cut r s) (h : Attached s t) : Cut r t :=
  ⟨fun o ho => h.outputs o (hc.outputs o ho), fun hne => h.outputs _ (hc.disconnect hne)⟩

theorem cancelPairing_cut : Cut r (Receiver.cancelPairing p r) := by
  obtain ⟨outputs, ho, hrequest, h⟩ := cancelPairing_eq (p := p) r
  rw [h]
  exact ⟨ho, hrequest⟩

/-! ## The link through a step -/

/-- In the course of an event: unless its disconnect was requested, the connection is the one the
receiver knows, and the bond serves its peer. -/
def Linked (p : Platform) (cid : UInt16) (peer : BdAddr) (r : Receiver) : Prop :=
  Output.disconnect cid ∉ r.outputs → r.hidCid = cid ∧ r.bond.Serves p peer

theorem Linked.cut (hne : cid ≠ 0) (h : Linked p cid peer r) (hc : Cut r s) : Linked p cid peer s := by
  intro hno
  obtain ⟨he, -⟩ := h fun hm => hno (hc.outputs _ hm)
  subst he
  exact absurd (hc.disconnect hne) hno

/-- A step in the course of an event that keeps the connection ID, what was requested and the bond, or
requests the disconnect of the connection the receiver knows. -/
def Follows (r s : Receiver) : Prop := (Attached r s ∧ s.bond = r.bond) ∨ Cut r s

theorem Follows.refl (r : Receiver) : Follows r r := .inl ⟨.refl r, rfl⟩

/-- A step in the course of an event that keeps the connection ID, what was requested and the address in the
buffer, or requests the disconnect of the connection the receiver knows. -/
def Moves (r s : Receiver) : Prop :=
  (Attached r s ∧ s.controllerAddress = r.controllerAddress ∧ s.controllerAddressValid = r.controllerAddressValid) ∨ Cut r s

theorem Moves.refl (r : Receiver) : Moves r r := .inl ⟨.refl r, rfl, rfl⟩

theorem Moves.trans {t : Receiver} (h : Moves r s) (h' : Moves s t) : Moves r t := by
  rcases h with ⟨ha, haddr, hvalid⟩ | hc
  · rcases h' with ⟨ha', haddr', hvalid'⟩ | hc'
    · exact .inl ⟨ha.trans ha', haddr'.trans haddr, hvalid'.trans hvalid⟩
    · exact .inr (ha.cut hc')
  · rcases h' with ⟨ha', -⟩ | hc'
    · exact .inr (hc.attached ha')
    · exact .inr ⟨fun o ho => hc'.outputs o (hc.outputs o ho), fun hne => hc'.outputs _ (hc.disconnect hne)⟩

theorem Moves.of_bond (ha : Attached r s) (hb : s.bond = r.bond) : Moves r s :=
  .inl ⟨ha, congrArg Bond.controllerAddress hb, congrArg Bond.controllerAddressValid hb⟩

theorem Follows.moves (h : Follows r s) : Moves r s := by
  rcases h with ⟨ha, hb⟩ | hc
  · exact .of_bond ha hb
  · exact .inr hc

theorem Linked.moves (hne : cid ≠ 0) (hk : Bond.Kept p r.bond) (hk' : Bond.Kept p s.bond) (h : Linked p cid peer r)
    (hm : Moves r s) : Linked p cid peer s := by
  rcases hm with ⟨ha, haddr, hvalid⟩ | hc
  · intro hno
    obtain ⟨hcid, hserves⟩ := h fun hm => hno (ha.outputs _ hm)
    have hpeer : s.bond.controllerAddress = peer := haddr.trans hserves.1
    refine ⟨ha.hidCid.trans hcid, ?_⟩
    rw [← hpeer]
    exact hk'.serves (hvalid.trans (hk.valid_of_serves hserves))
  · exact h.cut hne hc

theorem startPairingScan_cut (nowMs : UInt32) : Cut r (startPairingScan p r nowMs) := by
  obtain ⟨s, outputs, hs, ho, hrequest, h⟩ := startPairingScan_eq (p := p) r nowMs
  have hscan : Cut s (startPairingScan p r nowMs) := by
    rw [h]
    exact ⟨ho, hrequest⟩
  split at hs
  · -- the rollback has requested the disconnect already
    subst hs
    have hcancel := cancelPairing_cut (p := p) (r := r)
    exact ⟨fun o hm => hscan.outputs o (hcancel.outputs o hm), fun hne => hscan.outputs _ (hcancel.disconnect hne)⟩
  · subst hs
    exact hscan

theorem selectPairingCandidate_follows (address : CStr) : Follows r (selectPairingCandidate p r address).2 := by
  rcases selectPairingCandidate_eq (p := p) r address with
    ⟨-, h⟩ | ⟨-, -, ⟨-, h⟩ | ⟨parsed, outputs, -, ho, hrequest, h⟩⟩
  · rw [h]
    exact .refl r
  · rw [h]
    exact .inl ⟨⟨rfl, fun _ hm => List.mem_append_left _ hm⟩, rfl⟩
  · rw [h]
    exact .inr ⟨ho, hrequest⟩

theorem setConfig_attached (mapping : ProductionMapping) (faults : StoreFaults) :
    Attached r (r.setConfig mapping faults) := by
  rcases r.setConfig_eq mapping faults with h | ⟨-, stored, -, h⟩
  · rw [h]
    exact .refl r
  · rw [h]
    exact attached_of_eq rfl rfl

theorem confirmPairingCandidate_attached (linkKey : Bool) (faults : StoreFaults) :
    Attached r (confirmPairingCandidate p r linkKey faults).2 := by
  rcases confirmPairingCandidate_eq (p := p) r linkKey faults with
    h | ⟨stored, -, ⟨-, h⟩ | ⟨-, -, controller, outputs, ho, h⟩⟩
  · rw [h]
    exact .refl r
  · rw [h]
    exact attached_of_eq rfl rfl
  · rw [h]
    exact ⟨rfl, ho⟩

/-- Requests that change the address the receiver serves request the disconnect of its connection; a
confirmation keeps that address. -/
theorem handleCommand_moves (r : Receiver) (c : SetupCommand) : Moves r (handleCommand p r c) := by
  cases c with
  | setConfig mapping faults => exact .of_bond (setConfig_attached mapping faults) (setConfig_bond mapping faults)
  | startScan nowMs => exact .inr (startPairingScan_cut nowMs)
  | pairCandidate address => exact (selectPairingCandidate_follows address).moves
  | confirmPairing linkKey faults =>
    have ha := confirmPairingCandidate_attached (p := p) (r := r) linkKey faults
    rcases confirmPairingCandidate_bond (p := p) (r := r) linkKey faults with hb | ⟨a, -, -, hb⟩
    · exact .of_bond ha hb
    · exact .inl ⟨ha, congrArg Bond.controllerAddress hb, congrArg Bond.controllerAddressValid hb⟩
  | cancelPairing => exact .inr cancelPairing_cut
  | other => exact .refl r

theorem setupSession_moves (cdc : Bool) (cs : List SetupCommand) : Moves r (setupSession p r cdc cs) := by
  refine setupSession_keeps (fun s _ _ h => h.trans ?_) (fun s c h => h.trans (handleCommand_moves s c))
    (fun s h => h.trans ?_) (fun s h => h.trans (.inr cancelPairing_cut)) cs (.refl r)
  · exact .of_bond (attached_of_eq rfl rfl) rfl
  · exact .of_bond (attached_of_eq rfl rfl) rfl

theorem descriptorAvailable_follows (status : UInt8) (descriptor : Option (List UInt8)) (digest : Option Sha256Digest) :
    Follows r (Receiver.descriptorAvailable p r status descriptor digest) := by
  rcases descriptorAvailable_eq (p := p) r status descriptor digest with
    ⟨profile, -, h⟩ | ⟨-, outputs, ho, ⟨-, h⟩ | ⟨-, h⟩⟩
  · rw [h]
    exact .inl ⟨attached_of_eq rfl rfl, rfl⟩
  · have hfail : Attached r { r.failClosed with outputs := outputs } := ⟨rfl, ho⟩
    rw [h]
    exact .inr (hfail.cut cancelPairing_cut)
  · rw [h]
    exact .inl ⟨⟨rfl, ho⟩, rfl⟩

theorem inquiryResult_attached (result : InquiryResult) : Attached r (Receiver.inquiryResult p r result) := by
  rcases inquiryResult_eq (p := p) r result with h | ⟨outputs, ho, h⟩
  · rw [h]
    exact .refl r
  · rw [h]
    exact ⟨rfl, ho⟩

/-- An offered candidate is no part of what the bond serves. -/
theorem inquiryResult_moves (result : InquiryResult) : Moves r (Receiver.inquiryResult p r result) := by
  have ha := inquiryResult_attached (p := p) (r := r) result
  rcases inquiryResult_bond (p := p) (r := r) result with hb | hb
  · exact .of_bond ha hb
  · exact .inl ⟨ha, congrArg Bond.controllerAddress hb, congrArg Bond.controllerAddressValid hb⟩

theorem consumeControllerReport_attached (report : List UInt8) (nowMs : UInt32) :
    Attached r (r.consumeControllerReport report nowMs) := by
  obtain ⟨rearm, last, mapper, wanted, started, confirmed, outputs, ho, h⟩ := r.consumeControllerReport_eq report nowMs
  rw [h]
  exact ⟨rfl, ho⟩

theorem scanExpired_attached (nowMs : UInt32) (status : UInt8) : Attached r (r.scanExpired nowMs status) := by
  obtain ⟨requested, active, timer, outputs, -, ho, h⟩ := r.scanExpired_eq nowMs status
  rw [h]
  exact ⟨rfl, ho⟩

/-- A connect that BTstack refuses is not made, or is made with no connection known. -/
theorem connectController_refused {status : UInt8} (hs : status ≠ kSuccess) (newCid : UInt16) :
    r.connectController status newCid = r ∨ Cut r (r.connectController status newCid) := by
  unfold connectController
  split
  · exact .inl rfl
  · rename_i hfree
    push Not at hfree
    refine .inr ⟨fun o ho => ?_, fun hne => absurd hfree.1 hne⟩
    have hconnect : o ∈ (r.emit (.connect r.controllerAddress)).outputs := List.mem_append_left _ ho
    dsimp only
    split
    · exact List.mem_append_left _ hconnect
    · exact hconnect

theorem reconnectExpired_follows {status : UInt8} (hs : status ≠ kSuccess) (newCid : UInt16) :
    Follows r (r.reconnectExpired status newCid) := by
  unfold reconnectExpired
  split
  · have hexpired : Attached r ({ r with reconnectTimer := none } : Receiver) := attached_of_eq rfl rfl
    rcases connectController_refused (r := { r with reconnectTimer := none }) hs newCid with he | hc
    · rw [he]
      exact .inl ⟨hexpired, rfl⟩
    · exact .inr (hexpired.cut hc)
  · exact .refl r

end Receiver

/-! ## The link between events -/

namespace World

open Receiver

variable {p : Platform}

/-- A connect that BTstack takes is to a valid address, and known by its ID. -/
theorem connected {r : Receiver} {cid : UInt16} {a : BdAddr}
    (h : connectTarget (Receiver.step p r (.bluetooth (.reconnectTimer kSuccess cid))).outputs = some a) :
    (Receiver.step p r (.bluetooth (.reconnectTimer kSuccess cid))).hidCid = cid ∧ r.controllerAddressValid = true ∧
      a = r.controllerAddress := by
  simp only [Receiver.step, bluetooth, reconnectExpired, connectController] at h ⊢
  split at h
  · split at h
    · cases h
    · rename_i ht hv
      push Not at hv
      have hvalid : r.silent.controllerAddressValid = true := by simpa using hv.2
      rw [if_pos ht, if_neg (by push Not; exact hv)]
      have ha : some r.controllerAddress = some a := h
      exact ⟨rfl, hvalid, (Option.some.inj ha).symm⟩
  · cases h

/-- An incoming connection that is accepted is known by its ID. -/
theorem accepted {r : Receiver} {cid : UInt16} :
    (Receiver.step p r (.bluetooth (.incomingConnection r.controllerAddress cid kSuccess kSuccess))).hidCid = cid := by
  have hno : ¬ (kSuccess ≠ kSuccess ∨ r.controllerAddress ≠ r.silent.controllerAddress) := by
    rintro (h | h)
    · exact h rfl
    · exact h rfl
  simp only [Receiver.step, bluetooth, incomingConnection, if_neg hno]
  rfl

/-- What an event does to the connection: it ends it, brings a new one to the address in the buffer, opens the
one there is, or leaves it to what the receiver requests. -/
inductive LinkStep (w : World) (e : Event) : World → Prop
  | ended (r : Receiver) : LinkStep w e { receiver := r }
  | connected {r : Receiver} (hne : r.hidCid ≠ 0) (hb : r.bond = w.receiver.bond)
      (hfrom : w.receiver.controllerAddressValid = true ∨ w.receiver.controllerAddress ∈ e.incoming) :
      LinkStep w e { receiver := r, link := some { cid := r.hidCid, peer := w.receiver.controllerAddress } }
  | opened {r : Receiver} (hcid : w.link.map Link.cid = some r.hidCid) (hb : r.bond = w.receiver.bond) :
      LinkStep w e { receiver := r, link := w.link.map (·.after r.outputs) }
  | kept {r : Receiver} (hm : Moves w.receiver.silent r) :
      LinkStep w e { receiver := r, link := w.link.map (·.after r.outputs) }

/-- A link keeps its ID, and a new one has an ID that is not 0. -/
theorem LinkStep.cid_ne {w w' : World} {e : Event} (h : LinkStep w e w') (hw : ∀ l ∈ w.link, l.cid ≠ 0) :
    ∀ l ∈ w'.link, l.cid ≠ 0 := by
  have hafter : ∀ outputs, ∀ l' ∈ w.link.map (·.after outputs), l'.cid ≠ 0 := by
    intro outputs l' hl'
    obtain ⟨l, hmem, rfl⟩ := Option.map_eq_some_iff.1 hl'
    exact hw l hmem
  cases h with
  | ended r => exact fun _ hl => (Option.not_mem_none _ hl).elim
  | connected hne =>
    intro l hl
    cases hl
    exact hne
  | opened => exact hafter _
  | kept => exact hafter _

theorem incoming_linkStep {w : World} (address : BdAddr) (cid : UInt16) (status acceptStatus : UInt8)
    (hen : Enabled w (.bluetooth (.incomingConnection address cid status acceptStatus))) :
    LinkStep w (.bluetooth (.incomingConnection address cid status acceptStatus))
      (w.step p (.bluetooth (.incomingConnection address cid status acceptStatus))) := by
  have hb : (Receiver.step p w.receiver (.bluetooth (.incomingConnection address cid status acceptStatus))).bond =
      w.receiver.bond := incomingConnection_bond (r := w.receiver.silent) address cid status acceptStatus
  have hacc := accepts_iff (p := p) w.receiver address cid status acceptStatus
  unfold World.step linkAfter
  dsimp only
  by_cases hin : status = kSuccess ∧ address = w.receiver.controllerAddress
  · obtain ⟨rfl, rfl⟩ := hin
    obtain ⟨hlink, hne⟩ := hen.1 cid rfl
    by_cases ha : acceptStatus = kSuccess
    · subst ha
      have hcid : (Receiver.step p w.receiver
          (.bluetooth (.incomingConnection w.receiver.controllerAddress cid kSuccess kSuccess))).hidCid = cid := accepted
      rw [if_pos (by simp [hacc.2])]
      have hnew := LinkStep.connected (w := w)
        (e := .bluetooth (.incomingConnection w.receiver.controllerAddress cid kSuccess kSuccess))
        (by rw [hcid]; exact hne) hb (.inr (incoming_success ..))
      rw [hcid] at hnew
      exact hnew
    · rw [if_neg (by simp [ha]), hlink]
      exact .ended _
  · have hout : Receiver.step p w.receiver (.bluetooth (.incomingConnection address cid status acceptStatus)) =
        w.receiver.silent.emit (.decline cid) := by
      have hcond : status ≠ kSuccess ∨ address ≠ w.receiver.silent.controllerAddress := not_and_or.1 hin
      simp only [Receiver.step, bluetooth, incomingConnection, if_pos hcond]
    rw [if_neg (by simp [mt hacc.1 hin]), hout]
    exact .kept (.of_bond (emit_attached _) rfl)

theorem reconnect_linkStep {w : World} (status : UInt8) (cid : UInt16)
    (hen : Enabled w (.bluetooth (.reconnectTimer status cid))) :
    LinkStep w (.bluetooth (.reconnectTimer status cid)) (w.step p (.bluetooth (.reconnectTimer status cid))) := by
  have hb : (Receiver.step p w.receiver (.bluetooth (.reconnectTimer status cid))).bond = w.receiver.bond :=
    reconnectExpired_bond (r := w.receiver.silent) status cid
  unfold World.step linkAfter
  by_cases hs : status = kSuccess
  · subst hs
    obtain ⟨hlink, hne⟩ := hen.1 cid rfl
    rw [hlink]
    dsimp only
    split
    · rename_i a ha
      obtain ⟨hc, hv, rfl⟩ := connected ha
      have hnew := LinkStep.connected (w := w) (e := .bluetooth (.reconnectTimer kSuccess cid))
        (by rw [hc]; exact hne) hb (.inl hv)
      rw [hc] at hnew
      exact hnew
    · exact .ended _
  · have hmoves : Moves w.receiver.silent (Receiver.step p w.receiver (.bluetooth (.reconnectTimer status cid))) :=
      (reconnectExpired_follows (r := w.receiver.silent) hs cid).moves
    dsimp only
    split
    · rw [if_neg hs]
      exact .kept hmoves
    · exact .kept hmoves

/-- An opened event keeps the link, which is the one it names, or ends it. -/
theorem opened_linkStep {w : World} (status : UInt8) (cid : UInt16)
    (hen : Enabled w (.bluetooth (.connectionOpened status cid))) :
    LinkStep w (.bluetooth (.connectionOpened status cid)) (w.step p (.bluetooth (.connectionOpened status cid))) := by
  have hb : (Receiver.step p w.receiver (.bluetooth (.connectionOpened status cid))).bond = w.receiver.bond :=
    connectionOpened_bond (r := w.receiver.silent) status cid
  unfold World.step linkAfter
  dsimp only
  split
  · rename_i hs
    have hcid : (Receiver.step p w.receiver (.bluetooth (.connectionOpened status cid))).hidCid = cid := by
      simp only [Receiver.step, bluetooth, connectionOpened, if_pos hs]
      rfl
    exact .opened (by rw [hcid]; exact hen.2.1 cid rfl) hb
  · exact .ended _

/-- All that an event which BTstack can bring does to the connection. -/
theorem step_link (w : World) (e : Event) (hen : Enabled w e) : LinkStep w e (w.step p e) := by
  cases e with
  | bluetooth b =>
    cases b with
    | inquiryResult result => exact .kept (inquiryResult_moves result)
    | inquiryComplete =>
      refine .kept (.of_bond ?_ (inquiryComplete_bond (r := w.receiver.silent)))
      obtain ⟨outputs, ho, h⟩ := w.receiver.silent.inquiryComplete_eq
      simp only [Receiver.step, bluetooth, h]
      exact ⟨rfl, ho⟩
    | state working =>
      refine .kept ?_
      simp only [Receiver.step, bluetooth]
      split
      · exact .of_bond (attached_of_eq rfl rfl) rfl
      · exact .refl _
    | pinCodeRequest address => exact .kept (.of_bond (emit_attached _) rfl)
    | userConfirmationRequest address =>
      refine .kept (.of_bond ?_ (userConfirmationRequest_bond address))
      simp only [Receiver.step, bluetooth, userConfirmationRequest]
      split
      · exact emit_attached _
      · exact emit_attached _
    | incomingConnection address cid status acceptStatus => exact incoming_linkStep address cid status acceptStatus hen
    | connectionOpened status cid => exact opened_linkStep status cid hen
    | descriptorAvailable status descriptor digest =>
      exact .kept (descriptorAvailable_follows status descriptor digest).moves
    | report report nowMs =>
      exact .kept (.of_bond (consumeControllerReport_attached report nowMs) (consumeControllerReport_bond report nowMs))
    | connectionClosed => exact .ended _
    | reconnectTimer status cid => exact reconnect_linkStep status cid hen
    | scanTimer nowMs status => exact .kept (.of_bond (scanExpired_attached nowMs status) (scanExpired_bond nowMs status))
  | usb cb => exact .kept (.of_bond (attached_of_eq rfl rfl) rfl)
  | setupSession cdc cs => exact .kept (setupSession_moves cdc cs)
  | serviceStaleInput nowMs =>
    refine .kept (.of_bond ?_ (serviceStaleInput_bond nowMs))
    simp only [Receiver.step, serviceStaleInput]
    split
    · exact attached_of_eq rfl rfl
    · exact .refl _
  | serviceUsbKeyboard a =>
    refine .kept (.of_bond ?_ (serviceUsbKeyboard_bond a))
    simp only [Receiver.step, serviceUsbKeyboard]
    split
    · exact ⟨rfl, fun _ ho => List.mem_append_left _ ho⟩
    · exact attached_of_eq rfl rfl

end World

end RedMonkeyMpg.Gamepad
