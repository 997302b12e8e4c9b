/-
The accepted address over every run from the boot. Between events, and with no candidate selected,
the address the receiver connects to and accepts is the committed one, or the compiled default when
none is committed; a selected candidate's address is the one its text names. When there is neither
a committed address nor a default, the rollback parses nothing and the buffer keeps what a
candidate left there: only that address can be accepted wrongly.
-/
import RedMonkeyMpg.Gamepad.Events

namespace RedMonkeyMpg.Gamepad

variable {p : Platform}

/-! ## The bond's invariant -/

namespace Bond

/-- The address that may be accepted and connected to when no candidate is selected: the committed
one, or the compiled default. -/
def effective (p : Platform) (b : Bond) : Option BdAddr :=
  if b.addressText = [] then p.sscanfBdAddr (Receiver.addressBuffer p.controllerAddress)
  else parseAddress (some b.addressText)

structure Kept (p : Platform) (b : Bond) : Prop where
  text : TextOk b.addressText
  candidateText : b.candidateControllerAddress = [] ∨ ∃ a, b.candidateControllerAddress = formatAddress a
  valid : b.pairingCandidateSelected = false → b.controllerAddressValid = (b.effective p).isSome
  address : b.pairingCandidateSelected = false → ∀ a, b.effective p = some a → b.controllerAddress = a
  chosen : b.pairingCandidateSelected = true →
    b.controllerAddressValid = true ∧ b.activeControllerAddress = formatAddress b.controllerAddress

variable {b b' : Bond}

/-- The text of an address fits its buffer. -/
theorem addressBuffer_formatAddress (a : BdAddr) : Receiver.addressBuffer (formatAddress a) = formatAddress a := rfl

/-- The text a rollback restores parses to the effective address. -/
theorem sscanf_fallback (hp : p.Documented) (h : TextOk b.addressText) :
    p.sscanfBdAddr (b.fallback p) = b.effective p := by
  unfold fallback effective
  rcases h with h | ⟨a, ha, h⟩
  · rw [if_pos h, if_pos h]
    rfl
  · have hne : b.addressText ≠ [] := h ▸ formatAddress_ne_nil a
    rw [if_neg hne, if_neg hne, h]
    show p.sscanfBdAddr (Receiver.addressBuffer (formatAddress a)) = _
    rw [addressBuffer_formatAddress, hp.sscanf, parseAddress_formatAddress ha]

theorem move_kept (hp : p.Documented) (h : Kept p b) (hm : Move p b b') : Kept p b' := by
  cases hm with
  | found a =>
    refine ⟨h.text, .inr ⟨a, ?_⟩, h.valid, h.address, h.chosen⟩
    show Receiver.addressBuffer (p.bdAddrToStr a) = formatAddress a
    rw [hp.toStr, addressBuffer_formatAddress]
  | restored =>
    have he := sscanf_fallback hp h.text
    refine ⟨h.text, h.candidateText, fun _ => ?_, fun _ a ha => ?_, fun hc => (Bool.false_ne_true hc).elim⟩
    · show (p.sscanfBdAddr (b.fallback p)).isSome = _
      rw [he]
      rfl
    · show (p.sscanfBdAddr (b.fallback p)).getD b.controllerAddress = a
      rw [he, show b.effective p = some a from ha]
      rfl
  | dropped hno => exact ⟨h.text, .inl rfl, h.valid, h.address, h.chosen⟩
  | selected parsed hne hparsed =>
    refine ⟨h.text, h.candidateText, fun hc => (Bool.false_ne_true hc.symm).elim,
      fun hc => (Bool.false_ne_true hc.symm).elim, fun _ => ⟨rfl, ?_⟩⟩
    obtain ⟨a, ha⟩ := h.candidateText.resolve_left hne
    rw [ha, hp.sscanf] at hparsed
    show Receiver.addressBuffer b.candidateControllerAddress = formatAddress parsed
    rw [← Option.some.inj hparsed, ha, addressBuffer_formatAddress]
  | committed a hc hparsed =>
    have hvalid := parseAddress_valid hparsed
    rw [(h.chosen hc).2] at hparsed
    have ha : b.controllerAddress = a := by
      have hs := (Option.filter_eq_some_iff.1 hparsed).1
      rw [Option.bind_some, scanAddress_formatAddress] at hs
      exact Option.some.inj hs
    have he : effective p { b with addressText := formatAddress a, pairingCandidateSelected := false } = some a := by
      unfold effective
      rw [if_neg (formatAddress_ne_nil a)]
      exact parseAddress_formatAddress hvalid
    refine ⟨.inr ⟨a, hvalid, rfl⟩, h.candidateText, fun _ => ?_, fun _ a' ha' => ?_,
      fun hc' => (Bool.false_ne_true hc').elim⟩
    · rw [he]
      exact (h.chosen hc).1
    · rw [he] at ha'
      exact ha.trans (Option.some.inj ha')

theorem moves_kept (hp : p.Documented) (h : Kept p b) (hm : Moves p b b') : Kept p b' := by
  induction hm with
  | refl => exact h
  | tail _ hm ih => exact move_kept hp ih hm

end Bond

namespace Receiver

theorem boot_kept (hp : p.Documented) (flash : Flash) (reads : Option Flash) :
    Bond.Kept p (boot p flash reads).bond := by
  have htext : TextOk (boot p flash reads).bond.addressText := load_textOk reads
  have he := Bond.sscanf_fallback hp htext
  refine ⟨htext, .inl rfl, fun _ => ?_, fun _ a ha => ?_, fun hc => (Bool.false_ne_true hc).elim⟩
  · rw [← he]
    rfl
  · rw [← he] at ha
    show (p.sscanfBdAddr ((boot p flash reads).bond.fallback p)).getD _ = a
    rw [ha]
    rfl

theorem step_kept (hp : p.Documented) (r : Receiver) (e : Event) (h : Bond.Kept p r.bond) :
    Bond.Kept p (step p r e).bond :=
  Bond.moves_kept hp h (step_bond r e)

/-! ## The accepted address -/

/-- An incoming connection is accepted exactly when it succeeded and comes from the buffer's address. -/
theorem accepts_iff (r : Receiver) (address : BdAddr) (cid : UInt16) (status acceptStatus : UInt8) :
    Output.accept cid ∈ (step p r (.bluetooth (.incomingConnection address cid status acceptStatus))).outputs ↔
      status = kSuccess ∧ address = r.controllerAddress := by
  simp only [step, bluetooth, incomingConnection]
  split
  · rename_i h
    refine ⟨fun hm => ?_, fun hok => ?_⟩
    · have hmem : Output.accept cid ∈ [Output.decline cid] := hm
      simp at hmem
    · rcases h with h | h
      · exact absurd hok.1 h
      · exact absurd hok.2 h
  · rename_i h
    push Not at h
    refine ⟨fun _ => h, fun _ => ?_⟩
    have hmem : Output.accept cid ∈ [Output.accept cid] := List.mem_singleton_self _
    split <;> exact hmem

/-- An outgoing connection goes to the buffer's address, and only when it is valid. -/
theorem connects_to {r : Receiver} {status : UInt8} {cid : UInt16} {a : BdAddr}
    (h : Output.connect a ∈ (step p r (.bluetooth (.reconnectTimer status cid))).outputs) :
    r.controllerAddressValid = true ∧ a = r.controllerAddress := by
  simp only [step, bluetooth, reconnectExpired, connectController] at h
  split at h
  · split at h
    · cases h
    · rename_i hv
      push Not at hv
      have hone : ∀ os : List Output, (∀ o ∈ os, ∃ cid, o = .disconnect cid) →
          Output.connect a ∈ Output.connect r.controllerAddress :: os → a = r.controllerAddress := by
        intro os hos hm
        rcases List.mem_cons.1 hm with hm | hm
        · cases hm
          rfl
        · obtain ⟨c, hc⟩ := hos _ hm
          cases hc
      have hvalid : r.silent.controllerAddressValid = true := by simpa using hv.2
      refine ⟨hvalid, ?_⟩
      split at h
      · split at h
        · exact hone [.disconnect r.lastHidCid] (by simp) h
        · exact hone [] (by simp) h
      · exact hone [] (by simp) h
  · cases h

/-- With no candidate selected, a connection is accepted only from the effective address, and
outgoing connections go to it. -/
def AcceptLaw (p : Platform) (r : Receiver) : Event → Prop
  | .bluetooth (.incomingConnection address cid status acceptStatus) =>
    r.pairingCandidateSelected = false →
      Output.accept cid ∈ (step p r (.bluetooth (.incomingConnection address cid status acceptStatus))).outputs →
      r.bond.effective p = some address
  | .bluetooth (.reconnectTimer status cid) =>
    r.pairingCandidateSelected = false → ∀ address,
      Output.connect address ∈ (step p r (.bluetooth (.reconnectTimer status cid))).outputs →
      r.bond.effective p = some address
  | _ => True

/-- The address of an incoming connection that succeeded. -/
def Event.incoming : Event → Option BdAddr
  | .bluetooth (.incomingConnection address _ status _) => if status = kSuccess then some address else none
  | _ => none

theorem incoming_success (address : BdAddr) (cid : UInt16) (acceptStatus : UInt8) :
    address ∈ (Event.bluetooth (.incomingConnection address cid kSuccess acceptStatus)).incoming := rfl

/-- With no candidate selected and no effective address, no connection comes in from the address
that is left in the buffer. -/
def NotRetained (p : Platform) (r : Receiver) (e : Event) : Prop :=
  ∀ address ∈ e.incoming, r.pairingCandidateSelected = false → r.bond.effective p = none →
    address ≠ r.controllerAddress

instance (r : Receiver) (e : Event) : Decidable (NotRetained p r e) :=
  inferInstanceAs (Decidable (∀ address ∈ e.incoming, _))

theorem acceptLaw_iff_notRetained (r : Receiver) (e : Event) (h : Bond.Kept p r.bond) :
    AcceptLaw p r e ↔ NotRetained p r e := by
  have hnone : e.incoming = none → NotRetained p r e := by
    rintro he address ha
    rw [he] at ha
    cases ha
  unfold AcceptLaw
  split
  · rename_i address cid status acceptStatus
    rw [accepts_iff]
    constructor
    · intro hlaw a ha hfree he
      have hsome : (if status = kSuccess then some address else none) = some a := ha
      split_ifs at hsome with hs
      cases hsome
      rintro rfl
      rw [hlaw hfree ⟨hs, rfl⟩] at he
      cases he
    · rintro hno hfree ⟨rfl, rfl⟩
      cases he : r.bond.effective p with
      | none => exact absurd rfl (hno _ (incoming_success ..) hfree he)
      | some a => exact congrArg some (h.address hfree a he).symm
  · refine ⟨fun _ => hnone rfl, fun _ hfree a hconnect => ?_⟩
    obtain ⟨hvalid, rfl⟩ := connects_to hconnect
    have hsome : (r.bond.effective p).isSome = true := (h.valid hfree).symm.trans hvalid
    obtain ⟨a, ha⟩ := Option.isSome_iff_exists.1 hsome
    rw [ha]
    exact congrArg some (h.address hfree a ha).symm
  · rename_i hin hout
    refine ⟨fun _ => hnone ?_, fun _ => trivial⟩
    unfold Event.incoming
    split
    · exact absurd rfl (hin _ _ _ _)
    · rfl

/-- Over every run from the boot, a connection without a candidate is accepted from the effective
address only, and outgoing ones go to it, exactly when no incoming connection comes from an address
left in the buffer while there is no effective one. -/
theorem accepted_address_iff (hp : p.Documented) (flash : Flash) (reads : Option Flash) (es : List Event) :
    Run.Always (step p) (AcceptLaw p) (boot p flash reads) es ↔
      Run.Always (step p) (NotRetained p) (boot p flash reads) es :=
  Run.always_congr (fun r e h _ => step_kept hp r e h) acceptLaw_iff_notRetained es (boot_kept hp flash reads)

/-- The default address of the build file. -/
def buildAddress : BdAddr := ⟨0x00, 0x00, 0x5E, 0x00, 0x53, 0x01⟩

def buildPlatform : Platform := .plain (formatAddress buildAddress)

/-- A connection from the compiled default address of a receiver that has committed none. -/
theorem accepted_address_default :
    Run.Always (step buildPlatform) (AcceptLaw buildPlatform) (boot buildPlatform (fun _ => none) none)
      [.bluetooth (.incomingConnection buildAddress 7 kSuccess kSuccess)] :=
  (accepted_address_iff (Platform.plain_documented _) _ _ _).2 (by decide +kernel)

/-- The address of a controller in setup. -/
def candidate : BdAddr := ⟨0xE4, 0x17, 0xD8, 1, 2, 3⟩

/-- A setup session that scans, finds a Lite 2 and selects it. -/
def selectCandidate : List Event :=
  [.setupSession true [.startScan 1000], .bluetooth (.scanTimer 1750 kSuccess),
    .bluetooth (.inquiryResult { address := candidate, deviceClass := kLite2DeviceClass }),
    .setupSession true [.pairCandidate (formatAddress candidate)]]

/-- A receiver without a committed or a default address selects a candidate; the session closes,
and the candidate is still accepted. -/
theorem accepted_candidate :
    ¬ ∀ (flash : Flash) (reads : Option Flash) (es : List Event),
      Run.Always (step (Platform.plain [])) (AcceptLaw (Platform.plain [])) (boot (Platform.plain []) flash reads) es := by
  intro h
  have hrun := h (fun _ => none) none
    (selectCandidate ++ [.setupSession false [], .bluetooth (.incomingConnection candidate 7 kSuccess kSuccess)])
  have hlast := ((Run.always_append _ _ _ _).1 hrun).2.2.1 (by decide +kernel) (by decide +kernel)
  revert hlast
  decide +kernel

end Receiver

end RedMonkeyMpg.Gamepad
