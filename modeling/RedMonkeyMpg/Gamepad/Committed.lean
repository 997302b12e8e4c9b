/-
Only a committed controller drives the machine, over the runs of the receiver and its connection.
It holds as long as no report of a link that is being disconnected reaches an armed receiver, and
no connection is accepted from an address left in the buffer: after a cancelled candidate the
receiver forgets the candidate, but not the descriptor it accepted, and may be armed and driven by
the link's last reports.
-/
import RedMonkeyMpg.Gamepad.Gate
import RedMonkeyMpg.Gamepad.Link

namespace RedMonkeyMpg.Gamepad.World

open Receiver

variable {p : Platform}

/-! ## Every event keeps the link -/

/-- A link has an ID; one that is not closing is the one the receiver knows, and the bond serves its
peer. -/
structure Joined (p : Platform) (w : World) : Prop where
  kept : Bond.Kept p w.receiver.bond
  cid : ∀ l ∈ w.link, l.cid ≠ 0
  serves : ∀ l ∈ w.link, l.closing = false →
    w.receiver.hidCid = l.cid ∧ w.receiver.bond.Serves p l.peer

theorem joined_none {r : Receiver} (hk : Bond.Kept p r.bond) : Joined p { receiver := r, link := none } :=
  ⟨hk, fun _ hl => (Option.not_mem_none _ hl).elim, fun _ hl => (Option.not_mem_none _ hl).elim⟩

/-- A connection to the address in the buffer serves it, unless that address was only left there. -/
theorem serves_connected {w : World} {e : Event} (hk : Bond.Kept p w.receiver.bond) (hno : NotRetained p w.receiver e)
    (hfrom : w.receiver.controllerAddressValid = true ∨ w.receiver.controllerAddress ∈ e.incoming) :
    w.receiver.bond.Serves p w.receiver.controllerAddress := by
  rcases hfrom with hv | hin
  · exact hk.serves hv
  · refine ⟨rfl, fun hfree => ?_⟩
    cases he : w.receiver.bond.effective p with
    -- no address is effective, so the peer is only the one left in the buffer
    | none => exact absurd rfl (hno _ hin hfree he)
    | some a =>
      rw [← hk.address hfree a he]
      rfl

/-- Every event that BTstack can bring keeps the link, but for a connection accepted from an address
left in the buffer. -/
theorem step_joined (hp : p.Documented) (w : World) (e : Event) (h : Joined p w) (hen : Enabled w e)
    (hno : NotRetained p w.receiver e) : Joined p (w.step p e) := by
  have hk : Bond.Kept p (w.step p e).receiver.bond := step_kept hp w.receiver e h.kept
  have hlink := step_link (p := p) w e hen
  generalize w.step p e = w' at hk hlink ⊢
  refine ⟨hk, hlink.cid_ne h.cid, fun l' hl' hopen => ?_⟩
  cases hlink with
  | ended r => exact (Option.not_mem_none _ hl').elim
  | connected hne hb hfrom =>
    cases hl'
    rw [hb]
    exact ⟨rfl, serves_connected h.kept hno hfrom⟩
  | opened hcid hb =>
    obtain ⟨l, hmem, rfl⟩ := Option.map_eq_some_iff.1 hl'
    rw [show w.link = some l from hmem] at hcid
    rw [hb]
    exact ⟨(Option.some.inj hcid).symm, (h.serves l hmem (Bool.or_eq_false_iff.1 hopen).1).2⟩
  | @kept r hm =>
    obtain ⟨l, hmem, rfl⟩ := Option.map_eq_some_iff.1 hl'
    simp only [Link.after, Bool.or_eq_false_iff, List.contains_eq_mem, decide_eq_false_iff_not] at hopen
    have hstart : Linked p l.cid l.peer w.receiver.silent := fun _ => h.serves l hmem hopen.1
    have hkept : Bond.Kept p w.receiver.silent.bond := h.kept
    have hlinked : Linked p l.cid l.peer r := hstart.moves (h.cid l hmem) hkept hk hm
    exact hlinked hopen.2

/-! ## The law and its condition -/

/-- A report that leaves a key wanted comes over the link of a peer whose address is committed, or
the compiled default when none is. -/
def CommittedOnly (p : Platform) (w : World) (e : Event) : Prop :=
  e.reportMs ≠ none → reportHasKey (Receiver.step p w.receiver e).usb.desired = true →
    ∃ l ∈ w.link, w.receiver.bond.effective p = some l.peer

/-- No report of a link that is being disconnected reaches a receiver that is armed and unattended,
but from the effective address; and no connection comes in from an address left in the buffer. -/
def Settled (p : Platform) (w : World) (e : Event) : Prop :=
  (e.reportMs ≠ none → w.receiver.Unattended → w.receiver.rearmRequired = false →
    ∀ l ∈ w.link, l.closing = true → w.receiver.bond.effective p = some l.peer) ∧
  NotRetained p w.receiver e

instance (w : World) (e : Event) : Decidable (CommittedOnly p w e) :=
  inferInstanceAs (Decidable (_ → _ → ∃ l ∈ w.link, _))

instance (w : World) (e : Event) : Decidable (Settled p w e) :=
  inferInstanceAs (Decidable ((_ → _ → _ → ∀ l ∈ w.link, _) ∧ _))

theorem committedOnly_of_joined {w : World} {e : Event} (h : Joined p w) (hen : Enabled w e) (hs : Settled p w e) :
    CommittedOnly p w e := by
  intro he hkey
  obtain ⟨l, hl⟩ := Option.ne_none_iff_exists'.1 (hen.2.2 he)
  refine ⟨l, hl, ?_⟩
  obtain ⟨bytes, nowMs, raw, -, -, -, -, -, hu, harmed⟩ : Drives _ w.receiver e := by
    rcases step_key (p := p) hkey w.receiver e rfl with hd | ⟨-, hno⟩
    · exact hd
    · exact absurd (.inl he) hno
  cases hc : l.closing with
  -- the receiver forgot this link when it asked for the disconnect: only the condition names its peer
  | true => exact hs.1 he hu harmed l hl hc
  | false => exact (h.serves l hl hc).2.2 hu.2

/-- In every run from the boot whose steps are settled, only reports of a committed controller leave
a key wanted. -/
theorem committed_only (hp : p.Documented) (flash : Flash) (reads : Option Flash) (es : List Event)
    (hen : Run.Always (step p) Enabled (boot p flash reads) es)
    (hs : Run.Always (step p) (Settled p) (boot p flash reads) es) :
    Run.Always (step p) (CommittedOnly p) (boot p flash reads) es :=
  Run.always_of_invariant (fun w e h he => step_joined hp w e h he.1 he.2.2)
    (fun _ _ h he => committedOnly_of_joined h he.1 he.2) (hen.and hs) (joined_none (boot_kept hp flash reads))

/-- A controller connects, is armed and drives. -/
def drives (a : BdAddr) (cid : UInt16) : List Event :=
  [.bluetooth (.incomingConnection a cid kSuccess kSuccess), .bluetooth (.connectionOpened kSuccess cid),
    .bluetooth (.descriptorAvailable kSuccess (some (List.replicate 83 0)) none),
    .bluetooth (.report (lite2Report 0x00 127) 10), .bluetooth (.report (lite2Report 0x01 0) 20)]

/-- The compiled default's controller drives; a session scans, and a candidate is selected and connects; the
session closes, and the default's controller comes back. -/
def defaultDrives : List Event :=
  drives buildAddress 7 ++ selectCandidate ++
    [.bluetooth .connectionClosed, .bluetooth (.reconnectTimer kSuccess 8), .bluetooth (.connectionOpened kSuccess 8),
      .bluetooth (.descriptorAvailable kSuccess (some (List.replicate 83 0)) none), .setupSession false [],
      .bluetooth .connectionClosed] ++
    drives buildAddress 9

/-- A key is wanted at the end, and only the default's controller drove. -/
theorem committed_only_default :
    reportHasKey (Run.exec (step buildPlatform) (boot buildPlatform (fun _ => none) none) defaultDrives).receiver.usb.desired =
        true ∧
      Run.Always (step buildPlatform) (CommittedOnly buildPlatform) (boot buildPlatform (fun _ => none) none) defaultDrives :=
  ⟨by decide +kernel,
    committed_only (Platform.plain_documented _) (fun _ => none) none defaultDrives (by decide +kernel) (by decide +kernel)⟩

/-- A selected candidate connects with a supported descriptor, and the session closes before it is
confirmed; before its closed event it sends a neutral report and a held one. -/
def abandonedDrives : List Event :=
  selectCandidate ++
    [.bluetooth (.reconnectTimer kSuccess 7), .bluetooth (.connectionOpened kSuccess 7),
      .bluetooth (.descriptorAvailable kSuccess (some (List.replicate 83 0)) none), .setupSession false [],
      .bluetooth (.report (lite2Report 0x00 127) 10), .bluetooth (.report (lite2Report 0x01 0) 20)]

/-- A candidate that was never confirmed drives the machine while its link closes. -/
theorem abandoned_drives :
    ¬ ∀ (flash : Flash) (reads : Option Flash) (es : List Event),
      Run.Always (step buildPlatform) Enabled (boot buildPlatform flash reads) es →
      Run.Always (step buildPlatform) (CommittedOnly buildPlatform) (boot buildPlatform flash reads) es := by
  intro h
  have hlaw := h (fun _ => none) none abandonedDrives (by decide +kernel)
  revert hlaw
  decide +kernel

end RedMonkeyMpg.Gamepad.World
