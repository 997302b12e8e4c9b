/-
One response per request. Every frame of what was read is answered once, in order, and its response is
complete when it was queued whole. Backpressure is asked for at the start of a pass only, and a pass may
answer many frames; it reads with an empty queue, so it drops nothing when the lines that it adds fit the
queue together, whatever USB takes. What it adds is bounded by what the frames that its bytes complete
are charged.
-/
import RedMonkeyMpg.Setup.Service
import RedMonkeyMpg.Setup.Transaction

namespace RedMonkeyMpg.Setup

open Framing (Frame)

/-! ## Complete responses -/

namespace Entry

/-- The frame of a response that was queued whole. -/
def complete : Entry → Option (Frame UInt8)
  | .response frame reply _ queued => if queued ∧ reply.Uncut then some frame else none
  | _ => none

theorem complete_le (e : Entry) : e.complete = none ∨ e.complete = e.frame := by
  cases e with
  | response frame reply pending queued =>
    by_cases hboth : queued = true ∧ reply.Uncut
    · exact .inr (if_pos hboth)
    · exact .inl (if_neg hboth)
  | notice n pending queued => exact .inl rfl
  | closed => exact .inl rfl

end Entry

/-- A partial map that gives the same results as another gives every one of them. -/
theorem filterMap_eq_iff {α β : Type*} {f g : α → Option β} (h : ∀ a, f a = none ∨ f a = g a) (l : List α) :
    l.filterMap f = l.filterMap g ↔ ∀ a ∈ l, f a = g a := by
  have hle : ∀ l : List α, (l.filterMap f).length ≤ (l.filterMap g).length := by
    intro l
    induction l with
    | nil => exact Nat.le_refl _
    | cons a l ih =>
      rw [List.filterMap_cons, List.filterMap_cons]
      rcases h a with ha | ha
      · rw [ha]
        cases g a with
        | none => exact ih
        | some b => exact Nat.le_succ_of_le ih
      · rw [ha]
        cases g a with
        | none => exact ih
        | some b => exact Nat.succ_le_succ ih
  induction l with
  | nil => exact iff_of_true rfl nofun
  | cons a l ih =>
    rw [List.filterMap_cons, List.filterMap_cons, List.forall_mem_cons]
    constructor
    · intro heq
      cases hg : g a with
      | none =>
        have hf : f a = none := by
          rcases h a with ha | ha
          · exact ha
          · rw [ha, hg]
        rw [hf, hg] at heq
        exact ⟨hf, ih.1 heq⟩
      | some b =>
        rcases h a with ha | ha
        · -- a result that is missing leaves too few
          rw [ha, hg] at heq
          have hcons : l.filterMap f = b :: l.filterMap g := heq
          have hlen := hle l
          rw [hcons, List.length_cons] at hlen
          omega
        · rw [ha, hg] at heq
          exact ⟨ha.trans hg, ih.1 (List.cons.inj heq).2⟩
    · rintro ⟨ha, hl⟩
      rw [ha, ih.2 hl]

namespace World

variable {σ : Type} {host : Host σ} {w : World σ}

/-- Every frame of what was read has exactly one complete response in the queue's record, in order. -/
def Answered (w : World σ) : Prop := w.log.filterMap Entry.complete = framing.frames w.read

instance (w : World σ) : Decidable w.Answered := inferInstanceAs (Decidable (_ = _))

theorem answered_iff_complete (hf : Framed w) : Answered w ↔ ∀ e ∈ w.log, e.complete = e.frame := by
  unfold Answered
  rw [← hf.answered]
  exact filterMap_eq_iff Entry.complete_le w.log

end World

/-! ## Passes whose lines fit -/

namespace Entry

/-- The bytes that a line and its line feed take. -/
def size : Entry → ℕ
  | .response _ reply _ _ => reply.line.length + 1
  | .notice n _ _ => n.line.length + 1
  | .closed => 0

def Queued : Entry → Prop
  | .response _ _ _ queued => queued = true
  | .notice _ _ queued => queued = true
  | .closed => True

theorem length_snprintf_le (n : ℕ) (text : CStr) : (snprintf n text).length ≤ n - 1 := List.length_take_le ..

/-- No line is longer than the buffer of `respond`. -/
theorem size_le (e : Entry) : e.size ≤ 896 := by
  cases e with
  | response frame reply pending queued =>
    have hlen := length_snprintf_le 896 (Reply.text reply.ok reply.printed)
    show (snprintf 896 (Reply.text reply.ok reply.printed)).length + 1 ≤ 896
    omega
  | notice n pending queued =>
    have hlen : n.line.length ≤ 299 := by
      cases n with
      | scanResult name address rssi => exact length_snprintf_le 300 _
      | pairingState state => exact Nat.le_trans (length_snprintf_le 180 _) (by omega)
    show n.line.length + 1 ≤ 896
    omega
  | closed => exact Nat.zero_le _

/-- No print buffer cuts the response. -/
def Uncut : Entry → Prop
  | .response _ reply _ _ => reply.Uncut
  | _ => True

theorem complete_eq_frame {e : Entry} (hu : e.Uncut) (hq : e.Queued) : e.complete = e.frame := by
  cases e with
  | response frame reply pending queued => exact if_pos ⟨hq, hu⟩
  | notice n pending queued => rfl
  | closed => rfl

/-- A response that is complete was queued. -/
theorem queued_of_complete {e : Entry} (hf : e.frame.isSome = true) (h : e.complete = e.frame) : e.Queued := by
  cases e with
  | response frame reply pending queued =>
    by_contra hno
    have hnone : (if queued = true ∧ reply.Uncut then some frame else none) = some frame := h
    rw [if_neg fun hboth => hno hboth.1] at hnone
    cases hnone
  | notice n pending queued => cases hf
  | closed => cases hf

end Entry

namespace World

variable {σ : Type} {host : Host σ} {w : World σ}

/-- What the lines since `log` leave in the queue: no more than their bytes are pending, and while
these fit the queue together every one of them is queued. -/
def Offered (log : List Entry) (w : World σ) : Prop :=
  ∃ added, w.log = log ++ added ∧ w.tx.pending.length ≤ (added.map Entry.size).sum ∧
    ((added.map Entry.size).sum ≤ kTxSize → ∀ e ∈ added, e.Queued)

theorem writeLine_offered {log : List Entry} (h : Offered log w) {line : CStr} {entry : ℕ → Bool → Entry}
    (hsize : ∀ n queued, (entry n queued).size = line.length + 1) (hqueued : ∀ n, (entry n true).Queued) :
    Offered log (w.writeLine line entry) := by
  obtain ⟨added, hlog, hpending, hall⟩ := h
  have hspec := w.tx.writeLine_spec line w.writes
  unfold writeLine
  dsimp only
  generalize w.tx.writeLine line w.writes = written at hspec ⊢
  refine ⟨added ++ [entry w.tx.pending.length written.1], ?_, ?_, ?_⟩
  · show w.log ++ [_] = _
    rw [hlog, List.append_assoc]
  · rw [List.map_append, List.sum_append, List.map_singleton, List.sum_singleton, hsize]
    rcases hspec with ⟨-, -, hbytes⟩ | ⟨-, -, -, hsame⟩
    · have hlen := congrArg List.length hbytes
      simp only [List.length_append, List.length_singleton] at hlen
      show written.2.queue.pending.length ≤ _
      omega
    · show written.2.queue.pending.length ≤ _
      rw [hsame]
      omega
  · intro hsum e he
    rw [List.map_append, List.sum_append, List.map_singleton, List.sum_singleton, hsize] at hsum
    rcases List.mem_append.1 he with he | he
    · exact hall (by omega) e he
    · rw [List.mem_singleton.1 he]
      rcases hspec with ⟨hq, -⟩ | ⟨-, hfull, -⟩
      · rw [hq]
        exact hqueued _
      · omega

theorem readBytes_offered {log : List Entry} (h : Offered log w) (reads : ℕ) : Offered log (w.readBytes host reads) := by
  refine readBytes_keeps (I := Offered log) ?_ ?_ ?_ reads h
  · rintro v u ⟨added, hlog, hpending, hall⟩ heq
    have htx : v.tx = u.tx := congrArg Outbound.tx heq
    exact ⟨added, (congrArg Outbound.log heq).trans hlog, by rwa [htx], hall⟩
  · intro v frame reply _ hv
    exact writeLine_offered hv (fun _ _ => rfl) fun _ => rfl
  · intro v notice hv
    unfold emit
    split
    · exact hv
    · exact writeLine_offered hv (fun _ _ => rfl) fun _ => rfl

/-- A connected pass whose lines fit the queue together drops none of them, whatever USB takes; four
lines always fit. -/
theorem service_offered (host : Host σ) (w : World σ) (reads : ℕ) (writes : List UsbWrite) :
    ∃ added, (w.service host true reads writes).log = w.log ++ added ∧
      ((added.map Entry.size).sum ≤ kTxSize ∨ added.length ≤ 4 → ∀ e ∈ added, e.Queued) := by
  have hfour : ∀ added : List Entry, added.length ≤ 4 → (added.map Entry.size).sum ≤ kTxSize := by
    intro added hlen
    have hsum := List.sum_le_card_nsmul (added.map Entry.size) 896 (by simpa using fun e _ => Entry.size_le e)
    rw [List.length_map, smul_eq_mul] at hsum
    have hk : kTxSize = 4096 := rfl
    omega
  unfold service
  simp only [Bool.not_true, Bool.false_eq_true, if_false]
  split
  · exact ⟨[], (List.append_nil _).symm, fun _ _ h => absurd h List.not_mem_nil⟩
  · rename_i hempty
    set v := ({ w with active := true, writes := writes } : World σ).serviceTx with hv
    have hnone : v.tx.pending.length ≤ 0 := by
      have hlen := TxQueue.length_pending (q := v.tx)
      omega
    have hopen : Offered w.log v := ⟨[], (List.append_nil _).symm, hnone, fun _ _ h => absurd h List.not_mem_nil⟩
    have hread : Offered w.log (v.readBytes host reads) := readBytes_offered hopen reads
    obtain ⟨added, hlog, -, hall⟩ := hread
    exact ⟨added, hlog, fun h => hall (h.elim id (hfour added))⟩

/-! ## What a frame adds -/

/-- The owner after a frame, the notices emitted while it was handled, and its reply. -/
def react (host : Host σ) (s : σ) : Frame UInt8 → Handled σ
  | .line line => handleLine host s line
  | .rejected => refuse s .frameTooLarge

theorem readByte_eq (host : Host σ) (w : World σ) (byte : UInt8) :
    w.readByte host byte =
      match (framing.push w.input byte).2 with
      | none => { w with input := (framing.push w.input byte).1, read := w.read ++ [some byte] }
      | some f =>
        ((react host w.host f).notices.foldl emit
          { w with
            input := (framing.push w.input byte).1
            read := w.read ++ [some byte]
            host := (react host w.host f).host }).respond f (react host w.host f).reply := by
  unfold readByte
  dsimp only
  cases (framing.push w.input byte).2 with
  | none => rfl
  | some f => cases f <;> rfl

/-- The frames that the bytes of a pass complete: at most 256 of them, behind the unfinished frame. -/
def completes (w : World σ) (reads : ℕ) : List (Frame UInt8) :=
  framing.emits w.input (w.fifo.take (min kMaxBytesPerService reads))

/-- USB takes all that is pending when a pass begins. -/
def Clears (w : World σ) (writes : List UsbWrite) : Prop :=
  w.tx.pending.length ≤
    match writes.headD (.takes 0) with
    | .takes n => n
    | .broken => 0

end World

/-- The bytes that the lines of notices take in the queue. -/
def noticeBytes (ns : List Notice) : ℕ := (ns.map fun n => n.line.length + 1).sum

/-- The bytes that a handled line adds to the queue. -/
def Handled.bytes {σ : Type} (h : Handled σ) : ℕ := noticeBytes h.notices + (h.reply.line.length + 1)

/-- While the owner is in `I`, which frames keep, no response is cut, and what a frame adds to the queue is no
more than `charge`. -/
structure Bounded {σ : Type} (host : Host σ) (I : σ → Prop) (charge : Frame UInt8 → ℕ) : Prop where
  keeps : ∀ s f, I s → I (World.react host s f).host
  uncut : ∀ s f, I s → (World.react host s f).reply.Uncut
  size_le : ∀ s f, I s → (World.react host s f).bytes ≤ charge f

namespace World

section Bounded

variable {σ : Type} {host : Host σ} {w : World σ} {I : σ → Prop} {charge : Frame UInt8 → ℕ} {log : List Entry} {n : ℕ}

/-- The lines since `log` take at most `n` bytes, and none of them is cut. -/
def Spends (log : List Entry) (n : ℕ) (w : World σ) : Prop :=
  ∃ added, w.log = log ++ added ∧ (added.map Entry.size).sum ≤ n ∧ ∀ e ∈ added, e.Uncut

theorem Spends.of_log_eq (h : w.log = log) : Spends log n w :=
  ⟨[], by rw [h, List.append_nil], Nat.zero_le _, fun _ he => absurd he List.not_mem_nil⟩

theorem writeLine_spends (h : Spends log n w) {line : CStr} {entry : ℕ → Bool → Entry}
    (hsize : ∀ n queued, (entry n queued).size = line.length + 1) (huncut : ∀ n queued, (entry n queued).Uncut) :
    Spends log (n + (line.length + 1)) (w.writeLine line entry) := by
  obtain ⟨added, hlog, hsum, hall⟩ := h
  refine ⟨added ++ [entry w.tx.pending.length (w.tx.writeLine line w.writes).1], ?_, ?_, ?_⟩
  · show w.log ++ [_] = _
    rw [hlog, List.append_assoc]
  · rw [List.map_append, List.sum_append, List.map_singleton, List.sum_singleton, hsize]
    exact Nat.add_le_add_right hsum _
  · intro e he
    rcases List.mem_append.1 he with he | he
    · exact hall e he
    · rw [List.mem_singleton.1 he]
      exact huncut _ _

theorem Spends.mono {m : ℕ} (h : Spends log n w) (hle : n ≤ m) : Spends log m w := by
  obtain ⟨added, hlog, hsum, hall⟩ := h
  exact ⟨added, hlog, hsum.trans hle, hall⟩

theorem emits_spends (ns : List Notice) (h : Spends log n w) : Spends log (n + noticeBytes ns) (ns.foldl emit w) := by
  induction ns generalizing w n with
  | nil => exact h
  | cons notice ns ih =>
    have hone : Spends log (n + (notice.line.length + 1)) (w.emit notice) := by
      unfold emit
      split
      · exact h.mono (Nat.le_add_right _ _)
      · exact writeLine_spends h (fun _ _ => rfl) fun _ _ => trivial
    have hrest := ih hone
    unfold noticeBytes at hrest ⊢
    rw [List.foldl_cons, List.map_cons, List.sum_cons, ← Nat.add_assoc]
    exact hrest

theorem readByte_spends (hb : Bounded host I charge) (v : World σ) (byte : UInt8) (h : I v.host ∧ Spends log n v) :
    I (v.readByte host byte).host ∧
      Spends log (n + ((framing.push v.input byte).2.toList.map charge).sum) (v.readByte host byte) := by
  rw [readByte_eq]
  cases (framing.push v.input byte).2 with
  | none => exact h
  | some f =>
    dsimp only
    constructor
    · show I (((react host v.host f).notices.foldl emit _).host)
      rw [emits_host]
      exact hb.keeps v.host f h.1
    · have hemitted : Spends log (n + noticeBytes (react host v.host f).notices)
          ((react host v.host f).notices.foldl emit
            { v with
              input := (framing.push v.input byte).1
              read := v.read ++ [some byte]
              host := (react host v.host f).host }) := emits_spends _ h.2
      have hle := hb.size_le v.host f h.1
      unfold Handled.bytes at hle
      refine Spends.mono (writeLine_spends hemitted (fun _ _ => rfl) fun _ _ => hb.uncut v.host f h.1) ?_
      rw [Option.toList_some, List.map_singleton, List.sum_singleton]
      omega

theorem readBytes_spends (hb : Bounded host I charge) (hi : I w.host) (reads : ℕ) :
    I (w.readBytes host reads).host ∧
      Spends w.log ((w.completes reads).map charge).sum (w.readBytes host reads) := by
  have hfold : ∀ (bytes : List UInt8) (v : World σ) (n : ℕ), I v.host ∧ Spends w.log n v →
      I (bytes.foldl (readByte host) v).host ∧
        Spends w.log (n + ((framing.emits v.input bytes).map charge).sum) (bytes.foldl (readByte host) v) := by
    intro bytes
    induction bytes with
    | nil => exact fun _ _ h => h
    | cons byte bytes ih =>
      intro v n h
      have hinput : (v.readByte host byte).input = (framing.push v.input byte).1 :=
        congrArg Inbound.input (readByte_spec host v byte).1
      have hrest := ih _ _ (readByte_spends hb v byte h)
      rw [hinput] at hrest
      rw [List.foldl_cons, Framing.emits, List.map_append, List.sum_append, ← Nat.add_assoc]
      exact hrest
  have hread := hfold (w.fifo.take (min kMaxBytesPerService reads))
    { w with fifo := w.fifo.drop (min kMaxBytesPerService reads) } 0 ⟨hi, .of_log_eq rfl⟩
  rw [Nat.zero_add] at hread
  exact hread

/-- A pass that reads had its queue cleared. -/
theorem clears_of_empty {writes : List UsbWrite} (h : (w.tx.service writes).queue.bytes.length = 0) : Clears w writes := by
  have hlen := TxQueue.length_pending (q := w.tx)
  have hle := w.tx.offset_le
  unfold Clears
  by_cases hall : w.tx.offset = w.tx.bytes.length
  · omega
  · unfold TxQueue.service at h
    rw [if_neg hall] at h
    cases hwrite : writes.headD (.takes 0) with
    | broken =>
      rw [hwrite] at h
      have hzero : w.tx.bytes.length = 0 := h
      omega
    | takes n =>
      rw [hwrite] at h
      dsimp only at h ⊢
      unfold TxQueue.take at h
      split at h
      · omega
      · have hzero : w.tx.bytes.length = 0 := h
        omega

/-- A pass whose frames are charged no more than the queue holds answers all of them. -/
theorem service_complete (hb : Bounded host I charge) (hi : I w.host) {reads : ℕ} {writes : List UsbWrite}
    (hfits : Clears w writes → ((w.completes reads).map charge).sum ≤ kTxSize)
    (h : ∀ e ∈ w.log, e.complete = e.frame) : ∀ e ∈ (w.service host true reads writes).log, e.complete = e.frame := by
  have hspends : Spends w.log kTxSize (w.service host true reads writes) := by
    unfold service
    simp only [Bool.not_true, Bool.false_eq_true, if_false]
    split
    · exact .of_log_eq rfl
    · rename_i hempty
      have hread : Spends w.log _ (({ w with active := true, writes := writes } : World σ).serviceTx.readBytes host reads) :=
        (readBytes_spends (w := ({ w with active := true, writes := writes } : World σ).serviceTx) hb hi reads).2
      exact hread.mono (hfits (clears_of_empty (not_not.1 hempty)))
  obtain ⟨added, hlog, hsum, huncut⟩ := hspends
  obtain ⟨added', hlog', hqueued⟩ := service_offered host w reads writes
  obtain rfl : added = added' := List.append_cancel_left (hlog.symm.trans hlog')
  intro e he
  rw [hlog] at he
  rcases List.mem_append.1 he with he | he
  · exact h e he
  · exact Entry.complete_eq_frame (huncut e he) (hqueued (.inl hsum) e he)

end Bounded

end World

end RedMonkeyMpg.Setup
