/-
The requests of a session depend on its bytes only. Whatever USB delivers when, whatever a pass finds
available, reads or is held back from by pending output: the lines handled and the frames rejected are
those of the bytes read, cut at line feeds.
-/
import RedMonkeyMpg.Setup.Isolation

namespace RedMonkeyMpg.Setup

open Framing (Frame)

/-- What becomes of the bytes between two line feeds: carriage returns are dropped, any other control
byte or more than 1024 bytes are too much, and no bytes are no request. -/
def referenceFrame (content : List UInt8) : Option (Frame UInt8) :=
  let line := content.filter (· ≠ carriageReturn)
  if line.any (· < 0x20) || 1024 < line.length then some .rejected
  else if line = [] then none
  else some (.line line)

/-- The requests of a stream; what is behind the last line feed is unfinished. -/
def referenceSplit (stream : List UInt8) : List (Frame UInt8) :=
  (stream.splitOn lineFeed).dropLast.filterMap referenceFrame

theorem frame_eq_referenceFrame (content : List UInt8) : framing.frame content = referenceFrame content := by
  have hkept : framing.kept content = content.filter (· ≠ carriageReturn) :=
    List.filter_congr fun b _ => by simp [framing, beq_eq_decide]
  unfold Framing.frame referenceFrame
  rw [hkept]
  simp only [Bool.or_eq_true, decide_eq_true_eq]
  rfl

theorem frames_eq_referenceSplit (stream : List UInt8) : framing.frames (stream.map some) = referenceSplit stream := by
  rw [Framing.frames_eq_splitOnP, funext frame_eq_referenceFrame]
  rfl

namespace World

variable {σ τ : Type} {host : Host σ} {w : World σ}

/-- The bytes of a session: those that were unread before it and those received in it. -/
def stream (w : World σ) (es : List (Event σ)) : List UInt8 := w.fifo ++ es.flatMap Event.bytes

/-- A session: the port stays connected, and no request is unfinished at its start. -/
structure Session (w : World σ) (es : List (Event σ)) : Prop where
  input : w.input = {}
  connected : ∀ e ∈ es, e.Connected

theorem session_framed {es : List (Event σ)} (h : Session w es) : Framed (later host w es) :=
  exec_framed host es ⟨h.input.trans framing.stateOf_nil.symm, rfl⟩

/-- The bytes read so far are the first of the session, and their split is what was handled. -/
theorem session_answered (host : Host σ) {es : List (Event σ)} (h : Session w es) :
    ∃ read, read ++ (later host w es).fifo = stream w es ∧ (later host w es).answered = referenceSplit read := by
  obtain ⟨items, hread, hbytes, hconn⟩ := exec_reads host w.renewed es
  obtain ⟨read, rfl⟩ := hconn h.connected
  rw [reduceOption_map_some] at hbytes
  refine ⟨read, hbytes, ?_⟩
  rw [(session_framed h).answered, ← frames_eq_referenceSplit]
  exact congrArg framing.frames hread

theorem readByte_input (host : Host σ) (w : World σ) (byte : UInt8) :
    (w.readByte host byte).input = (framing.push w.input byte).1 :=
  congrArg Inbound.input (readByte_spec host w byte).1

theorem readByte_fold_size (host : Host σ) (bytes : List UInt8) (h : w.input.buffer.length ≤ 1024) :
    (bytes.foldl (readByte host) w).input.buffer.length ≤ 1024 := by
  induction bytes generalizing w with
  | nil => exact h
  | cons byte bytes ih =>
    apply ih
    rw [readByte_input]
    exact framing.push_length_le byte h

/-- In every session, whatever the schedule: the lines handled and the frames rejected are the split of
the bytes read, and the request buffer never holds more than 1024 bytes, after whichever byte of a
pass. Two schedules of the same bytes have handled the same once they have read as many of them. -/
theorem framing_of_bytes (host : Host σ) (host' : Host τ) {w : World σ} {v : World τ} {es : List (Event σ)}
    {fs : List (Event τ)} (hw : Session w es) (hv : Session v fs) (hsame : stream w es = stream v fs) :
    (∃ read, read ++ (later host w es).fifo = stream w es ∧ (later host w es).answered = referenceSplit read) ∧
      (∀ bytes : List UInt8, (bytes.foldl (readByte host) (later host w es)).input.buffer.length ≤ 1024) ∧
      ((later host w es).fifo.length = (later host' v fs).fifo.length →
        (later host w es).answered = (later host' v fs).answered) := by
  refine ⟨session_answered host hw, fun bytes => ?_, fun hlen => ?_⟩
  · apply readByte_fold_size
    rw [(session_framed hw).input]
    exact List.length_take_le _ _
  · obtain ⟨read, hread, hanswered⟩ := session_answered host hw
    obtain ⟨read', hread', hanswered'⟩ := session_answered host' hv
    obtain ⟨rfl, -⟩ := List.append_inj' (hread.trans (hsame.trans hread'.symm)) hlen
    rw [hanswered, hanswered']

/-- One byte a pass with one pass that reads nothing, against a single pass. -/
theorem framing_of_bytes_schedules :
    let host := gamepadHost Gamepad.Receiver.buildPlatform [] [] {}
    let w : World Gamepad.Receiver :=
      { host := Gamepad.Receiver.boot Gamepad.Receiver.buildPlatform (fun _ => none) (some fun _ => none) }
    (later host w [.receive [0x78, lineFeed], .service true 1 [], .service true 0 [], .service true 5 []]).answered =
      (later host w [.receive [0x78], .receive [lineFeed], .service true 256 []]).answered := by
  intro host w
  have hslow : Session w [.receive [0x78, lineFeed], .service true 1 [], .service true 0 [], .service true 5 []] :=
    ⟨rfl, by simp [Event.Connected]⟩
  have hquick : Session w [.receive [0x78], .receive [lineFeed], .service true 256 []] :=
    ⟨rfl, by simp [Event.Connected]⟩
  have hread := (framing_of_bytes host host hslow hquick (by simp only [stream]; rfl)).2.2
  exact hread (by decide +kernel)

end World

end RedMonkeyMpg.Setup
