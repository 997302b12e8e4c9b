/-
The iPhone input: the 10-byte command frame with its CRC-8, and the input session that checks a
frame, refuses replayed sequence numbers and delivers each discrete event once. An accepted frame
is a connected sample with at most one axis deflected, the one of its direction byte.
-/
import RedMonkeyMpg.Core.Mapper

namespace RedMonkeyMpg

def kMobileProtocolVersion : UInt8 := 2

inductive MobileControllerProfile where
  | masso
  deriving DecidableEq, Repr

def MobileControllerProfile.toUInt8 : MobileControllerProfile → UInt8
  | .masso => 1

inductive MobileFrameError where
  | none
  | wrongLength
  | badMagic
  | badVersion
  | badCrc
  | invalidFlags
  | invalidDirection
  | invalidEvent
  | unsupportedProfile
  | ambiguousRate
  | replayedSequence
  deriving DecidableEq, Repr

/-- The fields of a `MobileFrameResult` that was accepted. -/
structure MobileFrame where
  sequence : UInt16
  controllerProfile : MobileControllerProfile := .masso
  input : GamepadState := {}
  deriving DecidableEq, Repr

def kFullNegative : Int16 := -32767
def kFullPositive : Int16 := 32767

/-! ## CRC-8 -/

/-- One bit of the CRC, polynomial 0x07, most significant bit first. -/
def mobileCrc8Bit (crc : UInt8) : UInt8 := if crc &&& 0x80 ≠ 0 then (crc <<< 1) ^^^ 0x07 else crc <<< 1

def mobileCrc8Byte (crc byte : UInt8) : UInt8 := mobileCrc8Bit^[8] (crc ^^^ byte)

def mobileCrc8 (data : List UInt8) : UInt8 := data.foldl mobileCrc8Byte 0

/-! ## The frame -/

/-- The ten bytes of a frame. -/
structure MobileCommand where
  magic : UInt8 := 0x52
  version : UInt8 := kMobileProtocolVersion
  sequenceLow : UInt8 := 0
  sequenceHigh : UInt8 := 0
  direction : UInt8 := 0
  flags : UInt8 := 0
  eventSequence : UInt8 := 0
  event : UInt8 := 0
  profile : UInt8 := MobileControllerProfile.masso.toUInt8
  crc : UInt8 := 0
  deriving DecidableEq, Repr

namespace MobileCommand

/-- The bytes of a buffer of the frame's length. -/
def ofBytes : List UInt8 → Option MobileCommand
  | [b0, b1, b2, b3, b4, b5, b6, b7, b8, b9] => some ⟨b0, b1, b2, b3, b4, b5, b6, b7, b8, b9⟩
  | _ => none

/-- Everything before the CRC. -/
def body (c : MobileCommand) : List UInt8 :=
  [c.magic, c.version, c.sequenceLow, c.sequenceHigh, c.direction, c.flags, c.eventSequence, c.event, c.profile]

def bytes (c : MobileCommand) : List UInt8 := c.body ++ [c.crc]

/-- The command with the CRC of its body. -/
def sealed (c : MobileCommand) : MobileCommand := { c with crc := mobileCrc8 c.body }

def sequence (c : MobileCommand) : UInt16 := c.sequenceLow.toUInt16 ||| (c.sequenceHigh.toUInt16 <<< 8)

/-- The first check the frame fails on its own, in the order of the source. -/
def error (c : MobileCommand) : Option MobileFrameError :=
  if c.magic ≠ 0x52 then some .badMagic
  else if c.version ≠ kMobileProtocolVersion then some .badVersion
  else if mobileCrc8 c.body ≠ c.crc then some .badCrc
  else if c.profile ≠ MobileControllerProfile.masso.toUInt8 then some .unsupportedProfile
  else if c.flags &&& 0xF8 ≠ 0 then some .invalidFlags
  else if c.direction > 6 then some .invalidDirection
  else if c.event > 5 then some .invalidEvent
  else if c.flags &&& 0x06 = 0x06 then some .ambiguousRate
  else none

/-- The sample of the flags, before the direction and the event. -/
def flagInput (c : MobileCommand) (nowMs : UInt32) : GamepadState where
  connected := true
  sampleMs := nowMs
  deadman := c.flags &&& 0x01 != 0
  rapid := c.flags &&& 0x02 != 0
  precision := c.flags &&& 0x04 != 0

/-- The `switch` over the direction; `none` is its default branch. -/
def directed (c : MobileCommand) (input : GamepadState) : Option GamepadState :=
  if c.direction = 0 then some input
  else if c.direction = 1 then some { input with leftX := kFullNegative }
  else if c.direction = 2 then some { input with leftX := kFullPositive }
  else if c.direction = 3 then some { input with leftY := kFullPositive }
  else if c.direction = 4 then some { input with leftY := kFullNegative }
  else if c.direction = 5 then some { input with rightY := kFullPositive }
  else if c.direction = 6 then some { input with rightY := kFullNegative }
  else none

/-- The `switch` over the event; `none` is its default branch. -/
def delivered (c : MobileCommand) (input : GamepadState) : Option GamepadState :=
  if c.event = 1 then some { input with selectResolution := true, selectedResolution := .mm001 }
  else if c.event = 2 then some { input with selectResolution := true, selectedResolution := .mm010 }
  else if c.event = 3 then some { input with selectResolution := true, selectedResolution := .mm050 }
  else if c.event = 4 then some { input with selectResolution := true, selectedResolution := .mm100 }
  else if c.event = 5 then some { input with cancel := true }
  else none

end MobileCommand

/-! ## The session -/

structure MobileInputSession where
  hasSequence : Bool := false
  lastSequence : UInt16 := 0
  hasEvent : Bool := false
  lastEventSequence : UInt8 := 0
  deriving DecidableEq, Repr

namespace MobileInputSession

/-- `reset`. -/
def reset (_ : MobileInputSession) : MobileInputSession := {}

/-- A sequence number that is not 1 to 0x7FFF ahead of the last accepted one. -/
def replayed (s : MobileInputSession) (sequence : UInt16) : Bool :=
  s.hasSequence && (sequence - s.lastSequence == 0 || sequence - s.lastSequence > 0x7FFF)

def advance (s : MobileInputSession) (sequence : UInt16) : MobileInputSession :=
  { s with hasSequence := true, lastSequence := sequence }

/-- The event at the end of `consume`: none, a repeated one, or one delivered now. -/
def deliver (s : MobileInputSession) (c : MobileCommand) (input : GamepadState) :
    MobileInputSession × Except MobileFrameError GamepadState :=
  if c.event = 0 then (s, .ok input)
  else if s.hasEvent && c.eventSequence == s.lastEventSequence then (s, .ok input)
  else
    -- the event number is remembered before the event is known to be valid
    let s := { s with hasEvent := true, lastEventSequence := c.eventSequence }
    match c.delivered input with
    | some input => (s, .ok input)
    | none => (s, .error .invalidEvent)

/-- `consume`: the session after the frame, and the accepted frame or the error. -/
def consume (s : MobileInputSession) (data : List UInt8) (nowMs : UInt32) :
    MobileInputSession × Except MobileFrameError MobileFrame :=
  match MobileCommand.ofBytes data with
  | none => (s, .error .wrongLength)
  | some c =>
    match c.error with
    | some e => (s, .error e)
    | none =>
      if s.replayed c.sequence then (s, .error .replayedSequence)
      else
        match c.directed (c.flagInput nowMs) with
        -- default branch of the `switch`: the checks above leave it no direction, the sequence is spent
        | none => (s.advance c.sequence, .error .invalidDirection)
        | some input =>
          match (s.advance c.sequence).deliver c input with
          | (s, .error e) => (s, .error e)
          | (s, .ok input) => (s, .ok { sequence := c.sequence, input := input })

end MobileInputSession

/-! ## What an accepted frame says -/

theorem MobileCommand.ofBytes_some {data : List UInt8} {c : MobileCommand} (h : ofBytes data = some c) :
    data = c.bytes := by
  unfold ofBytes at h
  split at h
  · cases h
    rfl
  · cases h

@[simp] theorem MobileCommand.ofBytes_bytes (c : MobileCommand) : ofBytes c.bytes = some c := rfl

/-- The deflection of an axis under a direction byte. -/
def deflection (direction : UInt8) : Axis → Int16
  | .x => if direction = 1 then kFullNegative else if direction = 2 then kFullPositive else 0
  | .y => if direction = 3 then kFullPositive else if direction = 4 then kFullNegative else 0
  | .z => if direction = 5 then kFullPositive else if direction = 6 then kFullNegative else 0

/-- What the sample of an accepted command has of its bytes, whatever its event. -/
structure MobileCommand.Sampled (c : MobileCommand) (nowMs : UInt32) (input : GamepadState) : Prop where
  connected : input.connected = true
  sampleMs : input.sampleMs = nowMs
  deadman : input.deadman = (c.flags &&& 0x01 != 0)
  rapid : input.rapid = (c.flags &&& 0x02 != 0)
  precision : input.precision = (c.flags &&& 0x04 != 0)
  axes : input.axisValue = deflection c.direction
  cycle : input.cycleResolution = false

namespace MobileCommand

variable {c : MobileCommand} {input input' : GamepadState} {nowMs : UInt32}

theorem directed_sampled (h : c.directed (c.flagInput nowMs) = some input) :
    c.Sampled nowMs input ∧ input.cancel = false ∧ input.selectResolution = false := by
  unfold directed at h
  split_ifs at h with h0 h1 h2 h3 h4 h5 h6 <;> cases h <;>
    refine ⟨⟨rfl, rfl, rfl, rfl, rfl, ?_, rfl⟩, rfl, rfl⟩ <;> funext axis <;> cases axis <;>
    simp [GamepadState.axisValue, deflection, flagInput, *]

theorem Sampled.delivered (hs : c.Sampled nowMs input) (h : c.delivered input = some input') :
    c.Sampled nowMs input' := by
  unfold MobileCommand.delivered at h
  split_ifs at h <;> cases h <;>
    exact ⟨hs.connected, hs.sampleMs, hs.deadman, hs.rapid, hs.precision, hs.axes, hs.cycle⟩

/-- A command that passes its checks has a known direction, and not both rate flags. -/
theorem error_none (h : c.error = none) : c.direction ≤ 6 ∧ c.flags &&& 0x06 ≠ 0x06 := by
  unfold error at h
  split_ifs at h with h1 h2 h3 h4 h5 h6 h7 h8
  exact ⟨by simpa using h6, h8⟩

end MobileCommand

theorem MobileInputSession.deliver_sampled {s s' : MobileInputSession} {c : MobileCommand} {nowMs : UInt32}
    {input input' : GamepadState} (hs : c.Sampled nowMs input) (h : s.deliver c input = (s', .ok input')) :
    c.Sampled nowMs input' := by
  simp only [deliver] at h
  split_ifs at h with h1 h2
  · cases h
    exact hs
  · cases h
    exact hs
  · split at h
    · rename_i hd
      cases h
      exact hs.delivered hd
    · cases h

/-- An accepted frame is the sample of its bytes. -/
theorem MobileInputSession.consume_ok {s s' : MobileInputSession} {data : List UInt8} {nowMs : UInt32}
    {frame : MobileFrame} (h : s.consume data nowMs = (s', .ok frame)) :
    ∃ c : MobileCommand, data = c.bytes ∧ c.error = none ∧ frame.sequence = c.sequence ∧
      c.Sampled nowMs frame.input := by
  unfold consume at h
  split at h
  · cases h
  · rename_i c hc
    split at h
    · cases h
    · rename_i he
      split_ifs at h with hr
      · cases h
      · split at h
        · cases h
        · rename_i input hd
          split at h
          · cases h
          · rename_i input' hdel
            cases h
            exact ⟨c, MobileCommand.ofBytes_some hc, he, rfl,
              deliver_sampled (MobileCommand.directed_sampled hd).1 hdel⟩

end RedMonkeyMpg
