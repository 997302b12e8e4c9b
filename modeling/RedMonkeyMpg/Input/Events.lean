/-
The discrete events of the input session: the step selections and cancels of its accepted frames.
The session remembers the number of the last event it saw, so over any run it delivers the event
of an accepted frame exactly when its number is not that of the accepted event before it.
-/
import RedMonkeyMpg.Input.Replay

namespace RedMonkeyMpg

/-- An event a frame carries. -/
inductive DiscreteEvent where
  | select (resolution : StepResolution)
  | cancel
  deriving DecidableEq, Repr

/-- The event of an event byte that is not 0; a well-formed frame has none above 5. -/
def DiscreteEvent.ofByte (event : UInt8) : DiscreteEvent :=
  if event = 1 then .select .mm001
  else if event = 2 then .select .mm010
  else if event = 3 then .select .mm050
  else if event = 4 then .select .mm100
  else .cancel

/-- The events a sample delivers. -/
def GamepadState.discreteEvents (input : GamepadState) : List DiscreteEvent :=
  (if input.selectResolution then [.select input.selectedResolution] else []) ++
    if input.cancel then [.cancel] else []

/-- The event byte of a frame. -/
def eventByte (data : List UInt8) : UInt8 := data.getD 7 0

/-- The event number of a frame. -/
def eventNumber (data : List UInt8) : UInt8 := data.getD 6 0

namespace MobileInputSession

/-! ## The law -/

/-- What one arrival delivers: nothing when it is rejected. -/
def deliveries (s : MobileInputSession) (a : Arrival) : List (Arrival × DiscreteEvent) :=
  match (s.consume a.1 a.2).2 with
  | .ok frame => frame.input.discreteEvents.map (a, ·)
  | .error _ => []

/-- The arrival, if it is accepted and carries an event. -/
def eventArrival (s : MobileInputSession) (a : Arrival) : List Arrival :=
  if s.accepts a && eventByte a.1 != 0 then [a] else []

/-- The arrivals whose event number is not that of the one before, the first being new unless it has
the number `last`. -/
def newEvents (last : Option UInt8) : List Arrival → List Arrival
  | [] => []
  | a :: as =>
    if last = some (eventNumber a.1) then newEvents last as else a :: newEvents (some (eventNumber a.1)) as

/-- The event number the session remembers. -/
def lastEvent (s : MobileInputSession) : Option UInt8 := if s.hasEvent then some s.lastEventSequence else none

/-! ## One arrival -/

variable {s s' : MobileInputSession} {c : MobileCommand} {input input' : GamepadState}

/-- The `switch` over the event adds the event of its byte. -/
theorem delivered_events (hs : input.selectResolution = false) (hc : input.cancel = false)
    (h : c.delivered input = some input') : input'.discreteEvents = [DiscreteEvent.ofByte c.event] := by
  unfold MobileCommand.delivered at h
  split_ifs at h with h1 h2 h3 h4 h5 <;> cases h <;>
    simp [GamepadState.discreteEvents, DiscreteEvent.ofByte, *]

/-- `deliver` leaves out event 0 and a number it remembers; any other event it delivers, and
remembers its number. -/
theorem deliver_cases (hs : input.selectResolution = false) (hc : input.cancel = false)
    (h : s.deliver c input = (s', .ok input')) :
    ((c.event = 0 ∨ s.lastEvent = some c.eventSequence) ∧ input' = input ∧ s' = s) ∨
      (c.event ≠ 0 ∧ s.lastEvent ≠ some c.eventSequence ∧ c.delivered input = some input' ∧
        input'.discreteEvents = [DiscreteEvent.ofByte c.event] ∧ s'.lastEvent = some c.eventSequence) := by
  have hknown : (s.hasEvent && c.eventSequence == s.lastEventSequence) = true ↔
      s.lastEvent = some c.eventSequence := by
    unfold lastEvent
    cases s.hasEvent with
    | false => simp
    | true =>
      simp only [Bool.true_and, beq_iff_eq, if_true, Option.some_inj]
      exact eq_comm
  unfold deliver at h
  by_cases h0 : c.event = 0
  · rw [if_pos h0] at h
    cases h
    exact .inl ⟨.inl h0, rfl, rfl⟩
  · rw [if_neg h0] at h
    by_cases hlast : s.lastEvent = some c.eventSequence
    · rw [if_pos (hknown.2 hlast)] at h
      cases h
      exact .inl ⟨.inr hlast, rfl, rfl⟩
    · rw [if_neg fun hk => hlast (hknown.1 hk)] at h
      cases hd : c.delivered input with
      | none =>
        simp only [hd] at h
        cases h
      | some delivered =>
        simp only [hd] at h
        cases h
        exact .inr ⟨h0, hlast, rfl, delivered_events hs hc hd, rfl⟩

/-- An accepted command has the sample of its flags and direction, with its event or without. -/
theorem accepted_deliver {a : Arrival} (h : s.accepts a = true) :
    ∃ c input s' input', a.1 = c.bytes ∧ c.directed (c.flagInput a.2) = some input ∧
      (s.advance c.sequence).deliver c input = (s', .ok input') ∧
      s.consume a.1 a.2 = (s', .ok { sequence := c.sequence, input := input' }) := by
  obtain ⟨hwf, ha⟩ := (accepts_iff s a).1 h
  cases hc : MobileCommand.ofBytes a.1 with
  | none => exact absurd hwf.length (ofBytes_none hc)
  | some c =>
    have hbytes := MobileCommand.ofBytes_some hc
    rw [hbytes] at hwf ha ⊢
    obtain ⟨input, s', input', hrest⟩ := consume_deliver hwf ha a.2
    exact ⟨c, input, s', input', rfl, hrest⟩

/-- An arrival that is rejected, or has no event, delivers nothing and leaves the event memory. -/
theorem deliveries_none {a : Arrival} (h : s.accepts a = false ∨ eventByte a.1 = 0) :
    s.deliveries a = [] ∧ (step s a).lastEvent = s.lastEvent := by
  cases hacc : s.accepts a with
  | false =>
    refine ⟨?_, by rw [step_rejected hacc]⟩
    unfold deliveries
    split
    · rename_i frame hf
      simp [accepts, hf, Except.isOk, Except.toBool] at hacc
    · rfl
  | true =>
    obtain ⟨c, input, s', input', hbytes, hdir, hdel, hcon⟩ := accepted_deliver hacc
    have h0 : c.event = 0 := by
      rcases h with h | h
      · rw [hacc] at h
        cases h
      · rwa [hbytes] at h
    obtain ⟨-, hcan, hsel⟩ := MobileCommand.directed_sampled hdir
    unfold deliveries step
    rw [hcon]
    rcases deliver_cases hsel hcan hdel with ⟨-, rfl, rfl⟩ | ⟨hne, -⟩
    · exact ⟨by simp [GamepadState.discreteEvents, hsel, hcan], rfl⟩
    · exact absurd h0 hne

/-- An accepted arrival with an event delivers it unless its number is the remembered one, which it
is from then on. -/
theorem deliveries_event {a : Arrival} (h : s.accepts a = true) (h0 : eventByte a.1 ≠ 0) :
    s.deliveries a =
        (if s.lastEvent = some (eventNumber a.1) then [] else [(a, DiscreteEvent.ofByte (eventByte a.1))]) ∧
      (step s a).lastEvent = some (eventNumber a.1) := by
  obtain ⟨c, input, s', input', hbytes, hdir, hdel, hcon⟩ := accepted_deliver h
  obtain ⟨-, hcan, hsel⟩ := MobileCommand.directed_sampled hdir
  have hevent : eventByte a.1 = c.event := by rw [hbytes]; rfl
  have hnumber : eventNumber a.1 = c.eventSequence := by rw [hbytes]; rfl
  unfold deliveries step
  rw [hcon, hevent, hnumber]
  rw [hevent] at h0
  have hadvance : (s.advance c.sequence).lastEvent = s.lastEvent := rfl
  rcases deliver_cases hsel hcan hdel with ⟨hz | hlast, rfl, rfl⟩ | ⟨-, hlast, -, hev, hnew⟩
  · exact absurd hz h0
  · rw [hadvance] at hlast ⊢
    rw [if_pos hlast]
    exact ⟨by simp [GamepadState.discreteEvents, hsel, hcan], hlast⟩
  · rw [hadvance] at hlast
    rw [if_neg hlast]
    exact ⟨by simp [hev], hnew⟩

/-- Everything an arrival does to the events: it is no accepted one with an event, and does nothing; or
it delivers its event unless its number is remembered, and is remembered from then on. -/
theorem deliveries_cases (s : MobileInputSession) (a : Arrival) :
    (s.eventArrival a = [] ∧ s.deliveries a = [] ∧ (step s a).lastEvent = s.lastEvent) ∨
      (s.eventArrival a = [a] ∧
        s.deliveries a =
          (if s.lastEvent = some (eventNumber a.1) then [] else [(a, DiscreteEvent.ofByte (eventByte a.1))]) ∧
        (step s a).lastEvent = some (eventNumber a.1)) := by
  by_cases hevent : s.accepts a = true ∧ eventByte a.1 ≠ 0
  · exact .inr ⟨by simp [eventArrival, hevent.1, hevent.2], deliveries_event hevent.1 hevent.2⟩
  · have hnone : s.accepts a = false ∨ eventByte a.1 = 0 := by
      rw [← Bool.not_eq_true]
      tauto
    refine .inl ⟨?_, deliveries_none hnone⟩
    rcases hnone with h | h <;> simp [eventArrival, h]

/-! ## Runs -/

/-- What a run delivers, from any session: the new ones among the events of its accepted frames. -/
theorem collect_deliveries (s : MobileInputSession) (arrivals : List Arrival) :
    Run.collect step deliveries s arrivals =
      (newEvents s.lastEvent (Run.collect step eventArrival s arrivals)).map
        fun a => (a, DiscreteEvent.ofByte (eventByte a.1)) := by
  induction arrivals generalizing s with
  | nil => rfl
  | cons a arrivals ih =>
    rw [Run.collect_cons, Run.collect_cons, ih]
    rcases s.deliveries_cases a with ⟨harr, hdel, hlast⟩ | ⟨harr, hdel, hlast⟩
    · rw [hdel, hlast, harr, List.nil_append, List.nil_append]
    · rw [hdel, hlast, harr, List.singleton_append, newEvents]
      split
      · rename_i hknown
        rw [hknown, List.nil_append]
      · rw [List.map_cons, List.singleton_append]

/-- After a run the session remembers the number of the last event it delivered. -/
theorem exec_lastEvent (s : MobileInputSession) (arrivals : List Arrival) :
    (Run.exec step s arrivals).lastEvent =
      ((Run.collect step deliveries s arrivals).getLast?.map fun d => eventNumber d.1.1).or s.lastEvent := by
  induction arrivals generalizing s with
  | nil => rfl
  | cons a arrivals ih =>
    have hstep : (step s a).lastEvent =
        ((s.deliveries a).getLast?.map fun d => eventNumber d.1.1).or s.lastEvent := by
      rcases s.deliveries_cases a with ⟨-, hdel, hlast⟩ | ⟨-, hdel, hlast⟩
      · rw [hdel, hlast]
        rfl
      · rw [hdel, hlast]
        split
        · rename_i hknown
          rw [hknown]
          rfl
        · rfl
    rw [Run.exec_cons, ih, hstep, Run.collect_cons, List.getLast?_append, Option.map_or, Option.or_assoc]

/-- After a reset, over any arrivals: the events delivered are, in order and with their own value,
those of the accepted frames with an event whose number is not that of the accepted frame with an
event before them. A rejected frame or one without an event delivers nothing and leaves the memory
that decides it. -/
theorem events_exactly_once (s : MobileInputSession) (arrivals : List Arrival) :
    Run.collect step deliveries s.reset arrivals =
        (newEvents none (Run.collect step eventArrival s.reset arrivals)).map
          (fun a => (a, DiscreteEvent.ofByte (eventByte a.1))) ∧
      ∀ (t : MobileInputSession) (a : Arrival), t.accepts a = false ∨ eventByte a.1 = 0 →
        t.deliveries a = [] ∧ (step t a).lastEvent = t.lastEvent :=
  ⟨collect_deliveries s.reset arrivals, fun _ _ h => deliveries_none h⟩

end MobileInputSession

end RedMonkeyMpg
