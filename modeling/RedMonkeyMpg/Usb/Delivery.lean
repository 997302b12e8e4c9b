/-
The reports USB takes, in order, over any system that runs the sender: the line alone with publishes
of any report, and both receivers. While the passes sample one mounted state, the taken reports
alternate: no report is taken twice in a row, and of two in a row one is all keys up.
-/
import RedMonkeyMpg.Usb.Receivers

namespace RedMonkeyMpg

open UsbLine

/-- A system over the USB line: each of its events is a step of the line's own, or publishes. -/
structure LineSystem (σ ε : Type) where
  step : σ → ε → σ
  usb : σ → UsbLine
  lineOp : ε → Option UsbLine.Op
  line : ∀ s e, Performs (usb s) (usb (step s e)) (lineOp e)

/-- The line alone, with publishes of any report. -/
def UsbLine.system : LineSystem UsbLine UsbLine.Op where
  step := UsbLine.step
  usb := id
  lineOp := some
  line _ _ := rfl

def Gamepad.Receiver.lineSystem (p : Gamepad.Platform) :
    LineSystem Gamepad.Receiver Gamepad.Receiver.Event where
  step := Gamepad.Receiver.step p
  usb := Gamepad.Receiver.usb
  lineOp := Gamepad.Receiver.Event.lineOp
  line := Gamepad.Receiver.step_line

def Mobile.Receiver.lineSystem : LineSystem Mobile.Receiver (UInt32 × Mobile.Receiver.Event) where
  step := Mobile.Receiver.step
  usb := Mobile.Receiver.usb
  lineOp e := e.2.lineOp
  line := Mobile.Receiver.step_line

namespace LineSystem

variable {σ ε : Type} (g : LineSystem σ ε)

/-! ## The law -/

/-- What an event hands to `red_monkey_mpg_usb_keyboard_send`. -/
def offers (s : σ) (e : ε) : List KeyboardReport :=
  match g.lineOp e with
  | some (.service a) => ((g.usb s).service a).offered.toList
  | _ => []

/-- What an event hands to it successfully. -/
def delivers (s : σ) (e : ε) : List KeyboardReport :=
  match g.lineOp e with
  | some (.service a) => if a.taken then ((g.usb s).service a).offered.toList else []
  | _ => []

/-- The event is a pass of the sender. -/
def isPass (e : ε) : Bool :=
  match g.lineOp e with
  | some (.service _) => true
  | _ => false

/-- The event is no pass, or one that samples the mounted state of the pass before. -/
def Steady (s : σ) (e : ε) : Prop := g.isPass e = true → (g.usb s).keyboardMounted = (g.usb s).wasMounted

instance (s : σ) (e : ε) : Decidable (g.Steady s e) := inferInstanceAs (Decidable (_ → _))

/-- The event is a pass whose report is refused. -/
def Refused (s : σ) (e : ε) : Prop :=
  ∃ a, g.lineOp e = some (.service a) ∧ ((g.usb s).service a).offered.isSome = true ∧ a.taken = false

/-- The event makes the report the desired one. -/
def Publishes (report : KeyboardReport) (s : σ) (e : ε) : Prop :=
  (g.usb s).desired ≠ report ∧ (g.usb (g.step s e)).desired = report

/-- The last report taken in the run, or before it. -/
def lastSent (s : σ) (es : List ε) : KeyboardReport :=
  (Run.collect g.step g.delivers s es).getLastD (g.usb s).sent

/-- Two reports taken one after the other. -/
def Alternate (a b : KeyboardReport) : Prop := a ≠ b ∧ (a = .release ∨ b = .release)

/-- The law of a period: the reports taken alternate, after a taken key only all keys up is offered,
and a key is offered after a refused report only once it is published. -/
structure Alternates (s : σ) (es : List ε) : Prop where
  taken : ((g.usb s).sent :: Run.collect g.step g.delivers s es).IsChain Alternate
  released : ∀ pre e post, es = pre ++ e :: post → reportHasKey (g.lastSent s pre) = true →
    ∀ report ∈ g.offers (Run.exec g.step s pre) e, report = .release
  published : ∀ before f between e after, es = before ++ f :: between ++ e :: after →
    g.Refused (Run.exec g.step s before) f →
    ∀ report ∈ g.offers (Run.exec g.step s (before ++ f :: between)) e, reportHasKey report = true →
      ∃ pre n post, between = pre ++ n :: post ∧
        g.Publishes report (Run.exec g.step s (before ++ f :: pre)) n

/-! ## One event -/

variable {g}
variable {s : σ} {e : ε}

/-- The report towards the desired one alternates with the one sent. -/
theorem alternate_nextReport {l : UsbLine} (h : l.desired ≠ l.sent) : Alternate l.sent l.nextReport := by
  unfold nextReport
  split
  · rename_i hboth
    simp only [Bool.and_eq_true] at hboth
    refine ⟨?_, .inr rfl⟩
    intro hs
    rw [hs] at hboth
    simp at hboth
  · rename_i hno
    simp only [Bool.and_eq_true, not_and, Bool.not_eq_true] at hno
    refine ⟨h.symm, ?_⟩
    cases hs : reportHasKey l.sent with
    | false => exact .inl (eq_release_of_noKey hs)
    | true => exact .inr (eq_release_of_noKey (hno hs))

/-- With a key sent, the report towards the desired one is all keys up. -/
theorem nextReport_release {l : UsbLine} (h : reportHasKey l.sent = true) : l.nextReport = .release := by
  unfold nextReport
  split
  · rfl
  · rename_i hno
    exact eq_release_of_noKey (by simpa [h] using hno)

theorem usb_service {a : UsbAnswer} (h : g.lineOp e = some (.service a)) :
    g.usb (g.step s e) = ((g.usb s).service a).line := by
  have hline := g.line s e
  rw [h] at hline
  exact hline

/-- Only a pass writes what was sent. -/
theorem sent_other (h : ∀ a, g.lineOp e ≠ some (.service a)) : (g.usb (g.step s e)).sent = (g.usb s).sent := by
  have hline := g.line s e
  cases hop : g.lineOp e with
  | none =>
    rw [hop] at hline
    obtain ⟨report, hpub⟩ := hline
    rw [hpub]
    rfl
  | some op =>
    rw [hop] at hline
    have husb : g.usb (g.step s e) = (g.usb s).step op := hline
    rw [husb]
    cases op with
    | publish report => rfl
    | callback cb => cases cb <;> rfl
    | service a => exact absurd hop (h a)

/-- Everything an event of a period delivers: nothing, and what was sent stays; or the next report,
which alternates with what was sent and is what is sent then. -/
theorem delivers_cases (h : g.Steady s e) :
    (g.delivers s e = [] ∧ (g.usb (g.step s e)).sent = (g.usb s).sent) ∨
      ∃ report, g.delivers s e = [report] ∧ Alternate (g.usb s).sent report ∧
        (g.usb (g.step s e)).sent = report := by
  by_cases hpass : ∃ a, g.lineOp e = some (.service a)
  · obtain ⟨a, hop⟩ := hpass
    have hdel : g.delivers s e = if a.taken then ((g.usb s).service a).offered.toList else [] := by
      simp only [delivers, hop]
    rw [hdel, usb_service hop]
    rcases service_cases (g.usb s) a with ⟨hne, -⟩ | ⟨-, -, hs⟩ | ⟨-, -, hd, ht, hs⟩ | ⟨-, -, -, ht, hs⟩
    · exact absurd (h (by simp only [isPass, hop])) hne
    · rw [hs]
      exact .inl ⟨by simp, rfl⟩
    · rw [hs, if_pos ht]
      exact .inr ⟨_, rfl, alternate_nextReport hd, rfl⟩
    · rw [hs, ht]
      exact .inl ⟨rfl, rfl⟩
  · push Not at hpass
    refine .inl ⟨?_, sent_other hpass⟩
    unfold delivers
    split
    · rename_i a hop
      exact absurd hop (hpass a)
    · rfl

/-- What is offered is the report towards the desired one. -/
theorem mem_offers {report : KeyboardReport} (h : report ∈ g.offers s e) :
    ∃ a, g.lineOp e = some (.service a) ∧ ((g.usb s).service a).offered = some report ∧
      report = (g.usb s).nextReport := by
  unfold offers at h
  split at h
  · rename_i a hop
    have hoffered : ((g.usb s).service a).offered = some report := by simpa using h
    refine ⟨a, hop, hoffered, ?_⟩
    rcases service_cases (g.usb s) a with ⟨-, hs⟩ | ⟨-, -, hs⟩ | ⟨-, -, -, -, hs⟩ | ⟨-, -, -, -, hs⟩ <;>
      rw [hs] at hoffered <;> cases hoffered <;> rfl
  · simp at h

/-- A refused report leaves a release desired. -/
theorem refused_desired (h : g.Refused s e) : (g.usb (g.step s e)).desired = .release := by
  obtain ⟨a, hop, hoffered, ht⟩ := h
  rw [usb_service hop]
  rcases service_cases (g.usb s) a with ⟨-, hs⟩ | ⟨-, -, hs⟩ | ⟨-, -, -, htaken, -⟩ | ⟨-, -, -, -, hs⟩
  · rw [hs]
    rfl
  · rw [hs] at hoffered
    cases hoffered
  · rw [ht] at htaken
    cases htaken
  · rw [hs]
    rfl

/-! ## Runs -/

theorem lastSent_cons (es : List ε) (h : g.Steady s e) :
    g.lastSent s (e :: es) = g.lastSent (g.step s e) es := by
  unfold lastSent
  rw [Run.collect_cons]
  rcases delivers_cases h with ⟨hnone, hsent⟩ | ⟨report, hone, -, hsent⟩
  · rw [hnone, List.nil_append, hsent]
  · rw [hone, List.singleton_append, List.getLastD_cons, hsent]

/-- What a period has sent is the last report it took, or the one sent before it. -/
theorem sent_eq_lastSent {es : List ε} (h : Run.Always g.step g.Steady s es) :
    (g.usb (Run.exec g.step s es)).sent = g.lastSent s es := by
  induction es generalizing s with
  | nil => rfl
  | cons e es ih => rw [Run.exec_cons, ih h.2, lastSent_cons es h.1]

theorem taken_chain {es : List ε} (h : Run.Always g.step g.Steady s es) :
    ((g.usb s).sent :: Run.collect g.step g.delivers s es).IsChain Alternate := by
  induction es generalizing s with
  | nil => exact .singleton _
  | cons e es ih =>
    have hrest := ih h.2
    rw [Run.collect_cons]
    rcases delivers_cases h.1 with ⟨hnone, hsent⟩ | ⟨report, hone, halt, hsent⟩
    · rw [hsent] at hrest
      rw [hnone, List.nil_append]
      exact hrest
    · rw [hsent] at hrest
      rw [hone, List.singleton_append]
      exact .cons_cons halt hrest

/-- A report that is desired after a run and was not before it was published in it. -/
theorem published_between {report : KeyboardReport} {es : List ε} (hs : (g.usb s).desired ≠ report)
    (he : (g.usb (Run.exec g.step s es)).desired = report) :
    ∃ pre n post, es = pre ++ n :: post ∧ g.Publishes report (Run.exec g.step s pre) n := by
  have hsince : Run.Since g.step (fun _ _ => False) (g.Publishes report) s es := by
    refine Run.since_of_latch (fun _ => True) (fun _ _ => True) (fun t => (g.usb t).desired = report)
      (fun _ _ _ _ => trivial) ?_ (Run.always_of_forall (fun _ _ => trivial) s es) trivial hs he
    intro t f _ _ hup
    by_cases hd : (g.usb t).desired = report
    · exact .inr ⟨hd, not_false⟩
    · exact .inl ⟨hd, hup⟩
  obtain ⟨pre, n, post, hsplit, hn, -⟩ := hsince
  exact ⟨pre, n, post, hsplit, hn⟩

/-- Over any events whose passes sample one mounted state, from any state. -/
theorem alternates {es : List ε} (h : Run.Always g.step g.Steady s es) : g.Alternates s es := by
  refine ⟨taken_chain h, ?_, ?_⟩
  · rintro pre e post rfl hkey report hr
    obtain ⟨a, -, -, rfl⟩ := mem_offers hr
    apply nextReport_release
    rw [sent_eq_lastSent ((Run.always_append _ _ _ _).1 h).1]
    exact hkey
  · rintro before f between e after rfl hf report hr hkey
    obtain ⟨a, -, hoffered, -⟩ := mem_offers hr
    obtain ⟨rfl, -⟩ := service_offered_key hoffered hkey
    have hstart : (g.usb (Run.exec g.step s (before ++ [f]))).desired = .release := by
      rw [Run.exec_concat]
      exact refused_desired hf
    have hexec : ∀ mid, Run.exec g.step s (before ++ f :: mid) =
        Run.exec g.step (Run.exec g.step s (before ++ [f])) mid := fun mid => by simp
    rw [hexec between] at hkey ⊢
    obtain ⟨pre, n, post, hsplit, hpub⟩ := published_between (s := Run.exec g.step s (before ++ [f]))
      (by
        intro hd
        rw [← hd, hstart] at hkey
        simp at hkey) rfl
    exact ⟨pre, n, post, hsplit, by rw [hexec pre]; exact hpub⟩

end LineSystem

/-- Explicit release between different keys, for the line with publishes of any report and for both
receivers, from any state, over any events whose passes sample one mounted state. -/
theorem release_between (p : Gamepad.Platform) :
    (∀ (l : UsbLine) (ops : List UsbLine.Op),
      Run.Always UsbLine.system.step UsbLine.system.Steady l ops → UsbLine.system.Alternates l ops) ∧
    (∀ (r : Gamepad.Receiver) (es : List Gamepad.Receiver.Event),
      Run.Always (Gamepad.Receiver.step p) (Gamepad.Receiver.lineSystem p).Steady r es →
        (Gamepad.Receiver.lineSystem p).Alternates r es) ∧
    ∀ (r : Mobile.Receiver) (es : List (UInt32 × Mobile.Receiver.Event)),
      Run.Always Mobile.Receiver.step Mobile.Receiver.lineSystem.Steady r es →
        Mobile.Receiver.lineSystem.Alternates r es :=
  ⟨fun _ _ h => LineSystem.alternates h, fun _ _ h => LineSystem.alternates h,
    fun _ _ h => LineSystem.alternates h⟩

/-- A key, another key before the release was sent, and a refused report. -/
theorem release_between_refused :
    let up : UsbLine := { tudMounted := true, wasMounted := true }
    UsbLine.system.Alternates up
      [.publish (keyReport 0 kKey1), .service {}, .publish (keyReport 0 kKey2), .service {},
        .service { taken := false }, .service {}] :=
  (release_between (.plain [])).1 _ _ (by decide +kernel)

end RedMonkeyMpg
