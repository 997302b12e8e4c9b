/-
Runs of a deterministic step system: any state type, any event type and a total step function.
`exec` is the state after a list of events, `Always` says something of every step of a run, and
`Since` says that a `good` step happened and no `other` step after it. The rules are the invariant
rule over a run whose steps are admitted, the since rule, and the latch rule: a flag that only a `good` step can
raise, and that every `other` step lowers, is up only since a `good` step. The ranking rule says that a
run arrives somewhere. `collect` is what the steps put out, in order.
-/
import Mathlib.Data.List.Induction

namespace Run

variable {σ ε : Type*} (step : σ → ε → σ)

/-- The state after the events, oldest first. -/
def exec (s : σ) (es : List ε) : σ := es.foldl step s

@[simp] theorem exec_nil (s : σ) : exec step s [] = s := rfl

@[simp] theorem exec_cons (s : σ) (e : ε) (es : List ε) :
    exec step s (e :: es) = exec step (step s e) es := rfl

@[simp] theorem exec_append (s : σ) (es fs : List ε) :
    exec step s (es ++ fs) = exec step (exec step s es) fs := List.foldl_append

theorem exec_concat (s : σ) (es : List ε) (e : ε) :
    exec step s (es ++ [e]) = step (exec step s es) e := by simp

/-- Every step of the run satisfies `P` of the state before it and its event. -/
def Always (P : σ → ε → Prop) : σ → List ε → Prop
  | _, [] => True
  | s, e :: es => P s e ∧ Always P (step s e) es

/-- A step of the run was `good`, and no step after it was `other`. -/
def Since (other good : σ → ε → Prop) (s : σ) (es : List ε) : Prop :=
  ∃ pre e post, es = pre ++ e :: post ∧ good (exec step s pre) e ∧
    Always step (fun t f => ¬ other t f) (exec step s (pre ++ [e])) post

/-- The sum of `f` over the steps of the run. -/
def total (f : σ → ε → ℕ) : σ → List ε → ℕ
  | _, [] => 0
  | s, e :: es => f s e + total f (step s e) es

/-- What the steps of the run put out, in order. -/
def collect {β : Type*} (f : σ → ε → List β) : σ → List ε → List β
  | _, [] => []
  | s, e :: es => f s e ++ collect f (step s e) es

instance decidableAlways (P : σ → ε → Prop) [∀ s e, Decidable (P s e)] :
    ∀ (s : σ) (es : List ε), Decidable (Always step P s es)
  | _, [] => .isTrue trivial
  | s, e :: es =>
    have := decidableAlways P (step s e) es
    inferInstanceAs (Decidable (P s e ∧ Always step P (step s e) es))

variable {step}

/-! ## Steps of a run -/

@[simp] theorem always_nil (P : σ → ε → Prop) (s : σ) : Always step P s [] := trivial

@[simp] theorem always_cons (P : σ → ε → Prop) (s : σ) (e : ε) (es : List ε) :
    Always step P s (e :: es) ↔ P s e ∧ Always step P (step s e) es := Iff.rfl

@[simp] theorem always_append (P : σ → ε → Prop) :
    ∀ (s : σ) (es fs : List ε),
      Always step P s (es ++ fs) ↔ Always step P s es ∧ Always step P (exec step s es) fs
  | _, [], _ => by simp
  | s, e :: es, fs => by simp [always_append P (step s e) es fs, and_assoc]

theorem always_of_forall {P : σ → ε → Prop} (h : ∀ s e, P s e) :
    ∀ (s : σ) (es : List ε), Always step P s es
  | _, [] => trivial
  | s, e :: es => ⟨h s e, always_of_forall h (step s e) es⟩

theorem Always.and {P Q : σ → ε → Prop} {s : σ} {es : List ε} (hp : Always step P s es) (hq : Always step Q s es) :
    Always step (fun t e => P t e ∧ Q t e) s es := by
  induction es generalizing s with
  | nil => trivial
  | cons e es ih => exact ⟨⟨hp.1, hq.1⟩, ih hp.2 hq.2⟩

/-- Every step of a run, as the steps after its prefixes. -/
theorem always_iff_split (P : σ → ε → Prop) (s : σ) (es : List ε) :
    Always step P s es ↔ ∀ pre e post, es = pre ++ e :: post → P (exec step s pre) e := by
  constructor
  · rintro h pre e post rfl
    exact ((always_append _ _ _ _).1 h).2.1
  · intro h
    induction es generalizing s with
    | nil => trivial
    | cons e es ih =>
      refine ⟨h [] e es rfl, ih (step s e) fun pre f post hsplit => ?_⟩
      exact h (e :: pre) f post (by rw [hsplit, List.cons_append])

/-! ## Invariants -/

/-- A property kept by every admitted step holds after a run of admitted steps. -/
theorem invariant {I : σ → Prop} {P : σ → ε → Prop} (hstep : ∀ s e, I s → P s e → I (step s e))
    {s : σ} {es : List ε} (hp : Always step P s es) (hs : I s) : I (exec step s es) := by
  induction es generalizing s with
  | nil => exact hs
  | cons e es ih => exact ih hp.2 (hstep _ _ hs hp.1)

/-- A property kept by every step holds after every run. -/
theorem invariant_all {I : σ → Prop} (hstep : ∀ s e, I s → I (step s e)) {s : σ} (es : List ε)
    (hs : I s) : I (exec step s es) :=
  invariant (P := fun _ _ => True) (fun s e h _ => hstep s e h) (always_of_forall (fun _ _ => trivial) s es) hs

/-- What an invariant of the admitted steps implies holds of every step of a run of them. -/
theorem always_of_invariant {I : σ → Prop} {P Q : σ → ε → Prop} (hstep : ∀ s e, I s → P s e → I (step s e))
    (hQ : ∀ s e, I s → P s e → Q s e) {s : σ} {es : List ε} (hp : Always step P s es) (hs : I s) :
    Always step Q s es := by
  induction es generalizing s with
  | nil => trivial
  | cons e es ih => exact ⟨hQ _ _ hs hp.1, ih hp.2 (hstep _ _ hs hp.1)⟩

/-- A property that only an `other` step can break, and that does not hold after a run from a state with
it, was broken by an `other` step of the run. -/
theorem broken_between {I : σ → Prop} {other : σ → ε → Prop} (hstep : ∀ s e, I s → ¬ other s e → I (step s e))
    {s : σ} {es : List ε} (hs : I s) (h : ¬ I (exec step s es)) :
    ∃ pre e post, es = pre ++ e :: post ∧ other (exec step s pre) e := by
  by_contra hno
  push Not at hno
  exact h (invariant hstep ((always_iff_split _ s es).2 hno) hs)

/-- Two properties that agree on every step from a state of the invariant, which the steps with them
keep, hold of the same runs. -/
theorem always_congr {I : σ → Prop} {P Q : σ → ε → Prop} (hI : ∀ s e, I s → P s e → I (step s e))
    (hPQ : ∀ s e, I s → (P s e ↔ Q s e)) {s : σ} (es : List ε) (hs : I s) :
    Always step P s es ↔ Always step Q s es := by
  induction es generalizing s with
  | nil => exact Iff.rfl
  | cons e es ih =>
    rw [always_cons, always_cons, ← hPQ s e hs]
    exact and_congr_right fun hp => ih (hI s e hs hp)

/-- A property that every step from a state with it keeps exactly when the step is admitted holds all
along a run exactly when every step of the run is admitted. -/
theorem invariant_iff {I J : σ → Prop} {P : σ → ε → Prop} (hJ : ∀ s e, J s → J (step s e))
    (hstep : ∀ s e, J s → I s → (I (step s e) ↔ P s e)) {s : σ} {es : List ε} (hj : J s) (hs : I s) :
    (∀ pre post, es = pre ++ post → I (exec step s pre)) ↔ Always step P s es := by
  induction es generalizing s with
  | nil =>
    refine ⟨fun _ => trivial, fun _ pre post hnil => ?_⟩
    obtain ⟨rfl, -⟩ := List.append_eq_nil_iff.1 hnil.symm
    exact hs
  | cons e es ih =>
    constructor
    · intro h
      have hnext : I (step s e) := h [e] es rfl
      refine ⟨(hstep s e hj hs).1 hnext, (ih (hJ s e hj) hnext).1 fun pre post hsplit => ?_⟩
      exact h (e :: pre) post (by rw [hsplit, List.cons_append])
    · rintro ⟨hp, hrest⟩ pre post hsplit
      have hnext : I (step s e) := (hstep s e hj hs).2 hp
      cases pre with
      | nil => exact hs
      | cons f pre =>
        obtain ⟨rfl, rfl⟩ := List.cons.inj hsplit
        exact (ih (hJ s e hj) hnext).2 hrest pre post rfl

/-! ## Totals -/

@[simp] theorem total_cons (f : σ → ε → ℕ) (s : σ) (e : ε) (es : List ε) :
    total step f s (e :: es) = f s e + total step f (step s e) es := rfl

/-- A measure of the state that every step raises by `f` is raised by the total over the run. -/
theorem measure_add_total {f : σ → ε → ℕ} (measure : σ → ℕ → Prop)
    (hstep : ∀ s e n, measure s n → measure (step s e) (n + f s e)) {s : σ} {n : ℕ} (es : List ε)
    (hn : measure s n) : measure (exec step s es) (n + total step f s es) := by
  induction es generalizing s n with
  | nil => exact hn
  | cons e es ih =>
    rw [total_cons, ← Nat.add_assoc]
    exact ih (hstep s e n hn)

section Collect

variable {β : Type*} (f : σ → ε → List β)

@[simp] theorem collect_nil (s : σ) : collect step f s [] = [] := rfl

@[simp] theorem collect_cons (s : σ) (e : ε) (es : List ε) :
    collect step f s (e :: es) = f s e ++ collect step f (step s e) es := rfl

@[simp] theorem collect_append (s : σ) (es fs : List ε) :
    collect step f s (es ++ fs) = collect step f s es ++ collect step f (exec step s es) fs := by
  induction es generalizing s with
  | nil => rfl
  | cons e es ih => simp [ih]

end Collect

/-! ## Refinement -/

/-- When every step is a run of the abstract system, so is every run. -/
theorem exec_refines {τ δ : Type*} {step' : τ → δ → τ} {π : σ → τ} {f : σ → ε → List δ}
    (hstep : ∀ s e, π (step s e) = exec step' (π s) (f s e)) (s : σ) (es : List ε) :
    π (exec step s es) = exec step' (π s) (collect step f s es) := by
  induction es generalizing s with
  | nil => rfl
  | cons e es ih => rw [exec_cons, ih, hstep, collect_cons, exec_append]

/-! ## Since -/

theorem since_concat {other good : σ → ε → Prop} {s : σ} {es : List ε} {e : ε}
    (h : good (exec step s es) e ∨ Since step other good s es ∧ ¬ other (exec step s es) e) :
    Since step other good s (es ++ [e]) := by
  rcases h with h | ⟨⟨pre, f, post, rfl, hg, hp⟩, ho⟩
  · exact ⟨es, e, [], rfl, h, trivial⟩
  · refine ⟨pre, f, post ++ [e], by simp, hg, (always_append _ _ _ _).2 ⟨hp, ?_, trivial⟩⟩
    simpa using ho

/-- The step that is since the `good` one, or before it. -/
theorem since_concat_iff {other good : σ → ε → Prop} {s : σ} {es : List ε} {e : ε} :
    Since step other good s (es ++ [e]) ↔
      good (exec step s es) e ∨ Since step other good s es ∧ ¬ other (exec step s es) e := by
  refine ⟨?_, since_concat⟩
  rintro ⟨pre, f, post, hsplit, hg, hp⟩
  induction post using List.reverseRecOn with
  | nil =>
    obtain ⟨rfl, hef⟩ := List.append_inj' hsplit rfl
    obtain rfl : e = f := List.singleton_inj.1 hef
    exact .inl hg
  | append_singleton post g _ =>
    rw [← List.cons_append, ← List.append_assoc] at hsplit
    obtain ⟨rfl, heg⟩ := List.append_inj' hsplit rfl
    obtain rfl : e = g := List.singleton_inj.1 heg
    rw [always_append] at hp
    refine .inr ⟨⟨pre, f, post, rfl, hg, hp.1⟩, ?_⟩
    simpa using hp.2.1

theorem since_cons_iff {other good : σ → ε → Prop} {s : σ} {e : ε} {es : List ε} :
    Since step other good s (e :: es) ↔
      (good s e ∧ Always step (fun t f => ¬ other t f) (step s e) es) ∨ Since step other good (step s e) es := by
  constructor
  · rintro ⟨pre, f, post, hsplit, hg, hp⟩
    cases pre with
    | nil =>
      obtain ⟨rfl, rfl⟩ := List.cons.inj hsplit
      exact .inl ⟨hg, hp⟩
    | cons g pre =>
      obtain ⟨rfl, rfl⟩ := List.cons.inj hsplit
      exact .inr ⟨pre, f, post, rfl, hg, hp⟩
  · rintro (⟨hg, hp⟩ | ⟨pre, f, post, rfl, hg, hp⟩)
    · exact ⟨[], e, es, rfl, hg, hp⟩
    · exact ⟨e :: pre, f, post, rfl, hg, hp⟩

theorem not_since_nil {other good : σ → ε → Prop} {s : σ} : ¬ Since step other good s [] := by
  rintro ⟨pre, e, post, hnil, -⟩
  simp at hnil

instance decidableSince (other good : σ → ε → Prop) [∀ s e, Decidable (other s e)] [∀ s e, Decidable (good s e)] :
    ∀ (s : σ) (es : List ε), Decidable (Since step other good s es)
  | _, [] => .isFalse not_since_nil
  | s, e :: es =>
    have := decidableSince other good (step s e) es
    decidable_of_iff _ (since_cons_iff (e := e)).symm

/-- The since rule: what a `good` step establishes and every later step that is not `other` keeps. -/
theorem since_induct {other good : σ → ε → Prop} {s : σ} {motive : List ε → Prop}
    (hgood : ∀ es e, good (exec step s es) e → motive (es ++ [e]))
    (hother : ∀ es e, Since step other good s es → ¬ other (exec step s es) e → motive es → motive (es ++ [e]))
    {es : List ε} (h : Since step other good s es) : motive es := by
  induction es using List.reverseRecOn with
  | nil =>
    exact absurd h not_since_nil
  | append_singleton es e ih =>
    rcases since_concat_iff.1 h with hg | ⟨hsince, hno⟩
    · exact hgood es e hg
    · exact hother es e hsince hno (ih hsince)

/-- A run without an `other` step after the `good` one. -/
theorem since_of_not_mem {other good : σ → ε → Prop} {s : σ} {pre post : List ε} {e : ε}
    (hg : good (exec step s pre) e)
    (hno : ∀ mid f rest, post = mid ++ f :: rest → ¬ other (exec step s (pre ++ e :: mid)) f) :
    Since step other good s (pre ++ e :: post) := by
  refine ⟨pre, e, post, rfl, hg, (always_iff_split _ _ _).2 fun mid f rest hpost => ?_⟩
  simpa using hno mid f rest hpost

/-- A latch that a step leaves up exactly when it is `good`, or found the latch up and is not `other`, is
up after a run exactly since a `good` step. -/
theorem latch_iff_since (latch : σ → Prop) {other good : σ → ε → Prop}
    (hstep : ∀ s e, latch (step s e) ↔ good s e ∨ latch s ∧ ¬ other s e) {s : σ} (es : List ε)
    (hdown : ¬ latch s) : latch (exec step s es) ↔ Since step other good s es := by
  induction es using List.reverseRecOn with
  | nil =>
    exact iff_of_false hdown not_since_nil
  | append_singleton es e ih => rw [exec_concat, hstep, ih, since_concat_iff]

/-- The same over admitted steps, from any state: the latch is up since a `good` step, or was up at the
start and no step was `other`. -/
theorem latch_iff_since_or (I : σ → Prop) (P : σ → ε → Prop) (latch : σ → Prop) {other good : σ → ε → Prop}
    (hI : ∀ s e, I s → P s e → I (step s e))
    (hstep : ∀ s e, I s → P s e → (latch (step s e) ↔ good s e ∨ latch s ∧ ¬ other s e))
    {s : σ} {es : List ε} (hP : Always step P s es) (hs : I s) :
    latch (exec step s es) ↔
      Since step other good s es ∨ latch s ∧ Always step (fun t e => ¬ other t e) s es := by
  induction es using List.reverseRecOn with
  | nil => simp [not_since_nil]
  | append_singleton es e ih =>
    rw [always_append] at hP
    have hinv : I (exec step s es) := invariant hI hP.1 hs
    rw [exec_concat, hstep _ _ hinv hP.2.1, ih hP.1, since_concat_iff, always_append]
    simp only [always_cons, always_nil, and_true]
    tauto

/-- The latch rule. Every admitted step after which the latch is up was `good`, or found the latch
up and was not `other`; a run of admitted steps from a state with the latch down that ends with
the latch up has a `good` step with no `other` step after it. -/
theorem since_of_latch (I : σ → Prop) (P : σ → ε → Prop) (latch : σ → Prop) {other good : σ → ε → Prop}
    (hI : ∀ s e, I s → P s e → I (step s e))
    (hstep : ∀ s e, I s → P s e → latch (step s e) → good s e ∨ latch s ∧ ¬ other s e)
    {s : σ} {es : List ε} (hP : Always step P s es) (hs : I s) (hdown : ¬ latch s)
    (hup : latch (exec step s es)) : Since step other good s es := by
  induction es using List.reverseRecOn with
  | nil => exact absurd hup hdown
  | append_singleton es e ih =>
    rw [always_append] at hP
    rw [exec_concat] at hup
    have hinv : I (exec step s es) := invariant hI hP.1 hs
    rcases hstep _ _ hinv hP.2.1 hup with h | ⟨hl, ho⟩
    · exact since_concat (.inl h)
    · exact since_concat (.inr ⟨ih hP.1 hl, ho⟩)

end Run
