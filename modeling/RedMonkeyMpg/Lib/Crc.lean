/-
Checksums by a linear shift register: a register of any width, a step that is linear over exclusive or
and takes only zero to zero, and a run over symbols that are put into the register before each step.
The register after a message determines the register before it, so a change inside a window that the
register tells apart is never undone by what follows; and a run over changed symbols differs from the
run over the original ones by the syndrome of the changes, which depends on their places only.
-/
import Mathlib.Data.Finset.Card
import Mathlib.Data.List.Zip
import Mathlib.Logic.Function.Iterate
import Mathlib.Tactic

/-- The step of a shift register of `w` bits. -/
structure ShiftRegister (w : ℕ) where
  step : BitVec w → BitVec w
  step_xor : ∀ a b, step (a ^^^ b) = step a ^^^ step b
  step_eq_zero : ∀ a, step a = 0#w → a = 0#w

namespace ShiftRegister

variable {w : ℕ} (S : ShiftRegister w)

/-- A symbol is put into the register, and the register moves. -/
def feed (r d : BitVec w) : BitVec w := S.step (r ^^^ d)

def run (r : BitVec w) (ds : List (BitVec w)) : BitVec w := ds.foldl S.feed r

@[simp] theorem run_nil (r : BitVec w) : S.run r [] = r := rfl

@[simp] theorem run_cons (r d : BitVec w) (ds : List (BitVec w)) : S.run r (d :: ds) = S.run (S.step (r ^^^ d)) ds := rfl

theorem run_append (r : BitVec w) (ds es : List (BitVec w)) : S.run r (ds ++ es) = S.run (S.run r ds) es :=
  List.foldl_append

theorem run_concat (r d : BitVec w) (ds : List (BitVec w)) : S.run r (ds ++ [d]) = S.step (S.run r ds ^^^ d) := by
  rw [run_append]
  rfl

/-- The same change on both sides of a difference goes away. -/
theorem xor_pair (a b p : BitVec w) : (a ^^^ p) ^^^ (b ^^^ p) = a ^^^ b := by
  calc (a ^^^ p) ^^^ (b ^^^ p) = a ^^^ b ^^^ (p ^^^ p) := by ac_rfl
    _ = a ^^^ b := by rw [BitVec.xor_self, BitVec.xor_zero]

/-! ## The step -/

@[simp] theorem step_zero : S.step 0#w = 0#w := by
  have h := S.step_xor 0#w 0#w
  rwa [BitVec.xor_self, BitVec.xor_self] at h

theorem step_injective : Function.Injective S.step := by
  intro a b h
  have hdiff : S.step (a ^^^ b) = 0#w := by
    rw [S.step_xor, h]
    exact BitVec.xor_self
  have := S.step_eq_zero _ hdiff
  rwa [← BitVec.xor_eq_zero_iff]

/-- Several steps are the step of a register. -/
def iterate (n : ℕ) : ShiftRegister w where
  step := S.step^[n]
  step_xor a b := by
    induction n generalizing a b with
    | zero => rfl
    | succ n ih => rw [Function.iterate_succ_apply, S.step_xor, ih]; rfl
  step_eq_zero a h := by
    have hzero : S.step^[n] 0#w = 0#w := Function.iterate_fixed S.step_zero n
    exact S.step_injective.iterate n (h.trans hzero.symm)

/-! ## Injectivity -/

/-- The register after a message determines the register before it. -/
theorem run_injective (ds : List (BitVec w)) : Function.Injective (S.run · ds) := by
  induction ds with
  | nil => exact fun a b h => h
  | cons d ds ih =>
    intro a b h
    have hstep := S.step_injective (ih h)
    exact (BitVec.xor_left_inj d).1 hstep

/-- Two messages that agree around a window and leave the same register have windows that the register
does not tell apart. -/
theorem run_window {r : BitVec w} {pre ds es post : List (BitVec w)}
    (h : S.run r (pre ++ ds ++ post) = S.run r (pre ++ es ++ post)) :
    S.run (S.run r pre) ds = S.run (S.run r pre) es := by
  simp only [run_append] at h
  exact S.run_injective post h

/-! ## Linearity -/

theorem run_xor {ds es : List (BitVec w)} (h : ds.length = es.length) (a b : BitVec w) :
    S.run (a ^^^ b) (List.zipWith (· ^^^ ·) ds es) = S.run a ds ^^^ S.run b es := by
  induction ds generalizing es a b with
  | nil =>
    rw [List.length_eq_zero_iff.1 h.symm]
    rfl
  | cons d ds ih =>
    cases es with
    | nil => cases h
    | cons e es =>
      rw [List.zipWith_cons_cons, run_cons, run_cons, run_cons]
      rw [← ih (by simpa using h), ← S.step_xor]
      congr 2
      ac_rfl

/-- What was in the register before a message only moves. -/
theorem run_start (r : BitVec w) (ds : List (BitVec w)) : S.run r ds = S.step^[ds.length] r ^^^ S.run 0#w ds := by
  induction ds using List.reverseRecOn with
  | nil => exact BitVec.xor_zero.symm
  | append_singleton ds d ih =>
    rw [run_concat, run_concat, ih, List.length_append, List.length_singleton, Function.iterate_succ_apply',
      ← S.step_xor, BitVec.xor_assoc]

/-! ## Syndromes -/

/-- The register after `n` symbols that are `e` at the places of `T` and zero elsewhere. -/
def syndrome (e : BitVec w) (T : Finset ℕ) : ℕ → BitVec w
  | 0 => 0#w
  | n + 1 => S.step (syndrome e T n ^^^ if n ∈ T then e else 0#w)

variable {e : BitVec w} {T : Finset ℕ} {n : ℕ}

theorem run_syndrome (e : BitVec w) (T : Finset ℕ) (n : ℕ) :
    S.run 0#w ((List.range n).map fun i => if i ∈ T then e else 0#w) = S.syndrome e T n := by
  induction n with
  | zero => rfl
  | succ n ih =>
    rw [List.range_succ, List.map_append, List.map_singleton, run_concat, ih]
    rfl

/-- Changing the symbols at the places of `T` by `e` changes the register by the syndrome. -/
theorem run_changed (r : BitVec w) (ds : List (BitVec w)) (e : BitVec w) (T : Finset ℕ) :
    S.run r (ds.mapIdx fun i d => d ^^^ if i ∈ T then e else 0#w) = S.run r ds ^^^ S.syndrome e T ds.length := by
  rw [← run_syndrome, ← S.run_xor (by simp), BitVec.xor_zero]
  congr 1
  refine List.ext_getElem (by simp) fun i hi hi' => ?_
  simp

/-- Nothing happens before the first place. -/
theorem syndrome_eq_zero (h : ∀ i ∈ T, n ≤ i) : S.syndrome e T n = 0#w := by
  induction n with
  | zero => rfl
  | succ n ih =>
    have hn : n ∉ T := fun hT => absurd (h n hT) (by omega)
    rw [syndrome, ih fun i hi => Nat.le_of_succ_le (h i hi), if_neg hn, BitVec.xor_self, step_zero]

/-- Behind the last place the register only moves. -/
theorem syndrome_add {m : ℕ} (h : ∀ i ∈ T, i < m) (n : ℕ) : S.syndrome e T (m + n) = S.step^[n] (S.syndrome e T m) := by
  induction n with
  | zero => rfl
  | succ n ih =>
    have hn : m + n ∉ T := fun hT => absurd (h _ hT) (by omega)
    rw [← Nat.add_assoc, syndrome, ih, if_neg hn, BitVec.xor_zero, Function.iterate_succ_apply']

theorem syndrome_union {U : Finset ℕ} (h : Disjoint T U) (n : ℕ) :
    S.syndrome e (T ∪ U) n = S.syndrome e T n ^^^ S.syndrome e U n := by
  induction n with
  | zero => exact BitVec.xor_self.symm
  | succ n ih =>
    rw [syndrome, syndrome, syndrome, ih, ← S.step_xor]
    have hput : (if n ∈ T ∪ U then e else 0#w) = (if n ∈ T then e else 0#w) ^^^ (if n ∈ U then e else 0#w) := by
      by_cases hT : n ∈ T
      · have hU : n ∉ U := Finset.disjoint_left.1 h hT
        simp [hT, hU]
      · simp [hT]
    rw [hput]
    congr 1
    ac_rfl

theorem syndrome_singleton {p : ℕ} (hp : p < n) : S.syndrome e {p} n = S.step^[n - p] e := by
  obtain ⟨k, rfl⟩ := Nat.exists_eq_add_of_lt hp
  have hfirst : S.syndrome e {p} (p + 1) = S.step e := by
    rw [syndrome, S.syndrome_eq_zero (by simp), if_pos (Finset.mem_singleton_self p), BitVec.zero_xor]
  rw [show p + k + 1 = p + 1 + k by omega, S.syndrome_add (by simp), hfirst, ← Function.iterate_succ_apply]
  congr 1
  omega

/-- Two changes are told apart from none while the register has not come round between them. -/
theorem syndrome_pair_ne_zero {period p q : ℕ} (hperiod : ∀ k, 0 < k → k < period → S.step^[k] e ≠ e)
    (hpq : p < q) (hq : q < n) (hn : n ≤ period) : S.syndrome e {p, q} n ≠ 0#w := by
  intro h
  have hunion : ({p, q} : Finset ℕ) = {p} ∪ {q} := rfl
  rw [hunion, S.syndrome_union (by simpa using hpq.ne), S.syndrome_singleton (hpq.trans hq), S.syndrome_singleton hq,
    BitVec.xor_eq_zero_iff, show n - p = (n - q) + (q - p) by omega, Function.iterate_add_apply] at h
  exact hperiod (q - p) (by omega) (by omega) (S.step_injective.iterate _ h)

/-- A linear parity that the step keeps and every change flips is the parity of the number of changes. -/
theorem syndrome_parity {φ : BitVec w → Bool} (hxor : ∀ a b, φ (a ^^^ b) = (φ a ^^ φ b))
    (hstep : ∀ a, φ (S.step a) = φ a) (he : φ e = true) (h : ∀ i ∈ T, i < n) :
    φ (S.syndrome e T n) = decide (Odd T.card) := by
  have hzero : φ 0#w = false := by
    have := hxor 0#w 0#w
    rwa [BitVec.xor_self, Bool.xor_self] at this
  have hbelow : ∀ n, φ (S.syndrome e T n) = decide (Odd (T.filter (· < n)).card) := by
    intro n
    induction n with
    | zero => simp [syndrome, hzero]
    | succ n ih =>
      rw [syndrome, hstep, hxor, ih]
      by_cases hn : n ∈ T
      · have hinsert : T.filter (· < n + 1) = insert n (T.filter (· < n)) := by
          ext i
          simp only [Finset.mem_filter, Finset.mem_insert]
          grind
        rw [if_pos hn, he, hinsert, Finset.card_insert_of_notMem (by simp), Bool.xor_true, ← decide_not,
          decide_eq_decide, Nat.odd_add_one]
      · have hsame : T.filter (· < n + 1) = T.filter (· < n) := by
          refine Finset.filter_congr fun i hi => ?_
          grind
        rw [if_neg hn, hzero, hsame, Bool.xor_false]
  rw [hbelow, Finset.filter_true_of_mem h]

/-- Changes inside a window of `m` places leave what the changes at the start of a message of length `m`
leave, moved on. -/
theorem syndrome_window {k m : ℕ} (h : ∀ i ∈ T, k ≤ i ∧ i < k + m) (hn : k + m ≤ n) :
    S.syndrome e T n = S.step^[n - (k + m)] (S.run 0#w ((List.range m).map fun i => if k + i ∈ T then e else 0#w)) := by
  obtain ⟨j, rfl⟩ := Nat.exists_eq_add_of_le hn
  rw [S.syndrome_add fun i hi => (h i hi).2, Nat.add_sub_cancel_left, ← run_syndrome, List.range_add, List.map_append,
    run_append, run_syndrome, S.syndrome_eq_zero fun i hi => (h i hi).1, List.map_map]
  rfl

end ShiftRegister
