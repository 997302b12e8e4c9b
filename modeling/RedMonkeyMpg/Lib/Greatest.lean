/-
A scan for the greatest item of a list that also notes whether it is the only one: any items, ranked
by a key in any linear order. The scan's best is the library's `argmax`, and it is ambiguous exactly
when two entries or more attain the greatest key; the order of the list does not matter to either
verdict.
-/
import Mathlib.Data.List.MinMax
import Mathlib.Data.List.Perm.Basic

namespace Greatest

variable {α κ : Type*} [LinearOrder κ] (key : α → κ)

/-- The best item so far, and whether another one equals it. -/
structure Scan (α : Type*) where
  best : Option α := none
  ambiguous : Bool := false

/-- A greater item clears the ambiguity, an equal one sets it. -/
def visit (s : Scan α) (a : α) : Scan α :=
  match s.best with
  | none => { best := some a }
  | some b =>
    if key b < key a then { best := some a }
    else if key a = key b then { s with ambiguous := true }
    else s

def scan (l : List α) : Scan α := l.foldl (visit key) {}

/-- The entries that attain the greatest key of the list. -/
def attaining (l : List α) : List α := l.filter fun a => l.all fun b => key b ≤ key a

/-! ## The entries with the greatest key -/

variable {key} {l : List α} {a m : α}

theorem mem_attaining : a ∈ attaining key l ↔ a ∈ l ∧ ∀ b ∈ l, key b ≤ key a := by
  simp [attaining]

theorem attaining_perm {l' : List α} (h : l.Perm l') : (attaining key l).Perm (attaining key l') := by
  have hsame : (fun a => l.all fun b => key b ≤ key a) = fun a => l'.all fun b => decide (key b ≤ key a) :=
    funext fun a => h.all_eq
  rw [attaining, attaining, hsame]
  exact h.filter _

theorem attaining_of_argmax (h : m ∈ l.argmax key) : attaining key l = l.filter fun a => key a = key m := by
  refine List.filter_congr fun a ha => ?_
  rw [Bool.eq_iff_iff, List.all_eq_true, decide_eq_true_eq]
  constructor
  · intro hall
    have hm := of_decide_eq_true (hall m (List.argmax_mem h))
    exact le_antisymm (List.le_of_mem_argmax ha h) hm
  · intro ha b hb
    rw [decide_eq_true_eq, ha]
    exact List.le_of_mem_argmax hb h

theorem attaining_eq_nil_iff : attaining key l = [] ↔ l = [] := by
  constructor
  · intro h
    cases hm : l.argmax key with
    | none => exact List.argmax_eq_none.1 hm
    | some m =>
      have hmem : m ∈ attaining key l :=
        mem_attaining.2 ⟨List.argmax_mem hm, fun b hb => List.le_of_mem_argmax hb hm⟩
      rw [h] at hmem
      cases hmem
  · rintro rfl
    rfl

/-- One more item than a list whose greatest item is `m`. -/
theorem attaining_concat (h : m ∈ l.argmax key) (a : α) :
    attaining key (l ++ [a]) =
      if key m < key a then [a] else if key a = key m then attaining key l ++ [a] else attaining key l := by
  have hconcat : (l ++ [a]).argmax key = if key m < key a then some a else some m := by
    rw [List.argmax_concat, Option.mem_def.1 h]
  split_ifs with hlt heq
  · rw [if_pos hlt] at hconcat
    rw [attaining_of_argmax (Option.mem_def.2 hconcat), List.filter_append, List.filter_eq_nil_iff.2]
    · simp
    · intro b hb heq
      have hle := List.le_of_mem_argmax hb h
      rw [of_decide_eq_true heq] at hle
      exact absurd hlt (not_lt.2 hle)
  · rw [if_neg hlt] at hconcat
    rw [attaining_of_argmax (Option.mem_def.2 hconcat), attaining_of_argmax h, List.filter_append]
    simp [heq]
  · rw [if_neg hlt] at hconcat
    rw [attaining_of_argmax (Option.mem_def.2 hconcat), attaining_of_argmax h, List.filter_append]
    simp [heq]

/-! ## What the scan finds -/

theorem scan_concat (l : List α) (a : α) : scan key (l ++ [a]) = visit key (scan key l) a := by
  simp [scan]

theorem scan_best (l : List α) : (scan key l).best = l.argmax key := by
  induction l using List.reverseRecOn with
  | nil => rfl
  | append_singleton l a ih =>
    rw [scan_concat, List.argmax_concat, visit]
    rw [← ih]
    cases hb : (scan key l).best with
    | none => rfl
    | some b =>
      dsimp only
      split_ifs with hlt
      · rfl
      · rfl
      · exact hb

theorem scan_ambiguous (l : List α) : (scan key l).ambiguous = true ↔ 2 ≤ (attaining key l).length := by
  induction l using List.reverseRecOn with
  | nil => simp [scan, attaining]
  | append_singleton l a ih =>
    rw [scan_concat, visit]
    cases hb : (scan key l).best with
    | none =>
      rw [scan_best, List.argmax_eq_none] at hb
      subst hb
      simp [attaining]
    | some m =>
      rw [scan_best] at hb
      rw [attaining_concat (Option.mem_def.2 hb)]
      have hone : attaining key l ≠ [] := by
        rw [Ne, attaining_eq_nil_iff]
        rintro rfl
        cases hb
      have hpos := List.length_pos_iff.2 hone
      dsimp only
      split_ifs with hlt heq
      · simp
      · refine iff_of_true rfl ?_
        rw [List.length_append, List.length_singleton]
        omega
      · exact ih

/-- The only entry with the greatest key is the best of the scan. -/
theorem scan_unique_iff (l : List α) (p : α) :
    (scan key l).best = some p ∧ (scan key l).ambiguous = false ↔ attaining key l = [p] := by
  rw [← Bool.not_eq_true, scan_ambiguous, scan_best]
  constructor
  · rintro ⟨hbest, hone⟩
    have hp : p ∈ attaining key l :=
      mem_attaining.2 ⟨List.argmax_mem hbest, fun b hb => List.le_of_mem_argmax hb hbest⟩
    have hlen : (attaining key l).length = 1 := by
      have := List.length_pos_of_mem hp
      omega
    obtain ⟨q, hq⟩ := List.length_eq_one_iff.1 hlen
    rw [hq] at hp ⊢
    rw [List.mem_singleton.1 hp]
  · intro h
    refine ⟨?_, by rw [h]; exact Nat.not_succ_le_self 1⟩
    cases hm : l.argmax key with
    | none =>
      rw [List.argmax_eq_none.1 hm] at h
      cases h
    | some m =>
      have hmem : m ∈ attaining key l :=
        mem_attaining.2 ⟨List.argmax_mem hm, fun b hb => List.le_of_mem_argmax hb hm⟩
      rw [h] at hmem
      rw [List.mem_singleton.1 hmem]

end Greatest
