/-
What the registry selects, without its order: among the complete profiles of the probe's transport that
match at all, the one with the greatest match strength if it is the only one with it, and none if two
or more entries have it.
-/
import Mathlib.Data.List.ReduceOption
import RedMonkeyMpg.Input.Lite2
import RedMonkeyMpg.Lib.Greatest

namespace RedMonkeyMpg

/-- The match of a profile with a probe; a missing matcher matches nothing. -/
def matchOf (probe : ControllerProbe) (p : ControllerProfile) : ProfileMatch :=
  match p.matchProbe with
  | none => .unsupported
  | some matchProbe => matchProbe probe

/-- A complete profile of the probe's transport that matches it. -/
def Eligible (probe : ControllerProbe) (p : ControllerProfile) : Prop :=
  profileSupportsSafeMotion p = true ∧ p.transport = probe.transport ∧ matchOf probe p ≠ .unsupported

instance (probe : ControllerProbe) (p : ControllerProfile) : Decidable (Eligible probe p) :=
  inferInstanceAs (Decidable (_ ∧ _ ∧ _))

def eligible (profiles : List (Option ControllerProfile)) (probe : ControllerProbe) : List ControllerProfile :=
  profiles.reduceOption.filter (Eligible probe ·)

def strengthOf (probe : ControllerProbe) (p : ControllerProfile) : ℕ := (matchOf probe p).strength

/-- The eligible entries with the greatest match strength. -/
def strongest (profiles : List (Option ControllerProfile)) (probe : ControllerProbe) : List ControllerProfile :=
  Greatest.attaining (strengthOf probe) (eligible profiles probe)

theorem ProfileMatch.strength_inj {a b : ProfileMatch} : a.strength = b.strength ↔ a = b := by
  cases a <;> cases b <;> decide

/-! ## The scan -/

/-- The registry's scan and the plain one: the match it keeps is the best candidate's. -/
structure Follows (probe : ControllerProbe) (scan : ProfileScan) (s : Greatest.Scan ControllerProfile) : Prop where
  best : scan.best = s.best
  ambiguous : scan.ambiguous = s.ambiguous
  bestMatch : ∀ b, s.best = some b → scan.bestMatch = matchOf probe b

section Visit

variable {probe : ControllerProbe} {scan : ProfileScan} {s : Greatest.Scan ControllerProfile} {p : ControllerProfile}

/-- An entry that is not eligible is passed over. -/
theorem visit_ineligible (h : ¬ Eligible probe p) : scan.visit probe (some p) = scan := by
  unfold ProfileScan.visit
  dsimp only
  split
  · rfl
  · rename_i hcomplete
    simp only [Bool.not_eq_true, Bool.or_eq_false_iff, Bool.not_eq_false', decide_eq_false_iff_not,
      not_not] at hcomplete
    split
    · rfl
    · rename_i matchProbe hm
      have hnone : matchProbe probe = .unsupported := by
        by_contra hmatch
        exact h ⟨hcomplete.1, hcomplete.2, by simpa [matchOf, hm] using hmatch⟩
      rw [if_pos hnone]

/-- An eligible entry is compared with the best one. -/
theorem visit_eligible (h : Eligible probe p) :
    scan.visit probe (some p) =
      if scan.best.isNone || strengthOf probe p > scan.bestMatch.strength then
        { best := some p, bestMatch := matchOf probe p, ambiguous := false }
      else if matchOf probe p = scan.bestMatch then { scan with ambiguous := true }
      else scan := by
  obtain ⟨hcomplete, htransport, hmatch⟩ := h
  cases hm : p.matchProbe with
  | none => simp [matchOf, hm] at hmatch
  | some matchProbe =>
    have hfound : matchOf probe p = matchProbe probe := by simp [matchOf, hm]
    rw [strengthOf, hfound]
    rw [hfound] at hmatch
    simp [ProfileScan.visit, hcomplete, htransport, hm, hmatch]

theorem visit_follows (h : Follows probe scan s) (hp : Eligible probe p) :
    Follows probe (scan.visit probe (some p)) (Greatest.visit (strengthOf probe) s p) := by
  have found : ∀ b, some p = some b → matchOf probe p = matchOf probe b := fun b hb => by rw [Option.some.inj hb]
  rw [visit_eligible hp, Greatest.visit, h.best]
  cases hb : s.best with
  | none => exact ⟨rfl, rfl, found⟩
  | some b =>
    have hbest : scan.bestMatch.strength = strengthOf probe b := congrArg ProfileMatch.strength (h.bestMatch b hb)
    simp only [Option.isNone_some, Bool.false_or, decide_eq_true_eq, hbest, gt_iff_lt]
    by_cases hlt : strengthOf probe b < strengthOf probe p
    · rw [if_pos hlt, if_pos hlt]
      exact ⟨rfl, rfl, found⟩
    · rw [if_neg hlt, if_neg hlt]
      have hequal : strengthOf probe p = strengthOf probe b ↔ matchOf probe p = scan.bestMatch := by
        rw [← hbest]
        exact ProfileMatch.strength_inj
      by_cases heq : matchOf probe p = scan.bestMatch
      · rw [if_pos heq, if_pos (hequal.2 heq)]
        exact ⟨rfl, rfl, fun c hc => h.bestMatch c (hb.trans hc)⟩
      · rw [if_neg heq, if_neg (mt hequal.1 heq)]
        exact h

end Visit

theorem exec_follows {probe : ControllerProbe} (profiles : List (Option ControllerProfile)) {scan : ProfileScan}
    {s : Greatest.Scan ControllerProfile} (h : Follows probe scan s) :
    Follows probe (profiles.foldl (ProfileScan.visit probe) scan)
      ((eligible profiles probe).foldl (Greatest.visit (strengthOf probe)) s) := by
  induction profiles generalizing scan s with
  | nil => exact h
  | cons entry profiles ih =>
    cases entry with
    | none => exact ih h
    | some p =>
      rw [eligible, List.reduceOption_cons_of_some, List.foldl_cons]
      by_cases hp : Eligible probe p
      · rw [List.filter_cons_of_pos (by simpa using hp)]
        exact ih (visit_follows h hp)
      · rw [List.filter_cons_of_neg (by simpa using hp), visit_ineligible hp]
        exact ih h

/-! ## What is selected -/

/-- The selection is read off the entries with the greatest match strength. -/
theorem selectProfile_eq (profiles : List (Option ControllerProfile)) (probe : ControllerProbe) :
    selectProfile profiles probe =
      match strongest profiles probe with
      | [] => { status := .unsupported, profile := none }
      | [p] => { status := .matched, profile := some p }
      | _ :: _ :: _ => { status := .ambiguous, profile := none } := by
  have h : Follows probe (profiles.foldl (ProfileScan.visit probe) {})
      (Greatest.scan (strengthOf probe) (eligible profiles probe)) :=
    exec_follows profiles ⟨rfl, rfl, fun b hb => absurd hb (Option.some_ne_none b).symm⟩
  unfold selectProfile strongest
  dsimp only
  rw [h.best, h.ambiguous]
  split
  · rename_i hnone
    rw [Greatest.scan_best, List.argmax_eq_none] at hnone
    rw [hnone]
    rfl
  · rename_i best hbest
    split_ifs with hamb
    · rw [Greatest.scan_ambiguous] at hamb
      match Greatest.attaining (strengthOf probe) (eligible profiles probe), hamb with
      | _ :: _ :: _, _ => rfl
    · rw [(Greatest.scan_unique_iff _ best).1 ⟨hbest, Bool.not_eq_true _ ▸ hamb⟩]

theorem strongest_perm {profiles profiles' : List (Option ControllerProfile)} (h : profiles.Perm profiles')
    (probe : ControllerProbe) : (strongest profiles probe).Perm (strongest profiles' probe) :=
  Greatest.attaining_perm ((h.filterMap id).filter _)

/-- For every list of profiles and every probe: a profile is matched exactly when it is the only
eligible entry with the greatest match strength, the selection is ambiguous exactly when two or more
entries have it, unsupported exactly when there is none, and the order of the list does not matter. -/
theorem selectProfile_spec (profiles : List (Option ControllerProfile)) (probe : ControllerProbe) :
    (∀ p, selectProfile profiles probe = { status := .matched, profile := some p } ↔
      strongest profiles probe = [p]) ∧
    (selectProfile profiles probe = { status := .ambiguous, profile := none } ↔
      2 ≤ (strongest profiles probe).length) ∧
    (selectProfile profiles probe = { status := .unsupported, profile := none } ↔ eligible profiles probe = []) ∧
    ∀ profiles', profiles.Perm profiles' → selectProfile profiles' probe = selectProfile profiles probe := by
  have hnone : eligible profiles probe = [] ↔ strongest profiles probe = [] := Greatest.attaining_eq_nil_iff.symm
  rw [hnone]
  refine ⟨?_, ?_, ?_, fun profiles' hperm => ?_⟩
  · intro p
    rw [selectProfile_eq]
    rcases strongest profiles probe with _ | ⟨q, _ | ⟨r, rest⟩⟩ <;> simp
  · rw [selectProfile_eq]
    rcases strongest profiles probe with _ | ⟨q, _ | ⟨r, rest⟩⟩ <;> simp
  · rw [selectProfile_eq]
    rcases strongest profiles probe with _ | ⟨q, _ | ⟨r, rest⟩⟩ <;> simp
  · have hstrongest := strongest_perm hperm probe
    rw [selectProfile_eq, selectProfile_eq]
    rcases hs : strongest profiles probe with _ | ⟨q, _ | ⟨r, rest⟩⟩
    · rw [hs] at hstrongest
      rw [hstrongest.nil_eq]
    · rw [hs] at hstrongest
      rw [List.singleton_perm.1 hstrongest]
    · rw [hs] at hstrongest
      have hlen := hstrongest.length_eq
      rcases hs' : strongest profiles' probe with _ | ⟨q', _ | ⟨r', rest'⟩⟩
      · simp [hs'] at hlen
      · simp [hs'] at hlen
      · rfl

end RedMonkeyMpg
