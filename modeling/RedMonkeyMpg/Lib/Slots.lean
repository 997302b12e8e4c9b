/-
A store of two slots written in turn: reading picks the newer of the readable records, writing
goes to the slot not in use. `newer` is any relation between records, such as a wrapping serial
number comparison, and need not be an order. What matters of a new record is only how it compares
with the record in use: if it is newer, and that one is not newer than it, the new record is
picked next; erasing the slot not in use changes nothing.
-/
import Mathlib.Logic.Basic

namespace Slots

inductive Side where
  | a
  | b
  deriving DecidableEq, Repr

def Side.other : Side → Side
  | .a => .b
  | .b => .a

@[simp] theorem Side.other_other (s : Side) : s.other.other = s := by cases s <;> rfl

@[simp] theorem Side.other_ne (s : Side) : s.other ≠ s := by cases s <;> decide

@[simp] theorem Side.ne_other (s : Side) : s ≠ s.other := by cases s <;> decide

variable {α : Type*}

/-- The slot a writer uses: not the one in use, and `a` when none is. -/
def target : Option Side → Side
  | some .a => .b
  | _ => .a

theorem target_some (s : Side) : target (some s) = s.other := by cases s <;> rfl

/-- The record a reader picks, with its slot. -/
def pick (newer : α → α → Bool) (slots : Side → Option α) : Option (Side × α) :=
  match slots .a, slots .b with
  | none, none => none
  | some x, none => some (.a, x)
  | none, some y => some (.b, y)
  | some x, some y => if newer y x then some (.b, y) else some (.a, x)

/-- The slots after a write. -/
def put (slots : Side → Option α) (s : Side) (x : Option α) : Side → Option α :=
  fun t => if t = s then x else slots t

@[simp] theorem put_same (slots : Side → Option α) (s : Side) (x : Option α) : put slots s x s = x := by
  simp [put]

/-- Slots that agree with others off one side are those after a write there. -/
theorem eq_put {slots slots' : Side → Option α} {s : Side} (h : ∀ t, t ≠ s → slots' t = slots t) :
    slots' = put slots s (slots' s) := by
  funext t
  unfold put
  split
  · rename_i ht
    rw [ht]
  · rename_i ht
    exact h t ht

@[simp] theorem put_self (slots : Side → Option α) (s : Side) : put slots s (slots s) = slots :=
  (eq_put fun _ _ => rfl).symm

@[simp] theorem put_put (slots : Side → Option α) (s : Side) (x y : Option α) :
    put (put slots s x) s y = put slots s y := by
  funext t
  unfold put
  split <;> rfl

variable {newer : α → α → Bool} {slots : Side → Option α}

theorem pick_none : pick newer slots = none ↔ slots .a = none ∧ slots .b = none := by
  unfold pick
  split
  · rename_i ha hb
    exact ⟨fun _ => ⟨ha, hb⟩, fun _ => rfl⟩
  · rename_i ha hb
    simp [ha]
  · rename_i ha hb
    simp [hb]
  · rename_i ha hb
    split <;> simp [ha]

theorem pick_some {s : Side} {x : α} (h : pick newer slots = some (s, x)) : slots s = some x := by
  unfold pick at h
  split at h
  · cases h
  · rename_i ha hb
    cases h
    exact ha
  · rename_i ha hb
    cases h
    exact hb
  · rename_i ha hb
    split at h <;> cases h
    · exact hb
    · exact ha

/-- With one slot unreadable the other one is picked. -/
theorem pick_only {s : Side} {x : α} (h : slots s = some x) (ho : slots s.other = none) :
    pick newer slots = some (s, x) := by
  cases s <;> simp only [Side.other] at ho <;> simp [pick, h, ho]

/-- Between two readable records the strictly newer one is picked. -/
theorem pick_newer {s : Side} {x y : α} (h : slots s = some x) (ho : slots s.other = some y)
    (hxy : newer x y = true) (hyx : newer y x = false) : pick newer slots = some (s, x) := by
  cases s <;> simp only [Side.other] at ho <;> simp [pick, h, ho, hxy, hyx]

/-- Losing the slot not in use loses nothing. -/
theorem pick_erase {s : Side} {y : α} (h : pick newer slots = some (s, y)) :
    pick newer (put slots s.other none) = some (s, y) :=
  pick_only (by simp [put, pick_some h]) (put_same ..)

theorem pick_erase_empty (h : pick newer slots = none) : pick newer (put slots .a none) = none :=
  pick_none.2 ⟨put_same .., by simpa [put] using (pick_none.1 h).2⟩

/-- The slot not in use can be lost whatever is in use. -/
theorem pick_erase_target : pick newer (put slots (target ((pick newer slots).map Prod.fst)) none) =
    pick newer slots := by
  cases h : pick newer slots with
  | none => exact pick_erase_empty h
  | some p =>
    obtain ⟨s, y⟩ := p
    rw [Option.map_some, target_some]
    exact pick_erase h

end Slots
