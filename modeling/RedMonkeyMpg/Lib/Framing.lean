/-
Framing of a stream of items: an item that ends a frame, items that are dropped, items that spoil
their frame, and a limit on what a frame may hold. `push` is the machine, one item at a time, with
a bounded buffer; `frames` is the split of a stream that was read, in which `none` marks where the
reader abandoned an unfinished frame. The machine's state after a stream is a function of the items
since the last cut, and what it emits are the stream's frames. Items that only end frames or are
dropped leave no trace in the frames of what follows them.
-/
import Mathlib.Data.List.Basic
import Mathlib.Data.List.ReduceOption

/-- What ends a frame, what is dropped, what spoils a frame, and how much a frame may hold. -/
structure Framing (α : Type*) where
  ends : α → Bool
  skipped : α → Bool
  bad : α → Bool
  limit : ℕ

namespace Framing

variable {α : Type*} (F : Framing α)

/-- A frame with its content, or one that was too long or spoilt. -/
inductive Frame (α : Type*) where
  | line (content : List α)
  | rejected
  deriving DecidableEq

/-! ## The machine -/

structure State (α : Type*) where
  buffer : List α := []
  overflow : Bool := false
  deriving DecidableEq

/-- What the end of a frame emits. -/
def close (s : State α) : Option (Frame α) :=
  if s.overflow then some .rejected else if s.buffer = [] then none else some (.line s.buffer)

/-- One item. -/
def push (s : State α) (a : α) : State α × Option (Frame α) :=
  if F.ends a then ({}, close s)
  else if F.skipped a then (s, none)
  else if F.bad a then ({ s with overflow := true }, none)
  else if s.buffer.length < F.limit then ({ s with buffer := s.buffer ++ [a] }, none)
  else ({ s with overflow := true }, none)

/-- The frames that some items emit. -/
def emits (s : State α) : List α → List (Frame α)
  | [] => []
  | a :: as => (F.push s a).2.toList ++ emits (F.push s a).1 as

/-! ## The reference split -/

/-- The items of a frame that are not dropped. -/
def kept (content : List α) : List α := content.filter (!F.skipped ·)

/-- The frame of the items between two ends. -/
def frame (content : List α) : Option (Frame α) :=
  if (F.kept content).any F.bad ∨ F.limit < (F.kept content).length then some .rejected
  else if F.kept content = [] then none
  else some (.line (F.kept content))

/-- The frames of a stream whose first frame starts with the items `cur`. -/
def framesFrom (cur : List α) : List (Option α) → List (Frame α)
  | [] => []
  | none :: xs => framesFrom [] xs
  | some a :: xs =>
    if F.ends a then (F.frame cur).toList ++ framesFrom [] xs else framesFrom (cur ++ [a]) xs

def frames (xs : List (Option α)) : List (Frame α) := F.framesFrom [] xs

/-- The items since the last cut of a stream whose first frame starts with the items `cur`. -/
def currentFrom (cur : List α) : List (Option α) → List α
  | [] => cur
  | none :: xs => currentFrom [] xs
  | some a :: xs => if F.ends a then currentFrom [] xs else currentFrom (cur ++ [a]) xs

def current (xs : List (Option α)) : List α := F.currentFrom [] xs

/-! ## Streams, one item at a time -/

theorem framesFrom_append (cur : List α) (xs ys : List (Option α)) :
    F.framesFrom cur (xs ++ ys) = F.framesFrom cur xs ++ F.framesFrom (F.currentFrom cur xs) ys := by
  induction xs generalizing cur with
  | nil => rfl
  | cons x xs ih =>
    cases x with
    | none => exact ih []
    | some a =>
      simp only [List.cons_append, framesFrom, currentFrom]
      split
      · rw [ih, List.append_assoc]
      · exact ih _

theorem currentFrom_append (cur : List α) (xs ys : List (Option α)) :
    F.currentFrom cur (xs ++ ys) = F.currentFrom (F.currentFrom cur xs) ys := by
  induction xs generalizing cur with
  | nil => rfl
  | cons x xs ih =>
    cases x with
    | none => exact ih []
    | some a =>
      simp only [List.cons_append, currentFrom]
      split
      · exact ih _
      · exact ih _

/-- A stream abandoned after `xs`. -/
@[simp] theorem frames_abandoned (xs : List (Option α)) : F.frames (xs ++ [none]) = F.frames xs := by
  rw [frames, framesFrom_append]
  exact List.append_nil _

@[simp] theorem current_abandoned (xs : List (Option α)) : F.current (xs ++ [none]) = [] := by
  rw [current, currentFrom_append]
  rfl

theorem frames_ended (xs : List (Option α)) {a : α} (h : F.ends a = true) :
    F.frames (xs ++ [some a]) = F.frames xs ++ (F.frame (F.current xs)).toList ∧ F.current (xs ++ [some a]) = [] := by
  unfold frames current
  rw [framesFrom_append, currentFrom_append]
  simp only [framesFrom, currentFrom, if_pos h, List.append_nil, and_self]

theorem frames_extended (xs : List (Option α)) {a : α} (h : F.ends a = false) :
    F.frames (xs ++ [some a]) = F.frames xs ∧ F.current (xs ++ [some a]) = F.current xs ++ [a] := by
  unfold frames current
  rw [framesFrom_append, currentFrom_append]
  simp only [framesFrom, currentFrom, h, Bool.false_eq_true, if_false, List.append_nil, and_self]

/-! ## The machine follows the split -/

/-- The items of a frame that go to the buffer while there is room. -/
def good (content : List α) : List α := (F.kept content).filter (!F.bad ·)

/-- The machine's state after the items of an unfinished frame. -/
def stateOf (content : List α) : State α where
  buffer := (F.good content).take F.limit
  overflow := (F.kept content).any F.bad || F.limit < (F.good content).length

@[simp] theorem stateOf_nil : F.stateOf [] = {} := by
  simp [stateOf, good, kept]

theorem good_eq_kept {content : List α} (h : (F.kept content).any F.bad = false) : F.good content = F.kept content := by
  rw [List.any_eq_false] at h
  exact List.filter_eq_self.2 fun a ha => by simpa using h a ha

/-- The end of a frame emits the frame of its items. -/
theorem close_stateOf (content : List α) : close (F.stateOf content) = F.frame content := by
  unfold close frame
  cases hbad : (F.kept content).any F.bad with
  | true => simp [stateOf, hbad]
  | false =>
    have hgood := F.good_eq_kept hbad
    simp only [stateOf, hbad, hgood, Bool.false_or, Bool.false_eq_true, false_or, decide_eq_true_eq]
    split
    · rfl
    · rename_i hlimit
      rw [List.take_of_length_le (Nat.le_of_not_lt hlimit)]

theorem push_ends (content : List α) {a : α} (h : F.ends a = true) :
    F.push (F.stateOf content) a = (F.stateOf [], F.frame content) := by
  unfold push
  rw [if_pos h, close_stateOf, stateOf_nil]

theorem push_extends (content : List α) {a : α} (h : F.ends a = false) :
    F.push (F.stateOf content) a = (F.stateOf (content ++ [a]), none) := by
  unfold push
  rw [if_neg (by simp [h])]
  cases hs : F.skipped a with
  | true => simp [stateOf, good, kept, hs]
  | false =>
    cases hb : F.bad a with
    | true => simp [stateOf, good, kept, hs, hb]
    | false =>
      have hkept : F.kept (content ++ [a]) = F.kept content ++ [a] := by simp [kept, hs]
      have hgood : F.good (content ++ [a]) = F.good content ++ [a] := by simp [good, hkept, hb]
      have hroom : ((F.good content).take F.limit).length < F.limit ↔ (F.good content).length < F.limit := by
        rw [List.length_take]
        omega
      simp only [Bool.false_eq_true, if_false, stateOf, hkept, hgood, List.any_append, List.any_cons, hb,
        List.any_nil, Bool.or_false, hroom, List.length_append, List.length_singleton]
      split
      · rename_i hlt
        have hle : (F.good content).length ≤ F.limit := Nat.le_of_lt hlt
        rw [List.take_of_length_le hle, List.take_of_length_le (by simpa using Nat.succ_le_of_lt hlt)]
        simp only [Prod.mk.injEq, State.mk.injEq, true_and, and_true]
        congr 1
        simp only [decide_eq_decide]
        omega
      · rename_i hfull
        rw [List.take_append_of_le_length (Nat.le_of_not_lt hfull)]
        simp only [Prod.mk.injEq, State.mk.injEq, true_and, and_true]
        symm
        rw [Bool.or_eq_true, decide_eq_true_eq]
        right
        omega

/-- The machine's state after a stream, and after one more item. -/
theorem push_stream (xs : List (Option α)) (a : α) :
    F.push (F.stateOf (F.current xs)) a =
        (F.stateOf (F.current (xs ++ [some a])), if F.ends a then F.frame (F.current xs) else none) ∧
      F.frames (xs ++ [some a]) =
        F.frames xs ++ (if F.ends a then F.frame (F.current xs) else none).toList := by
  cases h : F.ends a with
  | true =>
    obtain ⟨hf, hc⟩ := F.frames_ended xs h
    rw [hc, hf]
    exact ⟨F.push_ends _ h, rfl⟩
  | false =>
    obtain ⟨hf, hc⟩ := F.frames_extended xs h
    rw [hc, hf]
    exact ⟨F.push_extends _ h, (List.append_nil _).symm⟩

theorem push_length_le {s : State α} (a : α) (h : s.buffer.length ≤ F.limit) :
    (F.push s a).1.buffer.length ≤ F.limit := by
  unfold push
  split_ifs with _ _ _ hroom
  · exact Nat.zero_le _
  · exact h
  · exact h
  · simpa using Nat.succ_le_of_lt hroom
  · exact h

/-! ## A stream without cuts -/

theorem framesFrom_eq_splitOnPPrepend (cur as : List α) :
    F.framesFrom cur (as.map some) = (List.splitOnPPrepend F.ends as cur.reverse).dropLast.filterMap F.frame := by
  induction as generalizing cur with
  | nil => rfl
  | cons a as ih =>
    rw [List.splitOnPPrepend_cons_eq_if, List.map_cons, framesFrom]
    split
    · rw [ih, List.dropLast_cons_of_ne_nil (List.splitOnP_ne_nil _ _), List.filterMap_cons, List.reverse_reverse]
      cases F.frame cur <;> rfl
    · rw [ih, List.reverse_append]
      rfl

/-- The frames of a stream are those of its pieces between the ends; the last piece is unfinished. -/
theorem frames_eq_splitOnP (as : List α) : F.frames (as.map some) = (as.splitOnP F.ends).dropLast.filterMap F.frame :=
  F.framesFrom_eq_splitOnPPrepend [] as

/-! ## Items that leave no trace -/

/-- An item that no frame holds. -/
def idle (a : α) : Bool := F.ends a || F.skipped a

/-- The stream without its first `n` items; the cuts stay. -/
def dropItems : ℕ → List (Option α) → List (Option α)
  | 0, xs => xs
  | _ + 1, [] => []
  | n + 1, none :: xs => none :: dropItems (n + 1) xs
  | n + 1, some _ :: xs => dropItems n xs

theorem dropItems_map (n : ℕ) (as : List α) : dropItems n (as.map some) = (as.drop n).map some := by
  induction as generalizing n with
  | nil => cases n <;> rfl
  | cons a as ih =>
    cases n with
    | zero => rfl
    | succ n => exact ih n

theorem kept_concat (cur : List α) (a : α) : F.kept (cur ++ [a]) = F.kept cur ++ F.kept [a] := List.filter_append ..

theorem kept_singleton_eq_nil {a : α} : F.kept [a] = [] ↔ F.skipped a = true := by
  cases h : F.skipped a <;> simp [kept, h]

theorem frame_eq_none {content : List α} : F.frame content = none ↔ F.kept content = [] := by
  unfold frame
  constructor
  · intro h
    split_ifs at h with hspoilt hnone
    exact hnone
  · intro h
    simp [h]

/-- Only the kept items of an unfinished frame matter. -/
theorem framesFrom_congr {cur cur' : List α} (h : F.kept cur = F.kept cur') (xs : List (Option α)) :
    F.framesFrom cur xs = F.framesFrom cur' xs := by
  induction xs generalizing cur cur' with
  | nil => rfl
  | cons x xs ih =>
    cases x with
    | none => rfl
    | some a =>
      unfold framesFrom
      split
      · unfold frame
        rw [h]
      · apply ih
        rw [kept_concat, kept_concat, h]

/-- A stream whose first items are idle has the frames of the items behind them. -/
theorem framesFrom_dropItems {n : ℕ} {cur : List α} {xs : List (Option α)} (hcur : F.kept cur = [])
    (h : ∀ a ∈ xs.reduceOption.take n, F.idle a = true) : F.framesFrom cur xs = F.framesFrom [] (dropItems n xs) := by
  induction xs generalizing n cur with
  | nil => cases n <;> rfl
  | cons x xs ih =>
    cases n with
    | zero => exact F.framesFrom_congr hcur _
    | succ n =>
      cases x with
      | none => exact ih rfl (by simpa using h)
      | some a =>
        rw [List.reduceOption_cons_of_some, List.take_succ_cons, List.forall_mem_cons] at h
        obtain ⟨ha, hrest⟩ := h
        show (if F.ends a then (F.frame cur).toList ++ F.framesFrom [] xs else F.framesFrom (cur ++ [a]) xs) = F.framesFrom [] (dropItems n xs)
        split
        · rw [F.frame_eq_none.2 hcur]
          exact ih rfl hrest
        · rename_i hends
          have hskipped : F.skipped a = true := by simpa [idle, hends] using ha
          apply ih _ hrest
          rw [kept_concat, hcur, F.kept_singleton_eq_nil.2 hskipped]
          rfl

theorem frames_dropItems {n : ℕ} {xs : List (Option α)} (h : ∀ a ∈ xs.reduceOption.take n, F.idle a = true) :
    F.frames xs = F.frames (dropItems n xs) := F.framesFrom_dropItems rfl h

/-- An item that is not idle is in a frame once the stream is ended. -/
theorem framesFrom_ne_nil {cur as : List α} {e : α} (he : F.ends e = true)
    (h : F.kept cur ≠ [] ∨ ∃ a ∈ as, F.idle a = false) : F.framesFrom cur ((as ++ [e]).map some) ≠ [] := by
  have hframe : ∀ {cur : List α}, F.kept cur ≠ [] → (F.frame cur).toList ≠ [] := by
    intro cur hkept hnil
    rw [Option.toList_eq_nil_iff] at hnil
    exact hkept (F.frame_eq_none.1 hnil)
  induction as generalizing cur with
  | nil =>
    have hkept : F.kept cur ≠ [] := h.resolve_right fun ⟨a, ha, _⟩ => absurd ha List.not_mem_nil
    simpa [framesFrom, he] using hframe hkept
  | cons a as ih =>
    have hcons : F.framesFrom cur ((a :: as ++ [e]).map some) =
        if F.ends a then (F.frame cur).toList ++ F.framesFrom [] ((as ++ [e]).map some)
        else F.framesFrom (cur ++ [a]) ((as ++ [e]).map some) := rfl
    rw [hcons]
    split
    · rename_i hends
      rcases h with hkept | ⟨b, hb, hidle⟩
      · exact fun hnil => hframe hkept (List.append_eq_nil_iff.1 hnil).1
      · rcases List.mem_cons.1 hb with rfl | hb
        · simp [idle, hends] at hidle
        · exact fun hnil => ih (.inr ⟨b, hb, hidle⟩) (List.append_eq_nil_iff.1 hnil).2
    · apply ih
      rw [kept_concat]
      rcases h with hkept | ⟨b, hb, hidle⟩
      · exact .inl fun hnil => hkept (List.append_eq_nil_iff.1 hnil).1
      · rcases List.mem_cons.1 hb with rfl | hb
        · left
          intro hnil
          have hskipped := F.kept_singleton_eq_nil.1 (List.append_eq_nil_iff.1 hnil).2
          simp [idle, hskipped] at hidle
        · exact .inr ⟨b, hb, hidle⟩

/-- The frames of a stream are the first frames of a longer one. -/
theorem frames_prefix {xs ys : List (Option α)} (h : xs <+: ys) : F.frames xs <+: F.frames ys := by
  obtain ⟨zs, rfl⟩ := h
  exact ⟨_, (F.framesFrom_append [] xs zs).symm⟩

/-! ## Streams of whole lines -/

/-- A line that comes through as it is. -/
structure Whole (line : List α) : Prop where
  ne_nil : line ≠ []
  plain : ∀ a ∈ line, F.ends a = false ∧ F.skipped a = false ∧ F.bad a = false
  length_le : line.length ≤ F.limit

theorem Whole.frame {line : List α} (h : F.Whole line) : F.frame line = some (.line line) := by
  have hkept : F.kept line = line := List.filter_eq_self.2 fun a ha => by simp [(h.plain a ha).2.1]
  unfold Framing.frame
  rw [hkept, if_neg, if_neg h.ne_nil]
  rw [not_or, Nat.not_lt]
  refine ⟨fun hany => ?_, h.length_le⟩
  obtain ⟨a, ha, hbad⟩ := List.any_eq_true.1 hany
  exact Bool.noConfusion ((h.plain a ha).2.2.symm.trans hbad)

theorem framesFrom_unended {rest : List α} (h : ∀ a ∈ rest, F.ends a = false) (cur : List α) (xs : List (Option α)) :
    F.framesFrom cur (rest.map some ++ xs) = F.framesFrom (cur ++ rest) xs := by
  induction rest generalizing cur with
  | nil => rw [List.append_nil, List.map_nil, List.nil_append]
  | cons a rest ih =>
    rw [List.forall_mem_cons] at h
    rw [List.map_cons, List.cons_append, framesFrom, if_neg (by simp [h.1]), ih h.2, List.append_assoc]
    rfl

/-- Whole lines, each with its end, and then a piece without one. -/
theorem frames_lines {e : α} (he : F.ends e = true) {lines : List (List α)} (h : ∀ line ∈ lines, F.Whole line)
    {rest : List α} (hrest : ∀ a ∈ rest, F.ends a = false) :
    F.frames ((lines.flatMap (· ++ [e]) ++ rest).map some) = lines.map .line := by
  unfold frames
  induction lines with
  | nil =>
    have hunended := F.framesFrom_unended hrest [] []
    rw [List.append_nil] at hunended
    exact hunended
  | cons line lines ih =>
    rw [List.forall_mem_cons] at h
    rw [List.flatMap_cons, List.append_assoc, List.append_assoc, List.map_append,
      F.framesFrom_unended (fun a ha => (h.1.plain a ha).1), List.nil_append, List.singleton_append, List.map_cons,
      framesFrom, if_pos he, h.1.frame, ih h.2, List.map_cons]
    rfl

/-- A prefix of lines with their ends: some whole lines, and then a piece without an end. -/
theorem prefix_lines {e : α} {lines : List (List α)} (h : ∀ line ∈ lines, F.Whole line) {text : List α}
    (hfirst : text <+: lines.flatMap (· ++ [e])) :
    ∃ n rest, text = (lines.take n).flatMap (· ++ [e]) ++ rest ∧ (∀ a ∈ rest, F.ends a = false) ∧
      (text = lines.flatMap (· ++ [e]) → lines.length ≤ n) := by
  induction lines generalizing text with
  | nil =>
    obtain rfl := List.prefix_nil.1 hfirst
    exact ⟨0, [], rfl, by simp, fun _ => Nat.le_refl _⟩
  | cons line lines ih =>
    rw [List.forall_mem_cons] at h
    rw [List.flatMap_cons] at hfirst
    rcases Nat.lt_or_ge line.length text.length with hlt | hge
    · -- the line is in the text with its end
      obtain ⟨more, rfl⟩ : line ++ [e] <+: text :=
        List.prefix_of_prefix_length_le (List.prefix_append ..) hfirst (by
          rw [List.length_append, List.length_singleton]
          exact hlt)
      obtain ⟨n, rest, rfl, hrest, hall⟩ := ih h.2 ((List.prefix_append_right_inj _).1 hfirst)
      refine ⟨n + 1, rest, by simp, hrest, fun heq => ?_⟩
      rw [List.flatMap_cons] at heq
      exact Nat.succ_le_succ (hall (List.append_cancel_left heq))
    · have hline : text <+: line := by
        rw [List.append_assoc] at hfirst
        exact List.prefix_of_prefix_length_le hfirst (List.prefix_append ..) hge
      refine ⟨0, text, rfl, fun a ha => (h.1.plain a (hline.subset ha)).1, fun heq => ?_⟩
      have hlen := congrArg List.length heq
      simp only [List.flatMap_cons, List.length_append, List.length_singleton] at hlen
      omega

/-- What comes through of a prefix of whole lines are its first lines, and all of them once the text is complete. -/
theorem frames_lines_prefix {e : α} (he : F.ends e = true) {lines : List (List α)} (h : ∀ line ∈ lines, F.Whole line)
    {text : List α} (hfirst : text <+: lines.flatMap (· ++ [e])) :
    ∃ n, F.frames (text.map some) = (lines.take n).map .line ∧
      (text = lines.flatMap (· ++ [e]) → lines.length ≤ n) := by
  obtain ⟨n, rest, rfl, hrest, hall⟩ := F.prefix_lines h hfirst
  exact ⟨n, F.frames_lines he (fun line hline => h line (List.mem_of_mem_take hline)) hrest, hall⟩

end Framing
