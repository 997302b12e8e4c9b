/-
Compact JSON over bytes: values whose strings need no escapes and whose numbers are integers, and their
texts. A reader that looks for a quoted name in the text of a value, and reads what is behind the
closing quotation mark, finds the members of that name at any depth, in their order, and nothing else.
A parser reads a plain value back from its text, which has no control byte.
-/
import Mathlib.Data.List.Infix
import Mathlib.Tactic

namespace Json

def quote : UInt8 := 34
def comma : UInt8 := 44
def colon : UInt8 := 58

inductive Value where
  | null
  | bool (b : Bool)
  | number (n : ℤ)
  | text (s : List UInt8)
  | array (items : List Value)
  | object (members : List (List UInt8 × Value))

/-! ## Texts -/

def ascii (s : String) : List UInt8 := s.toList.map Char.toUInt8

def digits (n : ℕ) : List UInt8 := (Nat.toDigits 10 n).map Char.toUInt8

def quoted (s : List UInt8) : List UInt8 := quote :: (s ++ [quote])

mutual

def render : Value → List UInt8
  | .null => ascii "null"
  | .bool b => ascii (if b then "true" else "false")
  | .number n => (if n < 0 then ascii "-" else []) ++ digits n.natAbs
  | .text s => quoted s
  | .array [] => ascii "[]"
  | .array (item :: items) => ascii "[" ++ (render item ++ renderItems items)
  | .object [] => ascii "\x7b\x7d"
  | .object (member :: members) =>
    ascii "\x7b" ++ (quoted member.1 ++ colon :: (render member.2 ++ renderMembers members))

def renderItems : List Value → List UInt8
  | [] => ascii "]"
  | item :: items => comma :: (render item ++ renderItems items)

def renderMembers : List (List UInt8 × Value) → List UInt8
  | [] => ascii "\x7d"
  | member :: members => comma :: (quoted member.1 ++ colon :: (render member.2 ++ renderMembers members))

end

/-! ## Plain values -/

/-- A text that needs no escape. -/
def plainText (s : List UInt8) : Bool := s.all fun c => 0x20 ≤ c && c != quote && c != 0x5c

mutual

def plain : Value → Bool
  | .text s => plainText s
  | .array items => plainItems items
  | .object members => plainMembers members
  | _ => true

def plainItems : List Value → Bool
  | [] => true
  | item :: items => plain item && plainItems items

def plainMembers : List (List UInt8 × Value) → Bool
  | [] => true
  | member :: members => plainText member.1 && plain member.2 && plainMembers members

end

/-! ## Members -/

mutual

/-- The values of the members of this name, at any depth. -/
def named (name : List UInt8) : Value → List Value
  | .array items => namedItems name items
  | .object members => namedMembers name members
  | _ => []

def namedItems (name : List UInt8) : List Value → List Value
  | [] => []
  | item :: items => named name item ++ namedItems name items

def namedMembers (name : List UInt8) : List (List UInt8 × Value) → List Value
  | [] => []
  | member :: members =>
    (if member.1 = name then [member.2] else []) ++ (named name member.2 ++ namedMembers name members)

end

section Search

/-! ## Occurrences -/

/-- The occurrences of a pattern in a text, each with all that is behind it. -/
def occurrences (pattern text : List UInt8) : List (List UInt8) := text.tails.filter (pattern.isPrefixOf ·)

variable {β : Type*}

/-- What a reader finds behind the occurrences of a quoted name. -/
def found (name : List UInt8) (read : List UInt8 → Option β) (text : List UInt8) : List β :=
  (occurrences (quoted name) text).filterMap fun t => read (t.drop (quoted name).length)

theorem occurrences_cons (pattern : List UInt8) (c : UInt8) (text : List UInt8) :
    occurrences pattern (c :: text) = (if pattern <+: c :: text then [c :: text] else []) ++ occurrences pattern text := by
  unfold occurrences
  rw [List.tails_cons, List.filter_cons]
  by_cases h : pattern <+: c :: text
  · rw [if_pos (List.isPrefixOf_iff_prefix.2 h), if_pos h]
    rfl
  · rw [if_neg (fun hp => h (List.isPrefixOf_iff_prefix.1 hp)), if_neg h]
    rfl

/-- An occurrence of a longer pattern is one of its first part, with the second behind it. -/
theorem occurrences_append (pattern more text : List UInt8) :
    occurrences (pattern ++ more) text = (occurrences pattern text).filter (more <+: ·.drop pattern.length) := by
  unfold occurrences
  rw [List.filter_filter]
  apply List.filter_congr
  intro t _
  rw [Bool.eq_iff_iff, Bool.and_eq_true, List.isPrefixOf_iff_prefix, List.isPrefixOf_iff_prefix, decide_eq_true_iff]
  constructor
  · rintro ⟨rest, rfl⟩
    exact ⟨by simp, by simp⟩
  · rintro ⟨hmore, rest, rfl⟩
    simpa using hmore

variable {name : List UInt8} {read : List UInt8 → Option β}

@[simp] theorem found_nil : found name read [] = [] := rfl

theorem found_cons (c : UInt8) (text : List UInt8) :
    found name read (c :: text) =
      (if quoted name <+: c :: text then (read ((c :: text).drop (quoted name).length)).toList else []) ++
        found name read text := by
  unfold found
  rw [occurrences_cons, List.filterMap_append]
  congr 1
  split
  · rw [List.filterMap_cons]
    cases read ((c :: text).drop (quoted name).length) <;> rfl
  · rfl

/-- Nothing is found within a text without a quotation mark. -/
theorem found_skip {s : List UInt8} (h : quote ∉ s) (text : List UInt8) : found name read (s ++ text) = found name read text := by
  induction s with
  | nil => rfl
  | cons c s ih =>
    rw [List.mem_cons, not_or] at h
    have hno : ¬ quoted name <+: c :: (s ++ text) := fun hp => h.1 (List.cons_prefix_cons.1 hp).1
    rw [List.cons_append, found_cons, if_neg hno, List.nil_append, ih h.2]

/-- A name and the mark are a prefix of a text and the mark exactly when the text is the name. -/
theorem marked_prefix_iff {s : List UInt8} (hname : quote ∉ name) (hs : quote ∉ s) (text : List UInt8) :
    name ++ [quote] <+: s ++ quote :: text ↔ s = name := by
  induction name generalizing s with
  | nil =>
    cases s with
    | nil => simp
    | cons c s =>
      rw [List.mem_cons, not_or] at hs
      simp [hs.1]
  | cons n name ih =>
    rw [List.mem_cons, not_or] at hname
    cases s with
    | nil => simp [Ne.symm hname.1]
    | cons c s =>
      rw [List.mem_cons, not_or] at hs
      rw [List.cons_append, List.cons_append, List.cons_prefix_cons, ih hname.2 hs.2, List.cons.injEq, eq_comm (a := n)]

/-- A quoted text is read when it is the name; its closing quotation mark may open the next find. -/
theorem found_quoted {s : List UInt8} (hname : quote ∉ name) (hs : quote ∉ s) (text : List UInt8) :
    found name read (quoted s ++ text) =
      (if s = name then (read text).toList else []) ++ found name read (quote :: text) := by
  have hsplit : quoted s ++ text = quote :: (s ++ quote :: text) := by simp [quoted]
  rw [hsplit, found_cons, found_skip hs]
  congr 1
  have hfirst : quoted name <+: quote :: (s ++ quote :: text) ↔ s = name := by
    rw [quoted, List.cons_prefix_cons, marked_prefix_iff hname hs]
    exact and_iff_right rfl
  by_cases hs' : s = name
  · rw [if_pos (hfirst.2 hs'), if_pos hs', ← hsplit, hs', List.drop_left]
  · rw [if_neg (fun h => hs' (hfirst.1 h)), if_neg hs']

/-! ## Finding members -/

/-- What may stand behind a value: nothing, a comma or a closing bracket. -/
def Closed (text : List UInt8) : Prop := ∀ c ∈ text.head?, c ∈ ascii ",]\x7d"

/-- What stands behind the value of a member. -/
def Ended (text : List UInt8) : Prop := ∃ c ∈ text.head?, c ∈ ascii ",\x7d"

/-- The reader looks for a name that starts with no punctuation, reads nothing but what a colon opens, and
there reads the value. -/
structure Reads (name : List UInt8) (read : List UInt8 → Option β) (value : Value → Option β) : Prop where
  name : quote ∉ name ∧ ∃ c ∈ name.head?, c ∉ ascii ",:]\x7d"
  other : ∀ text, text.head? ≠ some colon → read text = none
  value : ∀ v text, plain v = true → Ended text → read (colon :: (render v ++ text)) = value v

theorem digits_digit {n : ℕ} {c : UInt8} (h : c ∈ digits n) : 48 ≤ c ∧ c ≤ 57 := by
  obtain ⟨d, hd, rfl⟩ := List.mem_map.1 h
  have hdigit := Nat.isDigit_of_mem_toDigits (by decide) (by decide) hd
  simp only [Char.isDigit, Bool.and_eq_true, decide_eq_true_eq] at hdigit
  have hnat : d.toUInt8.toNat = d.val.toNat % 256 := rfl
  have hge : 48 ≤ d.val.toNat := hdigit.1
  have hle : d.val.toNat ≤ 57 := hdigit.2
  rw [UInt8.le_iff_toNat_le, UInt8.le_iff_toNat_le, hnat]
  show 48 ≤ d.val.toNat % 256 ∧ d.val.toNat % 256 ≤ 57
  omega

/-- The digits of a number read as the number. -/
theorem digits_value (n : ℕ) : (digits n).foldl (fun n c => n * 10 + (c.toNat - 48)) 0 = n := by
  have hchar : ∀ d ∈ Nat.toDigits 10 n, d.toUInt8.toNat = d.toNat := by
    intro d hd
    have hdigit := Nat.isDigit_of_mem_toDigits (by decide) (by decide) hd
    simp only [Char.isDigit, Bool.and_eq_true, decide_eq_true_eq] at hdigit
    have hle : d.toNat ≤ 57 := hdigit.2
    show d.toNat % 256 = d.toNat
    omega
  have hread : (Nat.toDigits 10 n).foldl (fun n d => n * 10 + (d.toUInt8.toNat - 48)) 0 =
      Nat.ofDigitChars 10 (Nat.toDigits 10 n) 0 := by
    rw [Nat.ofDigitChars_eq_foldl]
    apply List.foldl_ext
    intro m d hd
    rw [hchar d hd, Nat.mul_comm]
    rfl
  rw [digits, List.foldl_map, hread, Nat.ofDigitChars_toDigits (by decide) (by decide)]

theorem digits_ne_nil (n : ℕ) : digits n ≠ [] := by
  simp [digits, Nat.toDigits_ne_nil]

theorem plainText_quote {s : List UInt8} (h : plainText s = true) : quote ∉ s := by
  intro hmem
  have hall := List.all_eq_true.1 h quote hmem
  exact absurd hall (by decide)

theorem Ended.closed {text : List UInt8} (h : Ended text) : Closed text := by
  obtain ⟨c, hc, hmem⟩ := h
  intro d hd
  obtain rfl := Option.mem_unique hc hd
  exact List.Sublist.subset (by decide : (ascii ",\x7d").Sublist (ascii ",]\x7d")) hmem

theorem closed_items (items : List Value) (text : List UInt8) : Closed (renderItems items ++ text) := by
  cases items with
  | nil => rintro c ⟨rfl⟩; decide
  | cons item items => rintro c ⟨rfl⟩; decide

theorem ended_members (members : List (List UInt8 × Value)) (text : List UInt8) : Ended (renderMembers members ++ text) := by
  cases members with
  | nil => exact ⟨125, rfl, by decide⟩
  | cons member members => exact ⟨comma, rfl, by decide⟩

section Found

variable {value : Value → Option β}

section One

variable (h : Reads name read value)

include h

/-- The closing quotation mark in front of punctuation. -/
theorem Reads.close {text : List UInt8} (ht : ∀ c ∈ text.head?, c ∈ ascii ",:]\x7d") :
    found name read (quote :: text) = found name read text := by
  rw [found_cons, if_neg, List.nil_append]
  intro hp
  rw [quoted, List.cons_prefix_cons] at hp
  obtain ⟨c, hc, hno⟩ := h.name.2
  obtain ⟨n, rest, rfl⟩ : ∃ n rest, name = n :: rest := by
    cases hn : name with
    | nil =>
      rw [hn] at hc
      cases hc
    | cons n rest => exact ⟨n, rest, rfl⟩
  obtain ⟨more, rfl⟩ := hp.2
  cases hc
  exact hno (ht c rfl)

/-- One member, given what is found in its value. -/
theorem Reads.found_member {member : List UInt8 × Value} (hname : plainText member.1 = true) (hvalue : plain member.2 = true)
    {text : List UInt8} (ht : Ended text)
    (hfound : found name read (render member.2 ++ text) = (named name member.2).filterMap value ++ found name read text) :
    found name read (quoted member.1 ++ colon :: (render member.2 ++ text)) =
      ((if member.1 = name then [member.2] else []) ++ named name member.2).filterMap value ++ found name read text := by
  have hskip : found name read (quote :: colon :: (render member.2 ++ text)) = found name read (render member.2 ++ text) := by
    rw [h.close (by rintro c ⟨rfl⟩; decide)]
    exact found_skip (s := [colon]) (by decide) _
  rw [found_quoted h.name.1 (plainText_quote hname), hskip, hfound, h.value _ _ hvalue ht, List.filterMap_append,
    List.append_assoc]
  congr 1
  split
  · rw [List.filterMap_cons]
    cases value member.2 <;> rfl
  · rfl

end One

mutual

/-- What is found in the text of a value are its members of the name. -/
theorem Reads.found_render (h : Reads name read value) : ∀ (v : Value) (text : List UInt8), plain v = true → Closed text →
    found name read (render v ++ text) = (named name v).filterMap value ++ found name read text
  | .null, text, _, _ => by
    rw [render, found_skip (by decide)]
    rfl
  | .bool b, text, _, _ => by
    rw [render, found_skip (by cases b <;> decide)]
    rfl
  | .number n, text, _, _ => by
    have hno : quote ∉ (if n < 0 then ascii "-" else []) ++ digits n.natAbs := by
      rw [List.mem_append, not_or]
      constructor
      · split <;> decide
      · exact fun hmem => absurd (digits_digit hmem).1 (by decide)
    rw [render, found_skip hno]
    rfl
  | .text s, text, hv, ht => by
    rw [plain] at hv
    have hclose : ∀ c ∈ text.head?, c ∈ ascii ",:]\x7d" := fun c hc =>
      List.Sublist.subset (by decide : (ascii ",]\x7d").Sublist (ascii ",:]\x7d")) (ht c hc)
    have hother : read text = none := h.other text (by
      intro hcolon
      exact absurd (ht colon hcolon) (by decide))
    rw [render, found_quoted h.name.1 (plainText_quote hv), h.close hclose, hother]
    cases decEq s name <;> simp [*, named]
  | .array [], text, _, _ => by
    rw [render, found_skip (by decide)]
    rfl
  | .array (item :: items), text, hv, ht => by
    rw [plain, plainItems, Bool.and_eq_true] at hv
    rw [render, List.append_assoc, found_skip (by decide), List.append_assoc,
      Reads.found_render h item _ hv.1 (closed_items items text), Reads.found_items h items text hv.2 ht, named, namedItems,
      List.filterMap_append, List.append_assoc]
  | .object [], text, _, _ => by
    rw [render, found_skip (by decide)]
    rfl
  | .object (member :: members), text, hv, ht => by
    rw [plain, plainMembers, Bool.and_eq_true, Bool.and_eq_true] at hv
    have hmember := h.found_member hv.1.1 hv.1.2 (ended_members members text)
      (Reads.found_render h member.2 _ hv.1.2 (ended_members members text).closed)
    rw [render, List.append_assoc, found_skip (by decide), List.append_assoc, List.cons_append, List.append_assoc, hmember,
      Reads.found_members h members text hv.2 ht, named, namedMembers]
    simp only [List.filterMap_append, List.append_assoc]

theorem Reads.found_items (h : Reads name read value) : ∀ (items : List Value) (text : List UInt8), plainItems items = true →
    Closed text →
    found name read (renderItems items ++ text) = (namedItems name items).filterMap value ++ found name read text
  | [], text, _, _ => by
    rw [renderItems, found_skip (by decide)]
    rfl
  | item :: items, text, hv, ht => by
    rw [plainItems, Bool.and_eq_true] at hv
    rw [renderItems, List.cons_append, ← List.singleton_append, found_skip (by decide), List.append_assoc,
      Reads.found_render h item _ hv.1 (closed_items items text), Reads.found_items h items text hv.2 ht, namedItems,
      List.filterMap_append, List.append_assoc]

theorem Reads.found_members (h : Reads name read value) : ∀ (members : List (List UInt8 × Value)) (text : List UInt8),
    plainMembers members = true → Closed text →
    found name read (renderMembers members ++ text) = (namedMembers name members).filterMap value ++ found name read text
  | [], text, _, _ => by
    rw [renderMembers, found_skip (by decide)]
    rfl
  | member :: members, text, hv, ht => by
    rw [plainMembers, Bool.and_eq_true, Bool.and_eq_true] at hv
    have hmember := h.found_member hv.1.1 hv.1.2 (ended_members members text)
      (Reads.found_render h member.2 _ hv.1.2 (ended_members members text).closed)
    rw [renderMembers, List.cons_append, ← List.singleton_append, found_skip (by decide), List.append_assoc, List.cons_append,
      List.append_assoc, hmember, Reads.found_members h members text hv.2 ht, namedMembers]
    simp only [List.filterMap_append, List.append_assoc]

end

end Found

end Search

/-! ## Reading a text -/

def isDigit (c : UInt8) : Bool := 48 ≤ c && c ≤ 57

/-- The digits in front of a text, as a number. -/
def readDigits (text : List UInt8) : Option (ℕ × List UInt8) :=
  if text.takeWhile isDigit = [] then none
  else some ((text.takeWhile isDigit).foldl (fun n c => n * 10 + (c.toNat - 48)) 0, text.dropWhile isDigit)

/-- A quoted text. -/
def readQuoted : List UInt8 → Option (List UInt8 × List UInt8)
  | [] => none
  | c :: text =>
    if c = quote ∧ quote ∈ text then some (text.takeWhile (· != quote), (text.dropWhile (· != quote)).tail) else none

def readWord (word : String) (v : Value) (text : List UInt8) : Option (Value × List UInt8) :=
  if ascii word <+: text then some (v, text.drop word.length) else none

mutual

/-- The value in front of a text, of at most the given depth and length. -/
def parse : ℕ → List UInt8 → Option (Value × List UInt8)
  | 0, _ => none
  | _ + 1, [] => none
  | n + 1, c :: rest =>
    if c = quote then (readQuoted (c :: rest)).map fun r => (.text r.1, r.2)
    else if c = 91 then
      if rest.head? = some 93 then some (.array [], rest.tail)
      else (parse n rest).bind fun r => (parseItems n r.2).map fun rs => (.array (r.1 :: rs.1), rs.2)
    else if c = 123 then
      if rest.head? = some 125 then some (.object [], rest.tail)
      else (parseMember n rest).bind fun r => (parseMembers n r.2).map fun rs => (.object (r.1 :: rs.1), rs.2)
    else if c = 45 then (readDigits rest).map fun r => (.number (-r.1), r.2)
    else if isDigit c then (readDigits (c :: rest)).map fun r => (.number r.1, r.2)
    else
      (readWord "null" .null (c :: rest)).or
        ((readWord "true" (.bool true) (c :: rest)).or (readWord "false" (.bool false) (c :: rest)))

def parseMember : ℕ → List UInt8 → Option ((List UInt8 × Value) × List UInt8)
  | 0, _ => none
  | n + 1, text =>
    (readQuoted text).bind fun name =>
      if name.2.head? = some colon then (parse n name.2.tail).map fun r => ((name.1, r.1), r.2) else none

def parseItems : ℕ → List UInt8 → Option (List Value × List UInt8)
  | 0, _ => none
  | _ + 1, [] => none
  | n + 1, c :: rest =>
    if c = comma then (parse n rest).bind fun r => (parseItems n r.2).map fun rs => (r.1 :: rs.1, rs.2)
    else if c = 93 then some ([], rest)
    else none

def parseMembers : ℕ → List UInt8 → Option (List (List UInt8 × Value) × List UInt8)
  | 0, _ => none
  | _ + 1, [] => none
  | n + 1, c :: rest =>
    if c = comma then (parseMember n rest).bind fun r => (parseMembers n r.2).map fun rs => (r.1 :: rs.1, rs.2)
    else if c = 125 then some ([], rest)
    else none

end

/-- The value that a text is. -/
def decode (text : List UInt8) : Option Value :=
  (parse (2 * text.length + 2) text).bind fun r => if r.2 = [] then some r.1 else none

mutual

/-- The depth and length of a value, as `parse` counts them. -/
def size : Value → ℕ
  | .array [] => 1
  | .array (item :: items) => 1 + size item + sizeItems items
  | .object [] => 1
  | .object (member :: members) => 2 + size member.2 + sizeMembers members
  | _ => 1

def sizeItems : List Value → ℕ
  | [] => 1
  | item :: items => 1 + size item + sizeItems items

def sizeMembers : List (List UInt8 × Value) → ℕ
  | [] => 1
  | member :: members => 2 + size member.2 + sizeMembers members

end

theorem takeWhile_quote {s : List UInt8} (h : quote ∉ s) (text : List UInt8) :
    (s ++ quote :: text).takeWhile (· != quote) = s ∧ (s ++ quote :: text).dropWhile (· != quote) = quote :: text := by
  have hs : ∀ c ∈ s, (c != quote) = true := fun c hc => bne_iff_ne.2 fun he => h (he ▸ hc)
  constructor
  · rw [List.takeWhile_append_of_pos hs, List.takeWhile_cons_of_neg (by simp), List.append_nil]
  · rw [List.dropWhile_append_of_pos hs, List.dropWhile_cons_of_neg (by simp)]

theorem readQuoted_quoted {s : List UInt8} (h : quote ∉ s) (text : List UInt8) :
    readQuoted (quoted s ++ text) = some (s, text) := by
  have hsplit : quoted s ++ text = quote :: (s ++ quote :: text) := by simp [quoted]
  obtain ⟨htake, hdrop⟩ := takeWhile_quote h text
  rw [hsplit, readQuoted, if_pos ⟨rfl, by simp⟩, htake, hdrop]
  rfl

/-- No digit stands behind a value. -/
theorem Closed.digit {text : List UInt8} (h : Closed text) : ∀ c ∈ text.head?, isDigit c = false := by
  intro c hc
  have hmem := h c hc
  have hall : (ascii ",]\x7d").all (fun c => !isDigit c) = true := rfl
  simpa using List.all_eq_true.1 hall c hmem

theorem readDigits_digits (n : ℕ) {text : List UInt8} (h : Closed text) : readDigits (digits n ++ text) = some (n, text) := by
  have hdigits : ∀ c ∈ digits n, isDigit c = true := fun c hc => by simp [isDigit, digits_digit hc]
  have hstop : text.takeWhile isDigit = [] ∧ text.dropWhile isDigit = text := by
    cases text with
    | nil => exact ⟨rfl, rfl⟩
    | cons c text =>
      have hc : isDigit c = false := h.digit c rfl
      exact ⟨List.takeWhile_cons_of_neg (by simp [hc]), List.dropWhile_cons_of_neg (by simp [hc])⟩
  unfold readDigits
  rw [List.takeWhile_append_of_pos hdigits, List.dropWhile_append_of_pos hdigits, hstop.1, hstop.2, List.append_nil,
    if_neg (digits_ne_nil n), digits_value]

theorem parse_word {word : String} {v : Value} (text : List UInt8) (hlen : (ascii word).length = word.length) :
    readWord word v (ascii word ++ text) = some (v, text) := by
  unfold readWord
  rw [if_pos (List.prefix_append ..), ← hlen, List.drop_left]

theorem parse_other_word {word : String} {v : Value} {c : UInt8} (text : List UInt8) (h : ∃ d ∈ (ascii word).head?, d ≠ c) :
    readWord word v (c :: text) = none := by
  obtain ⟨d, hd, hne⟩ := h
  unfold readWord
  rw [if_neg]
  rintro ⟨more, hmore⟩
  cases hw : ascii word with
  | nil =>
    rw [hw] at hd
    cases hd
  | cons e rest =>
    rw [hw] at hd hmore
    cases hd
    exact hne (List.cons.inj hmore).1

/-- A first letter that opens no quotation, bracket or number. -/
theorem parse_letter (n : ℕ) {c : UInt8} (rest : List UInt8) (h : c ≠ quote ∧ c ≠ 91 ∧ c ≠ 123 ∧ c ≠ 45 ∧ isDigit c = false) :
    parse (n + 1) (c :: rest) =
      (readWord "null" .null (c :: rest)).or
        ((readWord "true" (.bool true) (c :: rest)).or (readWord "false" (.bool false) (c :: rest))) := by
  rw [parse, if_neg h.1, if_neg h.2.1, if_neg h.2.2.1, if_neg h.2.2.2.1, if_neg (by simp [h.2.2.2.2])]

theorem size_pos (v : Value) : 0 < size v := by
  rcases v with _ | _ | _ | _ | (_ | _) | (_ | _) <;> simp only [size] <;> omega

theorem sizeItems_pos (items : List Value) : 0 < sizeItems items := by
  cases items <;> simp only [sizeItems] <;> omega

theorem sizeMembers_pos (members : List (List UInt8 × Value)) : 0 < sizeMembers members := by
  cases members <;> simp only [sizeMembers] <;> omega

theorem parseMember_render {member : List UInt8 × Value} {n : ℕ} {text : List UInt8} (hname : plainText member.1 = true)
    (hvalue : parse n (render member.2 ++ text) = some (member.2, text)) :
    parseMember (n + 1) (quoted member.1 ++ colon :: (render member.2 ++ text)) = some (member, text) := by
  rw [parseMember, readQuoted_quoted (plainText_quote hname), Option.bind_some, List.head?_cons, if_pos rfl, List.tail_cons,
    hvalue]
  rfl

/-- A value does not start like the end of an array. -/
theorem render_not_closed (v : Value) (text : List UInt8) : (render v ++ text).head? ≠ some 93 := by
  cases v with
  | null => exact fun h => absurd (Option.some.inj h) (by decide)
  | bool b => cases b <;> exact fun h => absurd (Option.some.inj h) (by decide)
  | number n =>
    rw [render]
    split
    · exact fun h => absurd (Option.some.inj h) (by decide)
    · obtain ⟨c, rest, hdigits⟩ := List.exists_cons_of_ne_nil (digits_ne_nil n.natAbs)
      have hc := (digits_digit (n := n.natAbs) (c := c) (by simp [hdigits])).2
      rw [hdigits]
      intro h
      obtain rfl : c = 93 := Option.some.inj h
      exact absurd hc (by decide)
  | text s => exact fun h => absurd (Option.some.inj h) (by decide)
  | array items => cases items <;> exact fun h => absurd (Option.some.inj h) (by decide)
  | object members => cases members <;> exact fun h => absurd (Option.some.inj h) (by decide)

mutual

/-- The text of a plain value parses as the value. -/
theorem parse_render : ∀ (v : Value) (n : ℕ) (text : List UInt8), size v ≤ n → plain v = true → Closed text →
    parse n (render v ++ text) = some (v, text)
  | v, 0, _, h, _, _ => absurd h (Nat.not_le.2 (size_pos v))
  | .null, n + 1, text, _, _, _ => by
    have hfirst : render .null ++ text = 110 :: (ascii "ull" ++ text) := rfl
    rw [hfirst, parse_letter n _ (by decide), ← hfirst, render, parse_word text (by decide)]
    rfl
  | .bool true, n + 1, text, _, _, _ => by
    have hfirst : render (.bool true) ++ text = 116 :: (ascii "rue" ++ text) := rfl
    have hword : render (.bool true) = ascii "true" := rfl
    rw [hfirst, parse_letter n _ (by decide), parse_other_word _ ⟨110, rfl, by decide⟩, ← hfirst, hword,
      parse_word text (by decide)]
    rfl
  | .bool false, n + 1, text, _, _, _ => by
    have hfirst : render (.bool false) ++ text = 102 :: (ascii "alse" ++ text) := rfl
    have hword : render (.bool false) = ascii "false" := rfl
    rw [hfirst, parse_letter n _ (by decide), parse_other_word _ ⟨110, rfl, by decide⟩,
      parse_other_word _ ⟨116, rfl, by decide⟩, ← hfirst, hword, parse_word text (by decide)]
    rfl
  | .number k, n + 1, text, _, _, ht => by
    have hread := readDigits_digits k.natAbs ht
    rw [render]
    by_cases hk : k < 0
    · have hfirst : (if k < 0 then ascii "-" else []) ++ digits k.natAbs ++ text = 45 :: (digits k.natAbs ++ text) := by
        rw [if_pos hk]
        rfl
      rw [hfirst, parse, if_neg (by decide), if_neg (by decide), if_neg (by decide), if_pos rfl, hread, Option.map_some]
      congr 3
      omega
    · rw [if_neg hk, List.nil_append]
      obtain ⟨c, rest, hdigits⟩ := List.exists_cons_of_ne_nil (digits_ne_nil k.natAbs)
      have hc : isDigit c = true := by simp [isDigit, digits_digit (n := k.natAbs) (c := c) (by simp [hdigits])]
      have hother : ∀ d, isDigit d = false → c ≠ d := by
        rintro d hd rfl
        exact Bool.noConfusion (hc.symm.trans hd)
      rw [hdigits] at hread ⊢
      rw [List.cons_append] at hread ⊢
      rw [parse, if_neg (hother _ (by decide)), if_neg (hother _ (by decide)), if_neg (hother _ (by decide)),
        if_neg (hother _ (by decide)), if_pos hc, hread, Option.map_some]
      congr 3
      omega
  | .text s, n + 1, text, _, hv, _ => by
    rw [plain] at hv
    have hread := readQuoted_quoted (plainText_quote hv) text
    rw [render, quoted, List.cons_append, parse, if_pos rfl, ← List.cons_append, ← quoted, hread]
    rfl
  | .array [], n + 1, text, _, _, _ => by
    have hfirst : render (.array []) ++ text = 91 :: 93 :: text := rfl
    rw [hfirst, parse, if_neg (by decide), if_pos rfl, List.head?_cons, if_pos rfl]
    rfl
  | .array (item :: items), n + 1, text, h, hv, ht => by
    rw [size] at h
    rw [plain, plainItems, Bool.and_eq_true] at hv
    have hitem := parse_render item n (renderItems items ++ text) (by omega) hv.1 (closed_items items text)
    have hitems := parse_items items n text (by omega) hv.2 ht
    have hfirst : render (.array (item :: items)) ++ text = 91 :: (render item ++ (renderItems items ++ text)) := by
      rw [render, List.append_assoc, List.append_assoc]
      rfl
    rw [hfirst, parse, if_neg (by decide), if_pos rfl, if_neg (render_not_closed item _), hitem, Option.bind_some, hitems]
    rfl
  | .object [], n + 1, text, _, _, _ => by
    have hfirst : render (.object []) ++ text = 123 :: 125 :: text := rfl
    rw [hfirst, parse, if_neg (by decide), if_neg (by decide), if_pos rfl, List.head?_cons, if_pos rfl]
    rfl
  | .object (member :: members), n + 1, text, h, hv, ht => by
    rw [size] at h
    rw [plain, plainMembers, Bool.and_eq_true, Bool.and_eq_true] at hv
    obtain ⟨m, rfl⟩ : ∃ m, n = m + 1 := ⟨n - 1, by omega⟩
    have hvalue := parse_render member.2 m (renderMembers members ++ text) (by omega) hv.1.2 (ended_members members text).closed
    have hmembers := parse_members members (m + 1) text (by omega) hv.2 ht
    have hfirst : render (.object (member :: members)) ++ text =
        123 :: (quoted member.1 ++ colon :: (render member.2 ++ (renderMembers members ++ text))) := by
      rw [render, List.append_assoc, List.append_assoc, List.cons_append, List.append_assoc]
      rfl
    have hopen : ¬ (quoted member.1 ++ colon :: (render member.2 ++ (renderMembers members ++ text))).head? = some 125 :=
      fun h => absurd (Option.some.inj h) (by decide)
    rw [hfirst, parse, if_neg (by decide), if_neg (by decide), if_pos rfl, if_neg hopen, parseMember_render hv.1.1 hvalue,
      Option.bind_some, hmembers]
    rfl

theorem parse_items : ∀ (items : List Value) (n : ℕ) (text : List UInt8), sizeItems items ≤ n → plainItems items = true →
    Closed text → parseItems n (renderItems items ++ text) = some (items, text)
  | items, 0, _, h, _, _ => absurd h (Nat.not_le.2 (sizeItems_pos items))
  | [], n + 1, text, _, _, _ => by
    have hfirst : renderItems [] ++ text = 93 :: text := rfl
    rw [hfirst, parseItems, if_neg (by decide), if_pos rfl]
  | item :: items, n + 1, text, h, hv, ht => by
    rw [sizeItems] at h
    rw [plainItems, Bool.and_eq_true] at hv
    have hitem := parse_render item n (renderItems items ++ text) (by omega) hv.1 (closed_items items text)
    have hitems := parse_items items n text (by omega) hv.2 ht
    rw [renderItems, List.cons_append, List.append_assoc, parseItems, if_pos rfl, hitem, Option.bind_some, hitems]
    rfl

theorem parse_members : ∀ (members : List (List UInt8 × Value)) (n : ℕ) (text : List UInt8), sizeMembers members ≤ n →
    plainMembers members = true → Closed text →
    parseMembers n (renderMembers members ++ text) = some (members, text)
  | members, 0, _, h, _, _ => absurd h (Nat.not_le.2 (sizeMembers_pos members))
  | [], n + 1, text, _, _, _ => by
    have hfirst : renderMembers [] ++ text = 125 :: text := rfl
    rw [hfirst, parseMembers, if_neg (by decide), if_pos rfl]
  | member :: members, n + 1, text, h, hv, ht => by
    rw [sizeMembers] at h
    rw [plainMembers, Bool.and_eq_true, Bool.and_eq_true] at hv
    obtain ⟨m, rfl⟩ : ∃ m, n = m + 1 := ⟨n - 1, by omega⟩
    have hvalue := parse_render member.2 m (renderMembers members ++ text) (by omega) hv.1.2 (ended_members members text).closed
    have hmembers := parse_members members (m + 1) text (by omega) hv.2 ht
    rw [renderMembers, List.cons_append, List.append_assoc, List.cons_append, List.append_assoc, parseMembers, if_pos rfl,
      parseMember_render hv.1.1 hvalue, Option.bind_some, hmembers]
    rfl

end

mutual

theorem size_le : ∀ v : Value, size v ≤ 2 * (render v).length
  | .null => by decide
  | .bool b => by cases b <;> decide
  | .number n => by
    have := List.length_pos_iff.2 (digits_ne_nil n.natAbs)
    show 1 ≤ 2 * _
    rw [render, List.length_append]
    omega
  | .text s => by
    show 1 ≤ 2 * _
    rw [render, quoted, List.length_cons]
    omega
  | .array [] => by decide
  | .array (item :: items) => by
    have hitem := size_le item
    have hitems := sizeItems_le items
    have hopen : (ascii "[").length = 1 := rfl
    rw [size, render, List.length_append, List.length_append]
    omega
  | .object [] => by decide
  | .object (member :: members) => by
    have hvalue := size_le member.2
    have hmembers := sizeMembers_le members
    have hopen : (ascii "\x7b").length = 1 := rfl
    simp only [size, render, List.length_append, List.length_cons]
    omega

theorem sizeItems_le : ∀ items : List Value, sizeItems items ≤ 2 * (renderItems items).length
  | [] => by decide
  | item :: items => by
    have hitem := size_le item
    have hitems := sizeItems_le items
    rw [sizeItems, renderItems, List.length_cons, List.length_append]
    omega

theorem sizeMembers_le : ∀ members : List (List UInt8 × Value), sizeMembers members ≤ 2 * (renderMembers members).length
  | [] => by decide
  | member :: members => by
    have hvalue := size_le member.2
    have hmembers := sizeMembers_le members
    simp only [sizeMembers, renderMembers, List.length_append, List.length_cons]
    omega

end

/-- A plain value is read back from its text. -/
theorem decode_render {v : Value} (h : plain v = true) : decode (render v) = some v := by
  have hread := parse_render v (2 * (render v).length + 2) [] (Nat.le_trans (size_le v) (Nat.le_add_right _ _)) h
    (fun _ hc => nomatch hc)
  rw [List.append_nil] at hread
  rw [decode, hread]
  rfl

/-! ## Control bytes -/

theorem printable_of_all {s : List UInt8} (h : s.all (fun c => decide (0x20 ≤ c)) = true) : ∀ c ∈ s, 0x20 ≤ c :=
  fun c hc => of_decide_eq_true (List.all_eq_true.1 h c hc)

theorem quoted_printable {s : List UInt8} (h : plainText s = true) : ∀ c ∈ quoted s, 0x20 ≤ c := by
  intro c hc
  rcases List.mem_cons.1 hc with rfl | hc
  · decide
  · rcases List.mem_append.1 hc with hc | hc
    · have hall := List.all_eq_true.1 h c hc
      simp only [Bool.and_eq_true, decide_eq_true_eq] at hall
      exact hall.1.1
    · obtain rfl := List.mem_singleton.1 hc
      decide

mutual

/-- The text of a plain value has no control byte. -/
theorem render_printable : ∀ v : Value, plain v = true → ∀ c ∈ render v, 0x20 ≤ c
  | .null, _ => printable_of_all rfl
  | .bool b, _ => by cases b <;> exact printable_of_all rfl
  | .number n, _ => by
    intro c hc
    rw [render] at hc
    rcases List.mem_append.1 hc with hc | hc
    · have hsign : ∀ c ∈ ascii "-", 0x20 ≤ c := printable_of_all rfl
      split at hc
      · exact hsign c hc
      · cases hc
    · exact UInt8.le_trans (by decide) (digits_digit hc).1
  | .text s, hv => quoted_printable hv
  | .array [], _ => printable_of_all rfl
  | .array (item :: items), hv => by
    rw [plain, plainItems, Bool.and_eq_true] at hv
    have hopen : ∀ c ∈ ascii "[", 0x20 ≤ c := printable_of_all rfl
    rw [render]
    simp only [List.forall_mem_append]
    exact ⟨hopen, render_printable item hv.1, renderItems_printable items hv.2⟩
  | .object [], _ => printable_of_all rfl
  | .object (member :: members), hv => by
    rw [plain, plainMembers, Bool.and_eq_true, Bool.and_eq_true] at hv
    have hopen : ∀ c ∈ ascii "\x7b", 0x20 ≤ c := printable_of_all rfl
    rw [render]
    simp only [List.forall_mem_append, List.forall_mem_cons]
    exact ⟨hopen, quoted_printable hv.1.1, by decide, render_printable member.2 hv.1.2, renderMembers_printable members hv.2⟩

theorem renderItems_printable : ∀ items : List Value, plainItems items = true → ∀ c ∈ renderItems items, 0x20 ≤ c
  | [], _ => printable_of_all rfl
  | item :: items, hv => by
    rw [plainItems, Bool.and_eq_true] at hv
    rw [renderItems]
    simp only [List.forall_mem_append, List.forall_mem_cons]
    exact ⟨by decide, render_printable item hv.1, renderItems_printable items hv.2⟩

theorem renderMembers_printable : ∀ members : List (List UInt8 × Value), plainMembers members = true →
    ∀ c ∈ renderMembers members, 0x20 ≤ c
  | [], _ => printable_of_all rfl
  | member :: members, hv => by
    rw [plainMembers, Bool.and_eq_true, Bool.and_eq_true] at hv
    rw [renderMembers]
    simp only [List.forall_mem_append, List.forall_mem_cons]
    exact ⟨by decide, quoted_printable hv.1.1, by decide, render_printable member.2 hv.1.2, renderMembers_printable members hv.2⟩

end

end Json
