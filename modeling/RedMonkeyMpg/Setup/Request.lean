/-
Requests as JSON. The reader of a request line knows keys and what may stand behind them, and no nesting
and no order; on the compact text of a plain JSON value it reads exactly the members of a name, at any
depth, and only when there is one of them. How a request is handled is therefore a function of the
members that the service knows.
-/
import RedMonkeyMpg.Lib.Json
import RedMonkeyMpg.Setup.Line

namespace RedMonkeyMpg.Setup

open Json (Value quoted found named)

/-! ## Keys -/

/-- The key of a member with a text. -/
def textKey (name : CStr) : CStr := quoted name ++ cstr ":\""

/-- The key of a member with a number. -/
def numberKey (name : CStr) : CStr := quoted name ++ cstr ":"

/-- The names whose members are read as texts. -/
def textNames : List CStr :=
  [cstr "command", cstr "address", cstr "deadman", cstr "continuous", cstr "resolution", cstr "faceA", cstr "faceB",
    cstr "faceX", cstr "faceY", cstr "cncProfile"]

/-- The names whose members are read as numbers. -/
def numberNames : List CStr := [cstr "protocol", cstr "schema"]

/-- The only element of a list. -/
def only {β : Type*} : List β → Option β
  | [b] => some b
  | _ => none

/-! ## What a value reads as -/

/-- A text field: a non-empty text of fewer than `size` bytes. -/
def textField (size : ℕ) (s : CStr) : Option CStr := if s = [] ∨ s.length ≥ size then none else some s

/-- A value that is a text. -/
def asText : Value → Option CStr
  | .text s => some s
  | _ => none

/-- What a member reads as behind a number key. -/
def numberOf : Value → Option ℕ
  | .number n => if n < 0 then none else some (min n.natAbs 0xffffffff)
  | _ => none

/-- The texts among the members of a name. -/
def texts (name : CStr) (v : Value) : List CStr := (named name v).filterMap asText

/-- The text of the one member of a name that has a text. -/
def readText (name : CStr) (size : ℕ) (v : Value) : Option CStr := (only (texts name v)).bind (textField size)

/-- The number of the one member of a name. -/
def readNumber (name : CStr) (v : Value) : Option ℕ := (only (named name v)).bind numberOf

/-! ## Searches -/

/-- What is behind a key that is found, and how `read_string` and `read_unsigned` go on there. -/
def stringBehind (size : ℕ) (start : CStr) : Option CStr :=
  if quote ∉ start then none
  else if start.takeWhile (· != quote) = [] ∨ (start.takeWhile (· != quote)).length ≥ size then none
  else some (start.takeWhile (· != quote))

def unsignedBehind (start : CStr) : Option ℕ :=
  if start.takeWhile isDigit = [] then none
  else
    match (start.dropWhile isDigit).dropWhile isBlank with
    | [] => some (strtoul (start.takeWhile isDigit))
    | c :: _ => if c = 44 ∨ c = 125 then some (strtoul (start.takeWhile isDigit)) else none

theorem readString_eq (line key : CStr) (size : ℕ) : readString line key size = (findOnce line key).bind (stringBehind size) := by
  unfold readString
  cases findOnce line key <;> rfl

theorem readUnsigned_eq (line key : CStr) : readUnsigned line key = (findOnce line key).bind unsignedBehind := by
  unfold readUnsigned
  cases findOnce line key <;> rfl

theorem strstr_eq_head (key line : CStr) : strstr key line = (Json.occurrences key line).head? := by
  induction line with
  | nil =>
    unfold strstr Json.occurrences
    cases h : key.isPrefixOf ([] : CStr) <;> simp [h]
  | cons c line ih =>
    unfold strstr
    rw [Json.occurrences_cons, ih]
    by_cases h : key <+: c :: line
    · rw [if_pos (List.isPrefixOf_iff_prefix.2 h), if_pos h]
      rfl
    · rw [if_neg fun hp => h (List.isPrefixOf_iff_prefix.1 hp), if_neg h]
      rfl

/-- The occurrences behind the first one. -/
theorem occurrences_drop {key line found : CStr} {more : List CStr} (hk : key ≠ [])
    (h : Json.occurrences key line = found :: more) : Json.occurrences key (found.drop 1) = more := by
  induction line with
  | nil =>
    cases key with
    | nil => exact absurd rfl hk
    | cons k key => cases h
  | cons c line ih =>
    rw [Json.occurrences_cons] at h
    split at h
    · obtain ⟨rfl, rfl⟩ := List.cons.inj h
      rfl
    · exact ih h

theorem findOnce_eq {key : CStr} (hk : key ≠ []) (line : CStr) :
    findOnce line key = (only (Json.occurrences key line)).map (·.drop key.length) := by
  unfold findOnce
  rw [strstr_eq_head]
  cases h : Json.occurrences key line with
  | nil => rfl
  | cons found more =>
    dsimp only [List.head?_cons]
    rw [strstr_eq_head, occurrences_drop hk h]
    cases more <;> rfl

theorem filterMap_ite {α β : Type*} (p : α → Prop) [DecidablePred p] (f : α → β) (l : List α) :
    l.filterMap (fun a => if p a then some (f a) else none) = (l.filter (p ·)).map f := by
  induction l with
  | nil => rfl
  | cons a l ih => by_cases h : p a <;> simp [h, ih]

/-- What is read of a key: its name and what opens its value. -/
theorem find_found {γ : Type*} (name opening line : CStr) (behind : CStr → Option γ) :
    (findOnce line (quoted name ++ opening)).bind behind =
      (only (found name (fun t => if opening <+: t then some (behind (t.drop opening.length)) else none) line)).join := by
  rw [findOnce_eq (by simp [quoted]), Json.occurrences_append]
  unfold found
  dsimp only
  rw [filterMap_ite (fun t : CStr => opening <+: t.drop (quoted name).length)
    (fun t : CStr => behind ((t.drop (quoted name).length).drop opening.length))]
  generalize (Json.occurrences (quoted name) line).filter (fun t => opening <+: t.drop (quoted name).length) = l
  rcases l with _ | ⟨t, _ | ⟨u, l⟩⟩
  · rfl
  · simp [only, List.drop_drop]
  · rfl

/-! ## The readers -/

/-- The first byte of a value that is no text. -/
theorem render_head {v : Value} (h : ∀ s, v ≠ .text s) : ∃ c ∈ (Json.render v).head?, c ≠ quote := by
  cases v with
  | null => exact ⟨110, rfl, by decide⟩
  | bool b => cases b <;> exact ⟨_, rfl, by decide⟩
  | number n =>
    rw [Json.render]
    split
    · exact ⟨45, rfl, by decide⟩
    · obtain ⟨c, rest, hdigits⟩ := List.exists_cons_of_ne_nil (Json.digits_ne_nil n.natAbs)
      have hc := (Json.digits_digit (n := n.natAbs) (c := c) (by simp [hdigits])).1
      refine ⟨c, by simp [hdigits], ?_⟩
      rintro rfl
      exact absurd hc (by decide)
  | text s => exact absurd rfl (h s)
  | array items => cases items <;> exact ⟨91, rfl, by decide⟩
  | object members => cases members <;> exact ⟨123, rfl, by decide⟩

/-- The names start with a letter. -/
def Named (name : CStr) : Prop := quote ∉ name ∧ ∃ c ∈ name.head?, c ∉ Json.ascii ",:]\x7d"

instance (name : CStr) : Decidable (Named name) := inferInstanceAs (Decidable (_ ∧ _))

theorem names_named : ∀ name ∈ textNames ++ numberNames, Named name := by decide

theorem text_reads {name : CStr} (hname : Named name) (size : ℕ) :
    Json.Reads name (fun t => if cstr ":\"" <+: t then some (stringBehind size (t.drop (cstr ":\"").length)) else none)
      (fun v => (asText v).map (textField size)) := by
  have hopening : cstr ":\"" = [Json.colon, quote] := by decide
  rw [hopening]
  refine ⟨hname, fun text hcolon => if_neg ?_, fun v text hv _ => ?_⟩
  · rintro ⟨rest, rfl⟩
    exact hcolon rfl
  · by_cases htext : ∃ s, v = .text s
    · obtain ⟨s, rfl⟩ := htext
      have hs : quote ∉ s := Json.plainText_quote hv
      have hline : Json.colon :: (Json.render (.text s) ++ text) = [Json.colon, quote] ++ (s ++ quote :: text) := by
        simp [Json.render, quoted, Json.quote, quote]
      rw [hline, if_pos (List.prefix_append ..), List.drop_left]
      unfold stringBehind asText textField
      rw [takeWhile_value hs, if_neg (by simp)]
      rfl
    · push Not at htext
      obtain ⟨c, hc, hne⟩ := render_head htext
      rw [if_neg]
      · cases v with
        | text s => exact absurd rfl (htext s)
        | _ => rfl
      · intro hprefix
        have hhead := (List.cons_prefix_cons.1 hprefix).2
        obtain ⟨rest, hrest⟩ := hhead
        cases hv' : Json.render v with
        | nil =>
          rw [hv'] at hc
          cases hc
        | cons d more =>
          rw [hv'] at hc hrest
          cases hc
          exact hne (List.cons.inj hrest).1.symm

/-- A number is read where no digit follows it, and something that is no digit is no number. -/
theorem unsignedBehind_digits (n : ℕ) {text : CStr} (ht : Json.Ended text) :
    unsignedBehind (Json.digits n ++ text) = some (min n 0xffffffff) := by
  obtain ⟨c, hc, hend⟩ := ht
  obtain ⟨rest, rfl⟩ : ∃ rest, text = c :: rest := by
    cases text with
    | nil => cases hc
    | cons d rest =>
      cases hc
      exact ⟨rest, rfl⟩
  have hc : c = 44 ∨ c = 125 := by
    have : c ∈ [44, 125] := hend
    simpa using this
  have hdigits : ∀ d ∈ Json.digits n, isDigit d = true := by
    intro d hd
    simp [isDigit, Json.digits_digit hd]
  have hstop : isDigit c = false ∧ isBlank c = false := by
    rcases hc with rfl | rfl <;> decide
  have htake : (Json.digits n ++ c :: rest).takeWhile isDigit = Json.digits n := by
    rw [List.takeWhile_append_of_pos hdigits, List.takeWhile_cons_of_neg (by simp [hstop.1]), List.append_nil]
  have hdrop : ((Json.digits n ++ c :: rest).dropWhile isDigit).dropWhile isBlank = c :: rest := by
    rw [List.dropWhile_append_of_pos hdigits, List.dropWhile_cons_of_neg (by simp [hstop.1]),
      List.dropWhile_cons_of_neg (by simp [hstop.2])]
  unfold unsignedBehind
  rw [htake, hdrop, if_neg (Json.digits_ne_nil n)]
  simp only [hc, if_true, strtoul, Json.digits_value]

theorem unsignedBehind_other {c : UInt8} (h : isDigit c = false) (rest : CStr) : unsignedBehind (c :: rest) = none := by
  unfold unsignedBehind
  rw [List.takeWhile_cons_of_neg (by simp [h]), if_pos rfl]

theorem number_reads {name : CStr} (hname : Named name) :
    Json.Reads name (fun t => if cstr ":" <+: t then some (unsignedBehind (t.drop (cstr ":").length)) else none)
      (fun v => some (numberOf v)) := by
  have hopening : cstr ":" = [Json.colon] := by decide
  rw [hopening]
  refine ⟨hname, fun text hcolon => if_neg ?_, fun v text hv ht => ?_⟩
  · rintro ⟨rest, rfl⟩
    exact hcolon rfl
  · rw [if_pos ⟨Json.render v ++ text, rfl⟩]
    refine congrArg some ?_
    show unsignedBehind (Json.render v ++ text) = numberOf v
    cases v with
    | null => exact unsignedBehind_other (c := 110) (by decide) _
    | bool b => cases b <;> exact unsignedBehind_other (by decide) _
    | number n =>
      have hnumber : numberOf (.number n) = if n < 0 then none else some (min n.natAbs 0xffffffff) := rfl
      rw [hnumber, Json.render]
      by_cases hn : n < 0
      · rw [if_pos hn, if_pos hn]
        exact unsignedBehind_other (c := 45) (by decide) _
      · rw [if_neg hn, if_neg hn]
        exact unsignedBehind_digits n.natAbs ht
    | text s => exact unsignedBehind_other (c := 34) (by decide) _
    | array items => cases items <;> exact unsignedBehind_other (c := 91) (by decide) _
    | object members => cases members <;> exact unsignedBehind_other (c := 123) (by decide) _

/-- What is found behind a text key are the texts of the members. -/
theorem found_texts {name : CStr} (hname : Named name) (size : ℕ) {v : Value} (hv : Json.plain v = true) :
    found name (fun t => if cstr ":\"" <+: t then some (stringBehind size (t.drop (cstr ":\"").length)) else none)
      (Json.render v) = (texts name v).map (textField size) := by
  have hfound := (text_reads hname size).found_render v [] hv (fun _ h => nomatch h)
  rw [List.append_nil, Json.found_nil, List.append_nil] at hfound
  rw [hfound, texts, List.map_filterMap]

/-- On the text of a plain value `read_string` reads the one text member of the name. -/
theorem readString_render {name : CStr} (hname : Named name) (size : ℕ) {v : Value} (hv : Json.plain v = true) :
    readString (Json.render v) (textKey name) size = readText name size v := by
  rw [readString_eq, textKey, find_found, found_texts hname size hv]
  unfold readText
  generalize texts name v = l
  rcases l with _ | ⟨t, _ | ⟨u, l⟩⟩ <;> rfl

/-- On the text of a plain value `read_unsigned` reads the one member of the name, when it is a number. -/
theorem readUnsigned_render {name : CStr} (hname : Named name) {v : Value} (hv : Json.plain v = true) :
    readUnsigned (Json.render v) (numberKey name) = readNumber name v := by
  have hfound := (number_reads hname).found_render v [] hv (fun _ h => nomatch h)
  rw [List.append_nil, Json.found_nil, List.append_nil] at hfound
  rw [readUnsigned_eq, numberKey, find_found, hfound]
  unfold readNumber
  generalize named name v = l
  rcases l with _ | ⟨t, _ | ⟨u, l⟩⟩ <;> rfl

/-- A text key is in the text of a plain value when a member of the name has a text. -/
theorem strstr_render {name : CStr} (hname : Named name) {v : Value} (hv : Json.plain v = true) :
    (strstr (textKey name) (Json.render v)).isSome = !(texts name v).isEmpty := by
  have hfound := found_texts hname 0 hv
  rw [found, filterMap_ite (fun t : CStr => cstr ":\"" <+: t.drop (quoted name).length)
    (fun t : CStr => stringBehind 0 ((t.drop (quoted name).length).drop (cstr ":\"").length))] at hfound
  have hlength := congrArg List.length hfound
  rw [List.length_map, List.length_map] at hlength
  rw [strstr_eq_head, textKey, Json.occurrences_append]
  generalize (Json.occurrences (quoted name) (Json.render v)).filter (cstr ":\"" <+: ·.drop (quoted name).length) = l at hlength
  generalize texts name v = values at hlength
  cases l <;> cases values <;> simp at hlength ⊢

/-! ## Handling a request -/

/-- What the handling of a line looks at. -/
structure SameFields (line line' : CStr) : Prop where
  text : ∀ name ∈ textNames, ∀ size, readString line (textKey name) size = readString line' (textKey name) size
  number : ∀ name ∈ numberNames, readUnsigned line (numberKey name) = readUnsigned line' (numberKey name)
  profile : (strstr cncProfileKey line).isSome = (strstr cncProfileKey line').isSome

theorem keys_eq :
    (deadmanKey = textKey (cstr "deadman") ∧ continuousKey = textKey (cstr "continuous") ∧
      resolutionKey = textKey (cstr "resolution")) ∧
    (faceAKey = textKey (cstr "faceA") ∧ faceBKey = textKey (cstr "faceB") ∧ faceXKey = textKey (cstr "faceX") ∧
      faceYKey = textKey (cstr "faceY")) ∧
    cncProfileKey = textKey (cstr "cncProfile") ∧ cstr "\"command\":\"" = textKey (cstr "command") ∧
    cstr "\"address\":\"" = textKey (cstr "address") ∧ cstr "\"protocol\":" = numberKey (cstr "protocol") ∧
    cstr "\"schema\":" = numberKey (cstr "schema") := by decide

theorem SameFields.parseMapping {line line' : CStr} (h : SameFields line line') (old : ProductionMapping) :
    parseMapping line old = parseMapping line' old := by
  obtain ⟨⟨hdeadman, hcontinuous, hresolution⟩, ⟨ha, hb, hx, hy⟩, hprofile, -⟩ := keys_eq
  have hread : readProfile line old.cncProfile = readProfile line' old.cncProfile := by
    unfold readProfile
    rw [h.profile, hprofile, h.text (cstr "cncProfile") (by simp [textNames])]
  unfold Setup.parseMapping
  rw [hread, hdeadman, hcontinuous, hresolution, ha, hb, hx, hy, h.text (cstr "deadman") (by simp [textNames]),
    h.text (cstr "continuous") (by simp [textNames]), h.text (cstr "resolution") (by simp [textNames]),
    h.text (cstr "faceA") (by simp [textNames]), h.text (cstr "faceB") (by simp [textNames]),
    h.text (cstr "faceX") (by simp [textNames]), h.text (cstr "faceY") (by simp [textNames])]

theorem SameFields.handleLine {σ : Type} (host : Host σ) (s : σ) {line line' : CStr} (h : SameFields line line') :
    handleLine host s line = handleLine host s line' := by
  obtain ⟨-, -, -, hcommand, haddress, hprotocol, hschema⟩ := keys_eq
  have hset : setConfig host s line = setConfig host s line' := by
    unfold setConfig
    rw [hschema, h.number (cstr "schema") (by simp [numberNames]), h.parseMapping]
  have hpair : pairCandidate host s line = pairCandidate host s line' := by
    unfold pairCandidate
    rw [haddress, h.text (cstr "address") (by simp [textNames])]
  unfold Setup.handleLine
  rw [hprotocol, h.number (cstr "protocol") (by simp [numberNames]), hcommand, h.text (cstr "command") (by simp [textNames]),
    hset, hpair]

theorem sameFields_render {v v' : Value} (hv : Json.plain v = true) (hv' : Json.plain v' = true)
    (htexts : ∀ name ∈ textNames, texts name v = texts name v')
    (hnumbers : ∀ name ∈ numberNames, named name v = named name v') : SameFields (Json.render v) (Json.render v') := by
  have hname : ∀ name ∈ textNames, Named name := fun name h => names_named name (List.mem_append_left _ h)
  refine ⟨fun name h size => ?_, fun name h => ?_, ?_⟩
  · rw [readString_render (hname name h) size hv, readString_render (hname name h) size hv', readText, readText, htexts name h]
  · have hnumber : Named name := names_named name (List.mem_append_right _ h)
    rw [readUnsigned_render hnumber hv, readUnsigned_render hnumber hv', readNumber, readNumber, hnumbers name h]
  · have hprofile : cstr "cncProfile" ∈ textNames := by decide
    rw [keys_eq.2.2.1, strstr_render (hname _ hprofile) hv, strstr_render (hname _ hprofile) hv', htexts _ hprofile]

/-- On the compact text of a plain JSON value the service reads the members of its names, at any depth, each only
when it is the one of its name; so two values with the same members of these names, in whatever order and with
whatever else beside them, are the same request. -/
theorem request_members {v : Value} (hv : Json.plain v = true) :
    (∀ name ∈ textNames, ∀ size, readString (Json.render v) (textKey name) size = readText name size v) ∧
      (∀ name ∈ numberNames, readUnsigned (Json.render v) (numberKey name) = readNumber name v) ∧
      ∀ v', Json.plain v' = true → (∀ name ∈ textNames, texts name v = texts name v') →
        (∀ name ∈ numberNames, named name v = named name v') →
        ∀ (σ : Type) (host : Host σ) (s : σ), handleLine host s (Json.render v) = handleLine host s (Json.render v') :=
  ⟨fun name h size => readString_render (names_named name (List.mem_append_left _ h)) size hv,
    fun name h => readUnsigned_render (names_named name (List.mem_append_right _ h)) hv,
    fun _ hv' htexts hnumbers _ host s => (sameFields_render hv hv' htexts hnumbers).handleLine host s⟩

/-- A request with an unknown member in front, and a nested one behind. -/
def strangeRequest : Value :=
  .object [(cstr "id", .number 7), (cstr "command", .text (cstr "GET_INFO")), (cstr "protocol", .number 1),
    (cstr "client", .object [(cstr "name", .text (cstr "command"))])]

def infoRequest : Value := .object [(cstr "protocol", .number 1), (cstr "command", .text (cstr "GET_INFO"))]

/-- A service whose owner is the mapping alone. -/
def mappingHost : Host ProductionMapping where
  mapping m := m
  setMapping m _ := m
  store m _ := (true, m)
  sequence _ := 1
  serial _ := cstr "BENCH-0001"
  firmware _ := cstr "0.1.0"
  controller _ := none
  address _ := none

theorem request_members_strange :
    handleLine mappingHost {} (Json.render strangeRequest) = handleLine mappingHost {} (Json.render infoRequest) :=
  (request_members (v := strangeRequest) (by decide)).2.2 infoRequest (by decide) (by decide)
    (by
      intro name h
      rcases List.mem_pair.1 h with rfl | rfl <;> rfl)
    ProductionMapping mappingHost {}

end RedMonkeyMpg.Setup
