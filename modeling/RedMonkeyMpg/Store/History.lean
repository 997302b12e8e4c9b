/-
Histories of the persistent configuration on one flash: boots, saves of a mapping or of a mapping
with a new controller address, and every fault of a save. With fault-free boots the RAM always
names the record a load would pick, so an interrupted save loads as the old configuration or as
the new one. With boots whose reads may fail, a reported save is loaded back exactly unless the
boot before it read nothing while tag B still holds a record newer than sequence 1.
-/
import RedMonkeyMpg.Lib.Run
import RedMonkeyMpg.Store.Config

namespace RedMonkeyMpg

/-! ## Saves -/

/-- A call of `store` or of `store_controller_address`. -/
inductive Save where
  | mapping (mapping : ProductionMapping)
  | address (mapping : ProductionMapping) (text : Option CStr)

namespace Save

def newMapping : Save → ProductionMapping
  | .mapping m => m
  | .address m _ => m

/-- The RAM under which a save writes its record; none for an address it cannot parse. -/
def config (config : PersistentConfig) : Save → Option PersistentConfig
  | .mapping _ => some config
  | .address _ text => (parseAddress text).map fun a => { config with addressText := formatAddress a }

def run (config : PersistentConfig) (flash : Flash) (faults : StoreFaults) : Save → Stored
  | .mapping m => config.store flash faults m
  | .address m text => config.storeControllerAddress flash faults m text

/-- What a load returns once the save's record is the one in use. -/
def loaded (save : Save) (config : PersistentConfig) : Loaded where
  ok := true
  mapping := save.newMapping
  config :=
    { config with
      sequence := config.sequence + 1
      activeTag := some (Slots.target config.activeTag) }

variable {config during : PersistentConfig} {flash : Flash} {faults : StoreFaults} {save : Save}

theorem config_fields (h : save.config config = some during) :
    during.sequence = config.sequence ∧ during.activeTag = config.activeTag ∧
      (TextOk config.addressText → TextOk during.addressText) := by
  cases save with
  | mapping m =>
    cases h
    exact ⟨rfl, rfl, id⟩
  | address m text =>
    obtain ⟨a, ha, rfl⟩ := Option.map_eq_some_iff.1 h
    exact ⟨rfl, rfl, fun _ => .inr ⟨a, parseAddress_valid ha, rfl⟩⟩

/-- A save that fails leaves the RAM as it was, and the tag it would write as it was or deleted. -/
theorem run_failed (h : (save.run config flash faults).ok = false) :
    (save.run config flash faults).config = config ∧
      ((save.run config flash faults).flash = flash ∨
        (save.run config flash faults).flash = Slots.put flash (Slots.target config.activeTag) none) := by
  cases save with
  | mapping m =>
    rcases store_cases config flash faults m with ⟨-, hc, hf⟩ | ⟨hok, -⟩
    · exact ⟨hc, hf⟩
    · simp only [run] at h
      rw [hok] at h
      cases h
  | address m text =>
    simp only [run, PersistentConfig.storeControllerAddress] at h ⊢
    cases hp : parseAddress text with
    | none => exact ⟨rfl, .inl rfl⟩
    | some a =>
      simp only [hp] at h ⊢
      rcases store_cases { config with addressText := formatAddress a } flash faults m with
        ⟨hok, hc, hf⟩ | ⟨hok, -⟩
      · rw [if_neg (by simp [hok])]
        exact ⟨by rw [hc], hf⟩
      · rw [if_pos hok, hok] at h
        cases h

/-- A save that succeeds ran on a valid mapping, wrote its record to the tag not in use and left
the RAM as a load of that record would. -/
theorem run_ok (h : (save.run config flash faults).ok = true) :
    ∃ during, save.config config = some during ∧ validateProductionMapping save.newMapping = .valid ∧
      (save.run config flash faults).config = (save.loaded during).config ∧
      ∃ contents, readRecord contents =
          some (encode save.newMapping (during.sequence + 1) during.controllerAddress, save.newMapping) ∧
        (save.run config flash faults).flash = Slots.put flash (Slots.target config.activeTag) contents := by
  cases save with
  | mapping m =>
    rcases store_cases config flash faults m with ⟨hok, -⟩ | ⟨-, hv, hc, hf⟩
    · simp only [run] at h
      rw [hok] at h
      cases h
    · exact ⟨config, rfl, hv, hc, hf⟩
  | address m text =>
    simp only [run, PersistentConfig.storeControllerAddress] at h ⊢
    cases hp : parseAddress text with
    | none =>
      rw [hp] at h
      cases h
    | some a =>
      simp only [hp] at h ⊢
      rcases store_cases { config with addressText := formatAddress a } flash faults m with
        ⟨hok, -⟩ | ⟨hok, hv, hc, hf⟩
      · rw [if_neg (by simp [hok])] at h
        simp only [hok] at h
        cases h
      · rw [if_pos hok]
        exact ⟨_, by simp [Save.config, hp], hv, hc, hf⟩

end Save

/-! ## Histories -/

structure Device where
  flash : Flash
  config : PersistentConfig

/-- A boot, whose load cannot read the tags in `unread`, or a save with its faults. -/
inductive Op where
  | boot (unread : Tag → Bool)
  | save (save : Save) (faults : StoreFaults)

/-- What a load reads when some reads fail. -/
def Flash.hide (flash : Flash) (unread : Tag → Bool) : Flash := fun tag =>
  if unread tag then none else flash tag

theorem Flash.hide_none {flash : Flash} {unread : Tag → Bool} (h : ∀ tag, unread tag = false) :
    flash.hide unread = flash := by
  funext tag
  simp [Flash.hide, h tag]

def Device.step (d : Device) : Op → Device
  | .boot unread => { d with config := (load (some (d.flash.hide unread))).config }
  | .save save faults =>
    let stored := save.run d.config d.flash faults
    { flash := stored.flash, config := stored.config }

/-- An op that is not a boot with failing reads. -/
def Op.readsAll : Op → Prop
  | .boot unread => ∀ tag, unread tag = false
  | .save _ _ => True

def Device.blank : Device where
  flash := fun _ => none
  config := {}

/-! ## What the RAM knows of the flash -/

/-- The RAM's active tag holds a record with the RAM's sequence number; without one the sequence is
zero. -/
structure Tracks (d : Device) : Prop where
  text : TextOk d.config.addressText
  idle : d.config.activeTag = none → d.config.sequence = 0
  active : ∀ tag, d.config.activeTag = some tag →
    ∃ record, readRecord (d.flash tag) = some record ∧ record.1.sequence = d.config.sequence

theorem readRecord_hide {flash : Flash} {unread : Tag → Bool} {tag : Tag} {record : Record × ProductionMapping}
    (h : readRecord (flash.hide unread tag) = some record) : readRecord (flash tag) = some record := by
  unfold Flash.hide at h
  split at h
  · cases h
  · exact h

theorem load_tracks (flash : Flash) (unread : Tag → Bool) :
    Tracks ⟨flash, (load (some (flash.hide unread))).config⟩ := by
  refine ⟨load_textOk _, ?_, ?_⟩ <;> dsimp only <;> rw [load_pick] <;>
    cases h : Slots.pick recordNewer (readable (flash.hide unread)) with
    | none => simp
    | some p => ?_
  · simp [adopt]
  · intro tag ht
    cases ht
    exact ⟨p.2, readRecord_hide (Slots.pick_some h), rfl⟩

/-- Every boot and every save, failed or not, keeps the RAM true to the flash. -/
theorem step_tracks (d : Device) (op : Op) (h : Tracks d) : Tracks (d.step op) := by
  cases op with
  | boot unread => exact load_tracks d.flash unread
  | save save faults =>
    simp only [Device.step]
    cases hok : (save.run d.config d.flash faults).ok with
    | false =>
      -- a failed save deletes at most the tag that is not active
      obtain ⟨hc, hf⟩ := Save.run_failed hok
      rw [hc]
      refine ⟨h.text, h.idle, fun tag ht => ?_⟩
      obtain ⟨record, hr, hs⟩ := h.active tag ht
      refine ⟨record, ?_, hs⟩
      rcases hf with hf | hf <;> rw [hf]
      · exact hr
      · rw [show d.config.activeTag = some tag from ht, Slots.target_some]
        simpa [Slots.put] using hr
    | true =>
      obtain ⟨during, hd, -, hc, contents, hread, hf⟩ := Save.run_ok hok
      obtain ⟨-, htag, htext⟩ := Save.config_fields hd
      rw [hc, hf]
      refine ⟨htext h.text, fun hn => by simp [Save.loaded] at hn, fun tag ht => ?_⟩
      simp only [Save.loaded, Option.some.injEq] at ht
      subst ht
      exact ⟨_, by simpa [htag] using hread, rfl⟩

theorem exec_tracks (flash : Flash) (ops : List Op) : Tracks (Run.exec Device.step ⟨flash, {}⟩ ops) :=
  Run.invariant_all step_tracks ops ⟨.inl rfl, fun _ => rfl, fun _ h => by cases h⟩

/-! ## The load after a save -/

/-- A new record in the tag not in use is loaded back when the RAM tracks the flash and has an
active tag. -/
theorem load_put_active {d : Device} (h : Tracks d) {tag : Tag} (ht : d.config.activeTag = some tag)
    {save : Save} {during : PersistentConfig} (hd : save.config d.config = some during)
    {contents : Option (List UInt8)}
    (hread : readRecord contents =
      some (encode save.newMapping (during.sequence + 1) during.controllerAddress, save.newMapping)) :
    load (some (Slots.put d.flash (Slots.target d.config.activeTag) contents)) = save.loaded during := by
  obtain ⟨hseq, htag, htext⟩ := Save.config_fields hd
  obtain ⟨record, hr, hs⟩ := h.active tag ht
  rw [ht, Slots.target_some]
  have hpick : Slots.pick recordNewer (readable (Slots.put d.flash tag.other contents)) =
      some (tag.other, encode save.newMapping (during.sequence + 1) during.controllerAddress, save.newMapping) := by
    rw [readable_put, hread]
    refine Slots.pick_newer (y := record) (Slots.put_same ..) ?_ ?_ ?_
    · simpa [Slots.put, readable] using hr
    · simpa [recordNewer, hs, hseq] using newer_succ d.config.sequence
    · simpa [recordNewer, hs, hseq] using not_newer_succ d.config.sequence
  rw [load_of_pick hpick, adopt_encode (htext h.text)]
  simp [Save.loaded, htag, ht, Slots.target_some]

/-- With no active tag the new record goes to tag A, and is loaded back unless tag B holds a newer
one. -/
theorem load_put_idle {d : Device} (h : Tracks d) (ht : d.config.activeTag = none)
    {save : Save} {during : PersistentConfig} (hd : save.config d.config = some during)
    {contents : Option (List UInt8)}
    (hread : readRecord contents =
      some (encode save.newMapping (during.sequence + 1) during.controllerAddress, save.newMapping)) :
    load (some (Slots.put d.flash (Slots.target d.config.activeTag) contents)) =
      match readRecord (d.flash .b) with
      | none => save.loaded during
      | some b => if newer b.1.sequence 1 then adopt .b b else save.loaded during := by
  obtain ⟨hseq, htag, htext⟩ := Save.config_fields hd
  have hone : during.sequence + 1 = 1 := by
    rw [hseq, h.idle ht]
    decide
  have hadopt := adopt_encode (htext h.text) .a save.newMapping (during.sequence + 1)
  have hnew : save.loaded during = adopt .a
      (encode save.newMapping (during.sequence + 1) during.controllerAddress, save.newMapping) := by
    rw [hadopt]
    simp [Save.loaded, htag, ht, Slots.target]
  rw [hnew, load_pick, readable_put, hread, ht]
  simp only [Slots.target, Slots.pick, Slots.put, readable, reduceCtorEq, if_true, if_false, recordNewer,
    hone]
  cases readRecord (d.flash .b) with
  | none => rfl
  | some b => cases hb : newer b.1.sequence 1 <;> simp [hb]

/-! ## Crash safety -/

/-- The RAM is what a fault-free load would make of it. -/
def Consistent (d : Device) : Prop := d.config = (load (some d.flash)).config

/-- The devices reached from a blank flash by fault-free boots and any saves. -/
def Device.Reachable (d : Device) : Prop :=
  ∃ ops : List Op, (∀ op ∈ ops, op.readsAll) ∧ d = Run.exec Device.step Device.blank ops

theorem Consistent.tracks {d : Device} (h : Consistent d) : Tracks d := by
  have := load_tracks d.flash fun _ => false
  rw [Flash.hide_none fun _ => rfl] at this
  unfold Consistent at h
  rw [← h] at this
  exact this

/-- A fault-free load returns the same configuration whatever a failed or interrupted save left
that is not a readable record. -/
theorem load_lost {d : Device} (h : Consistent d) {contents : Option (List UInt8)}
    (hlost : readRecord contents = none) :
    load (some (Slots.put d.flash (Slots.target d.config.activeTag) contents)) = load (some d.flash) := by
  rw [load_pick, load_pick d.flash, readable_put, hlost, h, load_activeTag, Slots.pick_erase_target]

/-- A new record in the tag not in use is what a fault-free load then returns. -/
theorem load_new {d : Device} (h : Consistent d) {save : Save} {during : PersistentConfig}
    (hd : save.config d.config = some during) {contents : Option (List UInt8)}
    (hread : readRecord contents =
      some (encode save.newMapping (during.sequence + 1) during.controllerAddress, save.newMapping)) :
    load (some (Slots.put d.flash (Slots.target d.config.activeTag) contents)) = save.loaded during := by
  cases ht : d.config.activeTag with
  | some tag =>
    rw [← ht]
    exact load_put_active h.tracks ht hd hread
  | none =>
    have hb : readRecord (d.flash .b) = none := by
      rw [h, load_activeTag, Option.map_eq_none_iff] at ht
      exact (Slots.pick_none.1 ht).2
    rw [← ht, load_put_idle h.tracks ht hd hread, hb]

theorem step_consistent (d : Device) (op : Op) (h : Consistent d) (hr : op.readsAll) : Consistent (d.step op) := by
  cases op with
  | boot unread =>
    simp only [Consistent, Device.step, Flash.hide_none hr]
  | save save faults =>
    simp only [Consistent, Device.step]
    cases hok : (save.run d.config d.flash faults).ok with
    | false =>
      obtain ⟨hc, hf⟩ := Save.run_failed hok
      rcases hf with hf | hf <;> rw [hc, hf]
      · exact h
      · rw [load_lost h rfl]
        exact h
    | true =>
      obtain ⟨during, hd, -, hc, contents, hread, hf⟩ := Save.run_ok hok
      rw [hc, hf, load_new h hd hread]

/-- After a save that succeeds a fault-free load returns its mapping. -/
theorem Consistent.saved {d : Device} (h : Consistent d) (save : Save) {faults : StoreFaults}
    (hok : (save.run d.config d.flash faults).ok = true) :
    (load (some (d.step (.save save faults)).flash)).mapping = save.newMapping := by
  obtain ⟨during, hd, -, -, contents, hread, hf⟩ := Save.run_ok hok
  show (load (some (save.run d.config d.flash faults).flash)).mapping = _
  rw [hf, load_new h hd hread]
  rfl

/-- After a save that fails the RAM is as it was, and so is what a fault-free load returns. -/
theorem Consistent.refused {d : Device} (h : Consistent d) (save : Save) {faults : StoreFaults}
    (hok : (save.run d.config d.flash faults).ok = false) :
    (d.step (.save save faults)).config = d.config ∧
      load (some (d.step (.save save faults)).flash) = load (some d.flash) := by
  obtain ⟨hc, hf⟩ := Save.run_failed hok
  refine ⟨hc, ?_⟩
  show load (some (save.run d.config d.flash faults).flash) = _
  rcases hf with hf | hf
  · rw [hf]
  · rw [hf, load_lost h rfl]

/-- Fault-free boots and any saves, failed or not, keep the RAM what a fault-free load would make of
the flash. -/
theorem Consistent.exec {d : Device} (h : Consistent d) {ops : List Op} (hops : ∀ op ∈ ops, op.readsAll) :
    Consistent (Run.exec Device.step d ops) := by
  refine Run.invariant (P := fun _ op => op.readsAll) step_consistent ?_ h
  rw [Run.always_iff_split]
  rintro pre op post rfl
  exact hops op (by simp)

theorem Device.Reachable.consistent {d : Device} (h : d.Reachable) : Consistent d := by
  obtain ⟨ops, hops, rfl⟩ := h
  have hblank : Consistent Device.blank := rfl
  exact hblank.exec hops

/-- The flash after an interruption of a save's `store`: the other tag untouched, the written tag as
it was, absent, with contents the decoder rejects, or with the complete new record. -/
structure Interrupted (save : Save) (d : Device) (during : PersistentConfig) (after : Flash) : Prop where
  other : ∀ tag, tag ≠ Slots.target d.config.activeTag → after tag = d.flash tag
  written : after (Slots.target d.config.activeTag) = d.flash (Slots.target d.config.activeTag) ∨
    after (Slots.target d.config.activeTag) = none ∨
    readRecord (after (Slots.target d.config.activeTag)) = none ∨
    after (Slots.target d.config.activeTag) =
      some (encode save.newMapping (during.sequence + 1) during.controllerAddress).toBytes

/-- Crash safety: after an interrupted save of a valid mapping, and of a valid address when it saves
one, a fault-free load returns exactly what it would have returned before the save, or exactly the
new configuration. -/
theorem crash_safe {d : Device} (hd : d.Reachable) {save : Save} {during : PersistentConfig}
    (hs : save.config d.config = some during) (hv : validateProductionMapping save.newMapping = .valid)
    {after : Flash} (hi : Interrupted save d during after) :
    load (some after) = load (some d.flash) ∨ load (some after) = save.loaded during := by
  have hc := hd.consistent
  rw [Slots.eq_put hi.other]
  rcases hi.written with h | h | h | h
  · left
    rw [h, Slots.put_self]
  · exact .inl (load_lost hc (by rw [h]; rfl))
  · exact .inl (load_lost hc h)
  · exact .inr (load_new hc hs (by rw [h]; exact readRecord_toBytes hv _ _))

/-- A save of the default mapping, and one of a controller's address. -/
def savedTwice : List Op :=
  [.boot fun _ => false, .save (.mapping {}) {}, .save (.address {} (some (formatAddress { b0 := 0xE4, b5 := 3 }))) {}]

/-- A third save, of another mapping, is interrupted with 40 bytes of its record written. -/
def tornFlash : Flash :=
  let d := Run.exec Device.step Device.blank savedTwice
  Slots.put d.flash (Slots.target d.config.activeTag)
    (some ((encode { faceX := .cancel } (d.config.sequence + 1) d.config.controllerAddress).toBytes.take 40))

/-- With a record in each tag. -/
theorem crash_safe_torn :
    (∀ tag, (readRecord ((Run.exec Device.step Device.blank savedTwice).flash tag)).isSome = true) ∧
      (load (some tornFlash) = load (some (Run.exec Device.step Device.blank savedTwice).flash) ∨
        load (some tornFlash) =
          (Save.mapping { faceX := .cancel }).loaded (Run.exec Device.step Device.blank savedTwice).config) := by
  constructor
  · intro tag
    cases tag <;> decide +kernel
  · have hreachable : (Run.exec Device.step Device.blank savedTwice).Reachable := by
      refine ⟨savedTwice, fun op hop => ?_, rfl⟩
      simp only [savedTwice, List.mem_cons, List.not_mem_nil, or_false] at hop
      rcases hop with rfl | rfl | rfl
      · exact fun _ => rfl
      · trivial
      · trivial
    have htorn : Interrupted (.mapping { faceX := .cancel }) (Run.exec Device.step Device.blank savedTwice)
        (Run.exec Device.step Device.blank savedTwice).config tornFlash :=
      ⟨fun _ h => if_neg h, .inr (.inr (.inl (by decide +kernel)))⟩
    exact crash_safe hreachable rfl (by decide) htorn

/-! ## Failed saves -/

/-- The device a fault-free load leaves on a flash with any contents. -/
def Device.booted (flash : Flash) : Device where
  flash := flash
  config := (load (some flash)).config

/-- A failed save is atomic: after a fault-free load of any flash, and any saves and fault-free loads
since, a save that fails for any reason leaves the sequence, the active tag and the address in RAM as
they were, and the next fault-free load returns what it would have returned before the save. -/
theorem failed_save_atomic (flash : Flash) (ops : List Op) (hops : ∀ op ∈ ops, op.readsAll) (save : Save)
    (faults : StoreFaults)
    (hfail : (save.run (Run.exec Device.step (Device.booted flash) ops).config
      (Run.exec Device.step (Device.booted flash) ops).flash faults).ok = false) :
    (save.run (Run.exec Device.step (Device.booted flash) ops).config
        (Run.exec Device.step (Device.booted flash) ops).flash faults).config =
      (Run.exec Device.step (Device.booted flash) ops).config ∧
    load (some (save.run (Run.exec Device.step (Device.booted flash) ops).config
        (Run.exec Device.step (Device.booted flash) ops).flash faults).flash) =
      load (some (Run.exec Device.step (Device.booted flash) ops).flash) := by
  have hc : Consistent (Device.booted flash) := rfl
  exact (hc.exec hops).refused save hfail

/-- The first save ever, of a mapping with a new address, whose read-back reports nothing. -/
theorem failed_save_atomic_first :
    let save : Save := .address {} (some (cstr "00:00:5E:00:53:01"))
    let stored := save.run (Device.booted fun _ => none).config (fun _ => none) { unreadable := true }
    stored.config = (Device.booted fun _ => none).config ∧ load (some stored.flash) = load (some fun _ => none) :=
  failed_save_atomic (fun _ => none) [] (by simp) (.address {} (some (cstr "00:00:5E:00:53:01")))
    { unreadable := true } (by decide +kernel)

/-! ## Durability -/

/-- A fault-free load after the save, and after any number of boots with failing reads in between,
returns the save's mapping and the address and sequence the RAM holds after it. -/
def Save.Durable (save : Save) (stored : Stored) : Prop :=
  ∀ boots : List (Tag → Bool),
    let found := load (some (Run.exec Device.step ⟨stored.flash, stored.config⟩ (boots.map .boot)).flash)
    found.ok = true ∧ found.mapping = save.newMapping ∧
      found.config.addressText = stored.config.addressText ∧
      found.config.sequence = stored.config.sequence

/-- Boots do not write the flash. -/
theorem exec_boots_flash (d : Device) (boots : List (Tag → Bool)) :
    (Run.exec Device.step d (boots.map .boot)).flash = d.flash := by
  induction boots generalizing d with
  | nil => rfl
  | cons unread boots ih => rw [List.map_cons, Run.exec_cons, ih]; rfl

/-- A reported save, from any flash contents and any history of boots and saves with any faults, is
durable exactly when the load before it found a record, or tag B holds no record newer than
sequence 1. -/
theorem save_durable_iff (flash : Flash) (ops : List Op) (save : Save) (faults : StoreFaults)
    (hok : (save.run (Run.exec Device.step ⟨flash, {}⟩ ops).config
      (Run.exec Device.step ⟨flash, {}⟩ ops).flash faults).ok = true) :
    save.Durable (save.run (Run.exec Device.step ⟨flash, {}⟩ ops).config
        (Run.exec Device.step ⟨flash, {}⟩ ops).flash faults) ↔
      ((Run.exec Device.step ⟨flash, {}⟩ ops).config.activeTag ≠ none ∨
        ∀ record, readRecord ((Run.exec Device.step ⟨flash, {}⟩ ops).flash .b) = some record →
          newer record.1.sequence 1 = false) := by
  have ht := exec_tracks flash ops
  revert hok ht
  generalize Run.exec Device.step ⟨flash, {}⟩ ops = d
  intro hok ht
  obtain ⟨during, hd, -, hc, contents, hread, hf⟩ := Save.run_ok hok
  have hdur : save.Durable (save.run d.config d.flash faults) ↔
      (load (some (save.run d.config d.flash faults).flash)).ok = true ∧
      (load (some (save.run d.config d.flash faults).flash)).mapping = save.newMapping ∧
      (load (some (save.run d.config d.flash faults).flash)).config.addressText = during.addressText ∧
      (load (some (save.run d.config d.flash faults).flash)).config.sequence = during.sequence + 1 := by
    simp only [Save.Durable, exec_boots_flash, forall_const, hc, Save.loaded]
  rw [hdur, hf]
  cases hactive : d.config.activeTag with
  | some tag =>
    rw [← hactive, load_put_active ht hactive hd hread]
    simp [Save.loaded, hactive]
  | none =>
    have hone : during.sequence + 1 = 1 := by
      rw [(Save.config_fields hd).1, ht.idle hactive]
      decide
    rw [← hactive, load_put_idle ht hactive hd hread, hactive]
    cases hb : readRecord (d.flash .b) with
    | none => simp [Save.loaded]
    | some b =>
      cases hn : newer b.1.sequence 1 with
      | false => simp [Save.loaded, hn]
      | true =>
        -- the older record wins the load, and its sequence is not the new one
        have hne : b.1.sequence ≠ 1 := by
          intro h
          rw [h, not_newer_self] at hn
          cases hn
        simp [adopt, hone, hne, hn]

/-- Two saves, one whose write is torn and which fails, a boot, and a save behind it. -/
def savedAgain : List Op :=
  savedTwice ++ [.save (.mapping { faceY := .cancel }) { garbled := some (some [0x52]) }, .boot fun _ => false,
    .save (.mapping { faceY := .cancel }) {}]

/-- The next save is durable, with a record in each tag. -/
theorem save_durable_again :
    (∀ tag, (readRecord ((Run.exec Device.step ⟨fun _ => none, {}⟩ savedAgain).flash tag)).isSome = true) ∧
      (Save.mapping { faceX := .cancel }).Durable
        ((Save.mapping { faceX := .cancel }).run (Run.exec Device.step ⟨fun _ => none, {}⟩ savedAgain).config
          (Run.exec Device.step ⟨fun _ => none, {}⟩ savedAgain).flash {}) := by
  constructor
  · intro tag
    cases tag <;> decide +kernel
  · exact (save_durable_iff (fun _ => none) savedAgain (.mapping { faceX := .cancel }) {} (by decide +kernel)).2
      (.inl (by decide +kernel))

/-- Two saves of the default mapping, then a boot that reads neither tag. -/
def unreadBoot : List Op :=
  [.boot fun _ => false, .save (.mapping {}) {}, .save (.mapping {}) {}, .boot fun _ => true]

/-- After a boot that reads neither tag a save is numbered 1 and reported, and the older record in
tag B wins the next load. -/
theorem save_lost :
    ¬ ∀ (flash : Flash) (ops : List Op) (save : Save) (faults : StoreFaults),
      (save.run (Run.exec Device.step ⟨flash, {}⟩ ops).config
        (Run.exec Device.step ⟨flash, {}⟩ ops).flash faults).ok = true →
      save.Durable (save.run (Run.exec Device.step ⟨flash, {}⟩ ops).config
        (Run.exec Device.step ⟨flash, {}⟩ ops).flash faults) := by
  intro h
  have hlost := (h (fun _ => none) unreadBoot (.mapping { faceX := .cancel }) {} (by decide +kernel) []).2.1
  revert hlost
  decide +kernel

end RedMonkeyMpg
