/-
The persistent configuration: two flash tags written in turn, the load that picks the newer
readable record, and the store that writes the other tag, reads it back and deletes it when the
read-back differs. Flash faults are inputs: which reads report nothing, which write is refused,
what a bad write leaves behind.
-/
import RedMonkeyMpg.Lib.Slots
import RedMonkeyMpg.Store.Record

namespace RedMonkeyMpg

/-- The two TLV tags: `kTagA` and `kTagB`. -/
abbrev Tag := Slots.Side

/-- The contents of each tag. The same type says what one call reads of them. -/
abbrev Flash := Tag → Option (List UInt8)

/-- `controller_address_` is empty when no controller is bonded, `active_tag_` zero when no record
was loaded. -/
structure PersistentConfig where
  sequence : UInt32 := 0
  activeTag : Option Tag := none
  addressText : CStr := []
  deriving DecidableEq

namespace PersistentConfig

/-- `controller_address()`. -/
def controllerAddress (config : PersistentConfig) : Option CStr :=
  if config.addressText = [] then none else some config.addressText

end PersistentConfig

/-- `static_cast<std::int32_t>(left - right) > 0`. -/
def newer (left right : UInt32) : Bool := (left - right).toInt32 > 0

def readRecord : Option (List UInt8) → Option (Record × ProductionMapping)
  | none => none
  | some bytes =>
    if bytes.length = kRecordSize then (decode (Record.ofBytes bytes)).map (Record.ofBytes bytes, ·)
    else none

/-! ## Load -/

structure Loaded where
  ok : Bool := false
  mapping : ProductionMapping := {}
  config : PersistentConfig := {}
  deriving DecidableEq

/-- What a load takes from the record it picked. -/
def adopt (tag : Tag) (record : Record × ProductionMapping) : Loaded where
  ok := true
  mapping := record.2
  config :=
    { sequence := record.1.sequence
      activeTag := some tag
      addressText := if record.1.controllerValid ≠ 0 then formatAddress record.1.controllerAddress else [] }

/-- `PersistentConfig::load`; `none` when there is no TLV instance. -/
def load : Option Flash → Loaded
  | none => {}
  | some reads =>
    match readRecord (reads .a), readRecord (reads .b) with
    | none, none => {}
    | some a, none => adopt .a a
    | none, some b => adopt .b b
    -- of two sequences that are equal or 2^31 apart neither is newer, and tag A is taken
    | some a, some b => if newer b.1.sequence a.1.sequence then adopt .b b else adopt .a a

/-! ## Store -/

/-- The faults of one store. A refused write leaves its tag unchanged; a write reported as done
may leave `garbled` contents instead of the record; the read-back may report nothing. -/
structure StoreFaults where
  noTlv : Bool := false
  refused : Bool := false
  garbled : Option (Option (List UInt8)) := none
  unreadable : Bool := false

structure Stored where
  ok : Bool
  config : PersistentConfig
  flash : Flash

/-- `PersistentConfig::store`. -/
def PersistentConfig.store (config : PersistentConfig) (flash : Flash) (faults : StoreFaults)
    (mapping : ProductionMapping) : Stored :=
  if validateProductionMapping mapping ≠ .valid then ⟨false, config, flash⟩
  else if faults.noTlv then ⟨false, config, flash⟩
  else
    let target := Slots.target config.activeTag
    let record := encode mapping (config.sequence + 1) config.controllerAddress
    -- returns before the delete below, so the old contents of the tag stay
    if faults.refused then ⟨false, config, flash⟩
    else
      let written := Slots.put flash target (faults.garbled.getD (some record.toBytes))
      let verify := if faults.unreadable then none else readRecord (written target)
      if verify.map Prod.fst = some record then
        ⟨true, { config with sequence := record.sequence, activeTag := some target }, written⟩
      else
        -- A candidate record is not left behind after a reported failure.
        ⟨false, config, Slots.put written target none⟩

/-- `PersistentConfig::store_controller_address`. -/
def PersistentConfig.storeControllerAddress (config : PersistentConfig) (flash : Flash)
    (faults : StoreFaults) (mapping : ProductionMapping) (address : Option CStr) : Stored :=
  match parseAddress address with
  | none => ⟨false, config, flash⟩
  | some parsed =>
    -- the RAM holds the new address while the record is written, and the old one again after a failure
    let stored := { config with addressText := formatAddress parsed }.store flash faults mapping
    if stored.ok then stored
    else { stored with config := { stored.config with addressText := config.addressText } }

/-! ## The load as a pick of two slots -/

def recordNewer (x y : Record × ProductionMapping) : Bool := newer x.1.sequence y.1.sequence

def readable (reads : Flash) : Tag → Option (Record × ProductionMapping) := fun tag => readRecord (reads tag)

/-- A load takes the newer of the two readable records. -/
theorem load_pick (reads : Flash) :
    load (some reads) =
      match Slots.pick recordNewer (readable reads) with
      | none => {}
      | some (tag, record) => adopt tag record := by
  simp only [load, Slots.pick, readable]
  cases readRecord (reads .a) with
  | none => cases readRecord (reads .b) <;> rfl
  | some a =>
    cases readRecord (reads .b) with
    | none => rfl
    | some b =>
      cases hn : newer b.1.sequence a.1.sequence <;> simp [recordNewer, hn]

theorem load_of_pick {reads : Flash} {tag : Tag} {record : Record × ProductionMapping}
    (h : Slots.pick recordNewer (readable reads) = some (tag, record)) :
    load (some reads) = adopt tag record := by
  rw [load_pick, h]

/-- The tag a load leaves active is the one it picked. -/
theorem load_activeTag (reads : Flash) :
    (load (some reads)).config.activeTag = (Slots.pick recordNewer (readable reads)).map Prod.fst := by
  rw [load_pick]
  cases Slots.pick recordNewer (readable reads) with
  | none => rfl
  | some p => rfl

theorem readable_put (flash : Flash) (tag : Tag) (contents : Option (List UInt8)) :
    readable (Slots.put flash tag contents) = Slots.put (readable flash) tag (readRecord contents) := by
  funext t
  unfold readable Slots.put
  split <;> rfl

theorem readRecord_toBytes {m : ProductionMapping} (hm : validateProductionMapping m = .valid)
    (sequence : UInt32) (address : Option CStr) :
    readRecord (some (encode m sequence address).toBytes) = some (encode m sequence address, m) := by
  simp [readRecord, Record.ofBytes_toBytes, decode_encode hm]

theorem readRecord_decode {contents : Option (List UInt8)} {record : Record} {m : ProductionMapping}
    (h : readRecord contents = some (record, m)) : decode record = some m := by
  cases contents with
  | none => cases h
  | some bytes =>
    simp only [readRecord] at h
    split_ifs at h
    simp only [Option.map_eq_some_iff, Prod.mk.injEq] at h
    obtain ⟨m', hd, rfl, rfl⟩ := h
    exact hd

/-! ## Sequence numbers -/

theorem newer_succ (n : UInt32) : newer (n + 1) n = true := by
  have h : n + 1 - n = 1 := by grind
  simp only [newer, h]
  decide

theorem not_newer_succ (n : UInt32) : newer n (n + 1) = false := by
  have h : n - (n + 1) = 0xffffffff := by grind
  simp only [newer, h]
  decide

theorem not_newer_self (n : UInt32) : newer n n = false := by
  simp only [newer, UInt32.sub_self]
  decide

/-! ## What a store does -/

/-- A text held in RAM is empty or prints a valid address. -/
def TextOk (text : CStr) : Prop := text = [] ∨ ∃ a, addressBytesValid a = true ∧ text = formatAddress a

/-- The configuration of a record encoded from RAM is the RAM's own. -/
theorem adopt_encode {config : PersistentConfig} (h : TextOk config.addressText) (tag : Tag)
    (m : ProductionMapping) (sequence : UInt32) :
    adopt tag (encode m sequence config.controllerAddress, m) =
      { ok := true, mapping := m,
        config := { sequence := sequence, activeTag := some tag, addressText := config.addressText } } := by
  rcases h with h | ⟨a, ha, h⟩
  · simp [adopt, encode, PersistentConfig.controllerAddress, h, parseAddress]
  · simp [adopt, encode, PersistentConfig.controllerAddress, h, formatAddress_ne_nil,
      parseAddress_formatAddress ha, scannedBytes_formatAddress]

theorem adopt_textOk {tag : Tag} {record : Record × ProductionMapping} (h : decode record.1 = some record.2) :
    TextOk (adopt tag record).config.addressText := by
  unfold adopt
  dsimp only
  split
  · rename_i hv
    exact .inr ⟨_, (decode_valid h).2 hv, rfl⟩
  · exact .inl rfl

theorem load_textOk (reads : Option Flash) : TextOk (load reads).config.addressText := by
  cases reads with
  | none => exact .inl rfl
  | some reads =>
    rw [load_pick]
    cases h : Slots.pick recordNewer (readable reads) with
    | none => exact .inl rfl
    | some p => exact adopt_textOk (readRecord_decode (Slots.pick_some h))

/-- A loaded mapping passes its own check. -/
theorem load_valid (reads : Option Flash) : validateProductionMapping (load reads).mapping = .valid := by
  cases reads with
  | none => exact default_valid
  | some reads =>
    rw [load_pick]
    cases hp : Slots.pick recordNewer (readable reads) with
    | none => exact default_valid
    | some picked => exact (decode_valid (readRecord_decode (Slots.pick_some hp))).1

/-- Everything a store can do: fail with the configuration as it was, and the tag it would write
as it was or deleted; or succeed with the new record in that tag. -/
theorem store_cases (config : PersistentConfig) (flash : Flash) (faults : StoreFaults) (m : ProductionMapping) :
    ((config.store flash faults m).ok = false ∧ (config.store flash faults m).config = config ∧
      ((config.store flash faults m).flash = flash ∨
        (config.store flash faults m).flash = Slots.put flash (Slots.target config.activeTag) none)) ∨
    ((config.store flash faults m).ok = true ∧ validateProductionMapping m = .valid ∧
      (config.store flash faults m).config =
        { config with sequence := config.sequence + 1, activeTag := some (Slots.target config.activeTag) } ∧
      ∃ contents, readRecord contents = some (encode m (config.sequence + 1) config.controllerAddress, m) ∧
        (config.store flash faults m).flash = Slots.put flash (Slots.target config.activeTag) contents) := by
  unfold PersistentConfig.store
  dsimp only
  split_ifs with hv ht hr hu hm hm
  · exact .inl ⟨rfl, rfl, .inl rfl⟩
  · exact .inl ⟨rfl, rfl, .inl rfl⟩
  · exact .inl ⟨rfl, rfl, .inl rfl⟩
  · cases hm
  · exact .inl ⟨rfl, rfl, .inr (Slots.put_put ..)⟩
  · rw [Slots.put_same] at hm
    obtain ⟨⟨record, m'⟩, hread, rfl⟩ := Option.map_eq_some_iff.1 hm
    have hvalid : validateProductionMapping m = .valid := by simpa using hv
    have hm' : m' = m := by
      have := readRecord_decode hread
      rw [decode_encode hvalid] at this
      exact (Option.some.inj this).symm
    exact .inr ⟨rfl, hvalid, rfl, _, by rw [hread, hm'], rfl⟩
  · exact .inl ⟨rfl, rfl, .inr (Slots.put_put ..)⟩

end RedMonkeyMpg
