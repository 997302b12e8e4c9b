/-
Records as 44-byte images. A record and its image are the same thing, a load takes back what was
encoded, and an image that is accepted is the encoding of what is read from it, byte for byte, unless
it holds an address that it marks as absent.
-/
import RedMonkeyMpg.Store.Config

namespace RedMonkeyMpg

/-! ## Words and bytes -/

theorem le16_word16 (b0 b1 : UInt8) : le16 (word16 b0 b1) = [b0, b1] := by
  have h0 := b0.toNat_lt
  have h1 := b1.toNat_lt
  have hv : (word16 b0 b1).toNat = b0.toNat + 256 * b1.toNat := by
    simp only [word16, UInt16.toNat_ofNat']
    omega
  simp only [le16, hv, List.cons.injEq, and_true]
  constructor
  · apply UInt8.toNat_inj.1
    rw [UInt16.toNat_toUInt8, hv]
    omega
  · apply UInt8.toNat_inj.1
    rw [UInt8.toNat_ofNat']
    omega

theorem le32_word32 (b0 b1 b2 b3 : UInt8) : le32 (word32 b0 b1 b2 b3) = [b0, b1, b2, b3] := by
  have h0 := b0.toNat_lt
  have h1 := b1.toNat_lt
  have h2 := b2.toNat_lt
  have h3 := b3.toNat_lt
  have hv : (word32 b0 b1 b2 b3).toNat =
      b0.toNat + 256 * b1.toNat + 65536 * b2.toNat + 16777216 * b3.toNat := by
    simp only [word32, UInt32.toNat_ofNat']
    omega
  simp only [le32, hv, List.cons.injEq, and_true]
  refine ⟨?_, ?_, ?_, ?_⟩
  · apply UInt8.toNat_inj.1
    rw [UInt32.toNat_toUInt8, hv]
    omega
  all_goals
    apply UInt8.toNat_inj.1
    rw [UInt8.toNat_ofNat']
    omega

/-- A list is its first `n` entries when it is as long. -/
theorem range_map_getD {n : ℕ} {bytes : List UInt8} (h : bytes.length = n) :
    (List.range n).map (bytes.getD · 0) = bytes := by
  refine List.ext_getElem (by simp [h]) fun i hi hi' => ?_
  simp [hi']

/-- Every image is that of the record read from it. -/
theorem Record.toBytes_ofBytes {bytes : List UInt8} (h : bytes.length = kRecordSize) :
    (Record.ofBytes bytes).toBytes = bytes := by
  refine Eq.trans ?_ (range_map_getD h)
  simp only [Record.toBytes, Record.body, Record.ofBytes, le32_word32, le16_word16, BdAddr.bytes]
  rfl

@[simp] theorem ButtonAction.toUInt8_ofUInt8 (raw : UInt8) : (ButtonAction.ofUInt8 raw).toUInt8 = raw := by
  obtain ⟨raw⟩ := raw
  revert raw
  decide +kernel

/-! ## Round trips -/

/-- The text a load makes of a record's address. -/
def Record.addressText (record : Record) : Option CStr :=
  if record.controllerValid ≠ 0 then some (formatAddress record.controllerAddress) else none

theorem adopt_controllerAddress (tag : Tag) (record : Record) (m : ProductionMapping) :
    (adopt tag (record, m)).config.controllerAddress = record.addressText := by
  by_cases h : record.controllerValid = 0
  · simp [adopt, PersistentConfig.controllerAddress, Record.addressText, h]
  · simp [adopt, PersistentConfig.controllerAddress, Record.addressText, h, formatAddress_ne_nil]

/-- The address text of an encoded record reads as the address it was encoded from. -/
theorem parseAddress_addressText (m : ProductionMapping) (sequence : UInt32) (text : Option CStr) :
    parseAddress (encode m sequence text).addressText = parseAddress text := by
  cases hp : parseAddress text with
  | none =>
    have habsent : (encode m sequence text).controllerValid = 0 := by simp [encode, hp]
    rw [Record.addressText, if_neg (not_not.2 habsent)]
    rfl
  | some a =>
    obtain ⟨hb, hv⟩ := encode_address hp
    simp [Record.addressText, encode, hp, hb, parseAddress_formatAddress hv]

/-- What an accepted record holds besides its mapping. -/
theorem decode_some {record : Record} {m : ProductionMapping} (h : decode record = some m) :
    (record.magic = kMagic ∧ record.schema = kSchema ∧ record.size = UInt16.ofNat kRecordSize) ∧
      (record.controllerValid = 0 ∨
        record.controllerValid = 1 ∧ addressBytesValid record.controllerAddress = true) ∧
      record.crc = crc32 record.body ∧ record.mapping = m := by
  unfold decode at h
  split_ifs at h with hcheck hvalid
  simp only [not_or, not_not, not_and, Bool.not_eq_false] at hcheck
  obtain ⟨hmagic, hschema, hsize, hflag, haddress, hcrc⟩ := hcheck
  refine ⟨⟨hmagic, hschema, hsize⟩, ?_, hcrc, Option.some.inj h⟩
  by_cases h0 : record.controllerValid = 0
  · exact .inl h0
  · refine .inr ⟨?_, haddress h0⟩
    have hne : record.controllerValid.toNat ≠ 0 := fun hz => h0 (UInt8.toNat_inj.1 hz)
    have hle : record.controllerValid.toNat ≤ 1 := by
      rw [gt_iff_lt, UInt8.lt_iff_toNat_lt] at hflag
      exact Nat.le_of_not_lt hflag
    apply UInt8.toNat_inj.1
    show record.controllerValid.toNat = 1
    omega

/-- An accepted record without an address that it marks as absent is the encoding of what is read from
it. -/
theorem encode_decode {record : Record} {m : ProductionMapping} (h : decode record = some m)
    (habsent : record.controllerValid = 0 → record.controllerAddress = {}) :
    encode m record.sequence record.addressText = record := by
  obtain ⟨⟨hmagic, hschema, hsize⟩, haddress, hcrc, hm⟩ := decode_some h
  have hbytes : scannedBytes record.addressText = record.controllerAddress ∧
      (if (parseAddress record.addressText).isSome then 1 else 0) = record.controllerValid := by
    rcases haddress with h0 | ⟨h1, hv⟩
    · simp [Record.addressText, h0, habsent h0, scannedBytes, parseAddress]
    · simp [Record.addressText, h1, scannedBytes_formatAddress, parseAddress_formatAddress hv]
  have hencode : encode m record.sequence record.addressText = { record with crc := crc32 record.body } := by
    unfold encode
    rw [hbytes.1, hbytes.2, ← hm]
    simp only [Record.mapping, ButtonAction.toUInt8_ofUInt8, CncControllerProfileId.toUInt8_ofUInt8, ← hmagic,
      ← hschema, ← hsize]
    rfl
  rw [hencode, ← hcrc]

/-- A load from the one tag that holds a record. -/
theorem load_put {contents : Option (List UInt8)} {record : Record} {m : ProductionMapping} (tag : Tag)
    (h : readRecord contents = some (record, m)) :
    load (some (Slots.put (fun _ => none) tag contents)) = adopt tag (record, m) := by
  apply load_of_pick
  rw [readable_put, h]
  cases tag <;> rfl

/-- For every valid mapping, sequence number and address text: the image that is encoded is accepted, a
load takes the mapping and the sequence back, and the address text it makes reads as the same address.
Every valid address is the reading of a text. An image that is accepted, with no address that it marks
as absent, is the image encoded of the mapping, the sequence and the address text read from it. -/
theorem record_round_trip :
    (∀ (m : ProductionMapping) (sequence : UInt32) (text : Option CStr) (tag : Tag),
      validateProductionMapping m = .valid →
        let image := (encode m sequence text).toBytes
        let loaded := load (some (Slots.put (fun _ => none) tag (some image)))
        image.length = kRecordSize ∧ decode (Record.ofBytes image) = some m ∧
          loaded.ok = true ∧ loaded.mapping = m ∧ loaded.config.sequence = sequence ∧
          parseAddress loaded.config.controllerAddress = parseAddress text) ∧
    (∀ a, addressBytesValid a = true → parseAddress (some (formatAddress a)) = some a) ∧
    ∀ (image : List UInt8) (m : ProductionMapping), image.length = kRecordSize →
      decode (Record.ofBytes image) = some m →
      ((Record.ofBytes image).controllerValid = 0 → (Record.ofBytes image).controllerAddress = {}) →
        (encode m (Record.ofBytes image).sequence (Record.ofBytes image).addressText).toBytes = image := by
  refine ⟨fun m sequence text tag hm => ?_, fun a => parseAddress_formatAddress, fun image m hlen hm habsent => ?_⟩
  · dsimp only
    rw [load_put tag (readRecord_toBytes hm sequence text), adopt_controllerAddress, Record.ofBytes_toBytes]
    exact ⟨rfl, decode_encode hm sequence text, rfl, rfl, rfl, parseAddress_addressText m sequence text⟩
  · rw [encode_decode hm habsent, Record.toBytes_ofBytes hlen]

end RedMonkeyMpg
