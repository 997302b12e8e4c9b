/-
The 44-byte configuration record: its packed little-endian layout, its CRC-32, and the encoder and
decoder of a mapping with its sequence number and controller address. The encoder's record of a
valid mapping decodes to that mapping, through its bytes.
-/
import RedMonkeyMpg.Core.Production
import RedMonkeyMpg.Store.Address

namespace RedMonkeyMpg

def kMagic : UInt32 := 0x4f4d5047
def kSchema : UInt16 := 1

structure Record where
  magic : UInt32 := 0
  schema : UInt16 := 0
  size : UInt16 := 0
  sequence : UInt32 := 0
  deadmanMask : UInt32 := 0
  continuousMask : UInt32 := 0
  precisionMask : UInt32 := 0
  resolutionMask : UInt32 := 0
  faceA : UInt8 := 0
  faceB : UInt8 := 0
  faceX : UInt8 := 0
  faceY : UInt8 := 0
  controllerAddress : BdAddr := {}
  controllerValid : UInt8 := 0
  cncProfile : UInt8 := 0
  crc : UInt32 := 0
  deriving DecidableEq

/-- `sizeof(Record)`, the packed layout. -/
def kRecordSize : Nat := 44

/-! ## Layout -/

def le16 (v : UInt16) : List UInt8 := [v.toUInt8, UInt8.ofNat (v.toNat / 256)]

def le32 (v : UInt32) : List UInt8 :=
  [v.toUInt8, UInt8.ofNat (v.toNat / 256), UInt8.ofNat (v.toNat / 65536),
    UInt8.ofNat (v.toNat / 16777216)]

def word16 (b0 b1 : UInt8) : UInt16 := UInt16.ofNat (b0.toNat + 256 * b1.toNat)

def word32 (b0 b1 b2 b3 : UInt8) : UInt32 :=
  UInt32.ofNat (b0.toNat + 256 * b1.toNat + 65536 * b2.toNat + 16777216 * b3.toNat)

/-- Everything before the CRC. -/
def Record.body (r : Record) : List UInt8 :=
  le32 r.magic ++ le16 r.schema ++ le16 r.size ++ le32 r.sequence ++ le32 r.deadmanMask ++
    le32 r.continuousMask ++ le32 r.precisionMask ++ le32 r.resolutionMask ++
    [r.faceA, r.faceB, r.faceX, r.faceY] ++ r.controllerAddress.bytes ++
    [r.controllerValid, r.cncProfile]

def Record.toBytes (r : Record) : List UInt8 := r.body ++ le32 r.crc

/-- The record at the front of a buffer of 44 bytes. -/
def Record.ofBytes (bytes : List UInt8) : Record :=
  let byteAt (i : Nat) := bytes.getD i 0
  let word (i : Nat) := word32 (byteAt i) (byteAt (i + 1)) (byteAt (i + 2)) (byteAt (i + 3))
  { magic := word 0
    schema := word16 (byteAt 4) (byteAt 5)
    size := word16 (byteAt 6) (byteAt 7)
    sequence := word 8
    deadmanMask := word 12
    continuousMask := word 16
    precisionMask := word 20
    resolutionMask := word 24
    faceA := byteAt 28
    faceB := byteAt 29
    faceX := byteAt 30
    faceY := byteAt 31
    controllerAddress := ⟨byteAt 32, byteAt 33, byteAt 34, byteAt 35, byteAt 36, byteAt 37⟩
    controllerValid := byteAt 38
    cncProfile := byteAt 39
    crc := word 40 }

@[simp] theorem Record.toBytes_length (r : Record) : r.toBytes.length = kRecordSize := rfl

theorem word16_le16 (v : UInt16) : word16 v.toUInt8 (UInt8.ofNat (v.toNat / 256)) = v := by
  have hv := v.toNat_lt
  apply UInt16.toNat_inj.1
  simp only [word16, UInt16.toNat_toUInt8, UInt8.toNat_ofNat', UInt16.toNat_ofNat']
  omega

theorem word32_le32 (v : UInt32) :
    word32 v.toUInt8 (UInt8.ofNat (v.toNat / 256)) (UInt8.ofNat (v.toNat / 65536))
      (UInt8.ofNat (v.toNat / 16777216)) = v := by
  have hv := v.toNat_lt
  apply UInt32.toNat_inj.1
  simp only [word32, UInt32.toNat_toUInt8, UInt8.toNat_ofNat', UInt32.toNat_ofNat']
  omega

/-- A record reads back from its bytes. -/
theorem Record.ofBytes_toBytes (r : Record) : Record.ofBytes r.toBytes = r := by
  simp [Record.ofBytes, Record.toBytes, Record.body, le16, le32, BdAddr.bytes, word16_le16, word32_le32]

/-! ## CRC-32 -/

/-- One bit of the reflected CRC-32. -/
def crc32Bit (crc : UInt32) : UInt32 := (crc >>> 1) ^^^ (0xedb88320 &&& (0 - (crc &&& 1)))

/-- One byte: the exclusive or, then eight bits. -/
def crc32Byte (crc : UInt32) (byte : UInt8) : UInt32 := crc32Bit^[8] (crc ^^^ byte.toUInt32)

def crc32 (data : List UInt8) : UInt32 := ~~~(data.foldl crc32Byte 0xffffffff)

/-! ## Encoding and decoding -/

def encode (mapping : ProductionMapping) (sequence : UInt32) (address : Option CStr) : Record :=
  let record : Record :=
    { magic := kMagic
      schema := kSchema
      size := UInt16.ofNat kRecordSize
      sequence := sequence
      deadmanMask := mapping.deadmanMask
      continuousMask := mapping.continuousMask
      precisionMask := mapping.precisionMask
      resolutionMask := mapping.resolutionMask
      faceA := mapping.faceA.toUInt8
      faceB := mapping.faceB.toUInt8
      faceX := mapping.faceX.toUInt8
      faceY := mapping.faceY.toUInt8
      cncProfile := mapping.cncProfile.toUInt8
      controllerAddress := scannedBytes address
      controllerValid := if (parseAddress address).isSome then 1 else 0 }
  { record with crc := crc32 record.body }

/-- The mapping in a record, unchecked. -/
def Record.mapping (record : Record) : ProductionMapping where
  cncProfile := .ofUInt8 record.cncProfile
  deadmanMask := record.deadmanMask
  continuousMask := record.continuousMask
  precisionMask := record.precisionMask
  resolutionMask := record.resolutionMask
  faceA := .ofUInt8 record.faceA
  faceB := .ofUInt8 record.faceB
  faceX := .ofUInt8 record.faceX
  faceY := .ofUInt8 record.faceY

def decode (record : Record) : Option ProductionMapping :=
  if record.magic ≠ kMagic ∨ record.schema ≠ kSchema ∨ record.size ≠ UInt16.ofNat kRecordSize ∨
      record.controllerValid > 1 ∨
      (record.controllerValid ≠ 0 ∧ addressBytesValid record.controllerAddress = false) ∨
      record.crc ≠ crc32 record.body then none
  else if validateProductionMapping record.mapping ≠ .valid then none
  else some record.mapping

@[simp] theorem encode_sequence (m : ProductionMapping) (sequence : UInt32) (address : Option CStr) :
    (encode m sequence address).sequence = sequence := rfl

@[simp] theorem encode_mapping (m : ProductionMapping) (sequence : UInt32) (address : Option CStr) :
    (encode m sequence address).mapping = m := by
  simp [encode, Record.mapping]

theorem encode_address {address : Option CStr} {a : BdAddr} (h : parseAddress address = some a) :
    scannedBytes address = a ∧ addressBytesValid a = true := by
  refine ⟨?_, parseAddress_valid h⟩
  unfold parseAddress at h
  rw [Option.filter_eq_some_iff] at h
  simp [scannedBytes, h.1]

/-- The encoder's record of a valid mapping decodes to that mapping. -/
theorem decode_encode {m : ProductionMapping} (hm : validateProductionMapping m = .valid)
    (sequence : UInt32) (address : Option CStr) : decode (encode m sequence address) = some m := by
  have hcheck : ¬ ((encode m sequence address).magic ≠ kMagic ∨ (encode m sequence address).schema ≠ kSchema ∨
      (encode m sequence address).size ≠ UInt16.ofNat kRecordSize ∨
      (encode m sequence address).controllerValid > 1 ∨
      ((encode m sequence address).controllerValid ≠ 0 ∧
        addressBytesValid (encode m sequence address).controllerAddress = false) ∨
      (encode m sequence address).crc ≠ crc32 (encode m sequence address).body) := by
    simp only [encode, ne_eq, not_true_eq_false, false_or, Record.body, or_false, not_or]
    cases hp : parseAddress address with
    | none => simp
    | some a =>
      obtain ⟨hb, hv⟩ := encode_address hp
      simp [hb, hv]
  unfold decode
  rw [if_neg hcheck, encode_mapping, if_neg (by simp [hm])]

theorem decode_valid {record : Record} {m : ProductionMapping} (h : decode record = some m) :
    validateProductionMapping m = .valid ∧
      (record.controllerValid ≠ 0 → addressBytesValid record.controllerAddress = true) := by
  unfold decode at h
  split_ifs at h with h1 h2
  cases h
  refine ⟨by simpa using h2, fun hv => ?_⟩
  by_contra ha
  exact h1 (.inr (.inr (.inr (.inr (.inl ⟨hv, by simpa using ha⟩)))))

end RedMonkeyMpg
