import GoeipProofs.Cpf

/-!
The discovery replies (`pkg/eip/discovery.go`): `ListIdentity` and `ListServices` answer with
an item count and `{type, length, data}` items, the layout of the CPF. The decoders read the
fields of the items they know straight from the stream, so the length a known item declares is
never consulted; only unknown identity items are skipped by their length. Against them
stands the reading of each record from its own bytes (`servicesOfRecord`, `identityItems`):
the decoders agree with it on every list whose known records are exactly as long as their
fields, and read one record's bytes into the next as soon as one is longer.
-/

namespace GoeipProofs.Discovery

open GoeipProofs.Wire GoeipProofs.Cpf

/-- `ListIdentityItem`; the `[16]byte` socket address, the `[2]byte` revision and the
product name are kept as bytes. -/
structure ListIdentityItem where
  typeID : UInt16
  length : UInt16
  encapsVersion : UInt16
  socketAddr : Bytes
  vendorID : UInt16
  deviceType : UInt16
  productCode : UInt16
  revision : Bytes
  status : UInt16
  serialNumber : UInt32
  productName : Bytes
  state : UInt8
  deriving DecidableEq, Repr

/-- `ListServicesItem`; the name is kept as bytes. -/
structure ListServicesItem where
  typeID : UInt16
  length : UInt16
  version : UInt16
  capabilityFlags : UInt16
  name : Bytes
  deriving DecidableEq, Repr

/-- `bytes.TrimRight(b, "\x00")`: the bytes without their trailing zeros. -/
def trimRightZeros (b : Bytes) : Bytes := (b.reverse.dropWhile (· == 0)).reverse

/-- `DecodeListServicesItem` on the unread bytes `r`: four `uint16`s and a 16-byte name,
whatever the item's length field says. -/
def decodeListServicesItem (r : Bytes) : Except GoError (ListServicesItem × Bytes) := do
  let (typeID, r) ← readUint16 r
  let (length, r) ← readUint16 r
  let (version, r) ← readUint16 r
  let (capabilityFlags, r) ← readUint16 r
  let (nameBytes, r) ← readFull 16 r
  pure (⟨typeID, length, version, capabilityFlags, trimRightZeros nameBytes⟩, r)

/-- The item loop of `DecodeListIdentityResponse`: an identity item (type `0x0C`) is read
field by field, any other item skipped by its length. -/
def decodeIdentityItems : Nat → Bytes → Except GoError (List ListIdentityItem)
  | 0, _ => .ok []
  | count + 1, r => do
      let (typeID, r) ← readUint16 r
      let (length, r) ← readUint16 r
      if typeID = 0x0C then
        let (encapsVersion, r) ← readUint16 r
        let (socketAddr, r) ← readFull 16 r
        let (vendorID, r) ← readUint16 r
        let (deviceType, r) ← readUint16 r
        let (productCode, r) ← readUint16 r
        let (revision, r) ← readFull 2 r
        let (status, r) ← readUint16 r
        let (serialNumber, r) ← readUint32 r
        let (nameLen, r) ← readUint8 r
        let (nameBytes, r) ← readPayload nameLen.toNat r
        let (state, r) ← readUint8 r
        let items ← decodeIdentityItems count r
        pure (⟨typeID, length, encapsVersion, socketAddr, vendorID, deviceType, productCode,
          revision, status, serialNumber, nameBytes, state⟩ :: items)
      else
        let (_, r) ← readPayload length.toNat r
        decodeIdentityItems count r

/-- `DecodeListIdentityResponse` -/
def decodeListIdentityResponse (data : Bytes) : Except GoError (List ListIdentityItem) := do
  let (count, r) ← readUint16 data
  decodeIdentityItems count.toNat r

/-- The item loop of `DecodeListServicesResponse`. -/
def decodeServicesItems : Nat → Bytes → Except GoError (List ListServicesItem)
  | 0, _ => .ok []
  | count + 1, r => do
      let (item, r) ← decodeListServicesItem r
      let items ← decodeServicesItems count r
      pure (item :: items)

/-- `DecodeListServicesResponse` -/
def decodeListServicesResponse (data : Bytes) : Except GoError (List ListServicesItem) := do
  let (count, r) ← readUint16 data
  decodeServicesItems count.toNat r

/-- The services item a record holds, decoded from its own data only. -/
def servicesOfRecord (item : CPFItem) : ListServicesItem :=
  ⟨item.typeID, item.length, uint16 item.data, uint16 (item.data.drop 2),
    trimRightZeros ((item.data.drop 4).take 16)⟩

/-- `DecodeListServicesItem` reads twenty bytes after the header, whatever length it
declares. -/
theorem decodeListServicesItem_append (typeID length : UInt16) {data : Bytes}
    (h : 20 ≤ data.length) (tail : Bytes) :
    decodeListServicesItem (putUint16 typeID ++ putUint16 length ++ data ++ tail) =
      .ok (servicesOfRecord ⟨typeID, length, data⟩, data.drop 20 ++ tail) := by
  simp (disch := first | omega | (simp only [List.length_drop]; omega)) only
    [decodeListServicesItem, List.append_assoc, readUint16_putUint16_append, ok_bind,
    readUint16_append_of_le, readFull_append_of_le, List.drop_drop]
  rfl

theorem decodeServicesItems_records (items : List CPFItem) (rest : Bytes)
    (hItem : ∀ item ∈ items, item.Sized ∧ item.data.length = 20) :
    decodeServicesItems items.length (items.flatMap CPFItem.encode ++ rest) =
      .ok (items.map servicesOfRecord) := by
  induction items with
  | nil => rfl
  | cons item items ih =>
      obtain ⟨hs, h20⟩ := hItem item (List.mem_cons_self _ _)
      rw [List.flatMap_cons, List.length_cons, CPFItem.encode_of_sized hs, List.append_assoc]
      simp only [decodeServicesItems, decodeListServicesItem_append _ _ h20.ge, ok_bind,
        List.drop_eq_nil_of_le h20.le, List.nil_append,
        ih fun i hi => hItem i (List.mem_cons_of_mem _ hi)]
      rfl

/-- The bytes the identity fields take: 34, and the product name's length, read at
offset 32. -/
def identityFieldsLength (data : Bytes) : Nat := 34 + ((data.drop 32).headD 0).toNat

/-- The identity item a record holds, decoded from its own data only. -/
def identityOfRecord (item : CPFItem) : ListIdentityItem :=
  let d := item.data
  let nameLen := ((d.drop 32).headD 0).toNat
  ⟨item.typeID, item.length, uint16 d, (d.drop 2).take 16, uint16 (d.drop 18),
    uint16 (d.drop 20), uint16 (d.drop 22), (d.drop 24).take 2, uint16 (d.drop 26),
    uint32 (d.drop 28), (d.drop 33).take nameLen, (d.drop (33 + nameLen)).headD 0⟩

/-- The identity items of a list of records: one per record of type `0x0C`, in order. -/
def identityItems (items : List CPFItem) : List ListIdentityItem :=
  (items.filter (·.typeID == 0x0C)).map identityOfRecord

/-- An identity record is read field by field and leaves the stream after its fields,
whatever length it declares. -/
theorem decodeIdentityItems_identity_append (length : UInt16) {data : Bytes}
    (h : identityFieldsLength data ≤ data.length) (count : Nat) (tail : Bytes) :
    decodeIdentityItems (count + 1) (putUint16 0x0C ++ putUint16 length ++ data ++ tail) =
      (decodeIdentityItems count (data.drop (identityFieldsLength data) ++ tail)).map
        (identityOfRecord ⟨0x0C, length, data⟩ :: ·) := by
  unfold identityFieldsLength at h ⊢
  simp (disch := first | omega | (simp only [List.length_drop]; omega)) only
    [decodeIdentityItems, List.append_assoc, readUint16_putUint16_append, ok_bind, ↓reduceIte,
    readUint16_append_of_le, readUint32_append_of_le, readUint8_append_of_le,
    readFull_append_of_le, readPayload_append_of_le, List.drop_drop, Nat.reduceAdd]
  rw [show ∀ n, 33 + n + 1 = 34 + n from fun n => by omega]
  cases decodeIdentityItems count _ <;> rfl

theorem decodeIdentityItems_skip_append {typeID length : UInt16} (ht : typeID ≠ 0x0C)
    {data : Bytes} (h : length.toNat = data.length) (count : Nat) (tail : Bytes) :
    decodeIdentityItems (count + 1) (putUint16 typeID ++ putUint16 length ++ data ++ tail) =
      decodeIdentityItems count tail := by
  simp only [decodeIdentityItems, List.append_assoc, readUint16_putUint16_append, ok_bind,
    if_neg ht, readPayload_append tail h.symm]

/-- A record whose identity fields, when it is an identity record, fill its data exactly. -/
def IdentityFits (item : CPFItem) : Prop :=
  item.typeID = 0x0C → identityFieldsLength item.data = item.data.length

instance (item : CPFItem) : Decidable (IdentityFits item) :=
  inferInstanceAs (Decidable (_ → _))

theorem decodeIdentityItems_records (items : List CPFItem) (rest : Bytes)
    (hItem : ∀ item ∈ items, item.Sized ∧ IdentityFits item) :
    decodeIdentityItems items.length (items.flatMap CPFItem.encode ++ rest) =
      .ok (identityItems items) := by
  induction items with
  | nil => rfl
  | cons item items ih =>
      obtain ⟨hs, hfit⟩ := hItem item (List.mem_cons_self _ _)
      have ih := ih fun i hi => hItem i (List.mem_cons_of_mem _ hi)
      rw [List.flatMap_cons, List.length_cons, CPFItem.encode_of_sized hs, List.append_assoc]
      obtain ⟨typeID, length, data⟩ := item
      by_cases ht : typeID = 0x0C
      · subst ht
        have hfit : identityFieldsLength data = data.length := hfit rfl
        rw [decodeIdentityItems_identity_append length hfit.le, hfit, List.drop_length,
          List.nil_append, ih]
        rfl
      · rw [decodeIdentityItems_skip_append ht hs, ih]
        simp [identityItems, ht]

/-- Both discovery decoders read a well-formed item list record by record when each known
record's length is the size of the fields the decoder reads from it. -/
theorem discovery_decoders_respect_fitting_records (items : List CPFItem) (rest : Bytes)
    (hCount : items.length < 65536) (hSized : ∀ item ∈ items, item.Sized) :
    ((∀ item ∈ items, item.data.length = 20) →
      decodeListServicesResponse ((newCommonPacketFormat items).encode ++ rest) =
        .ok (items.map servicesOfRecord)) ∧
    ((∀ item ∈ items, IdentityFits item) →
      decodeListIdentityResponse ((newCommonPacketFormat items).encode ++ rest) =
        .ok (identityItems items)) := by
  have hc := itemCount_newCommonPacketFormat hCount
  constructor
  · intro h20
    simp only [decodeListServicesResponse, CommonPacketFormat.encode, List.append_assoc,
      readUint16_putUint16_append, ok_bind, hc]
    exact decodeServicesItems_records items rest fun i hi => ⟨hSized i hi, h20 i hi⟩
  · intro hfit
    simp only [decodeListIdentityResponse, CommonPacketFormat.encode, List.append_assoc,
      readUint16_putUint16_append, ok_bind, hc]
    exact decodeIdentityItems_records items rest fun i hi => ⟨hSized i hi, hfit i hi⟩

/-- The name `Communications`, zero-padded to 16 bytes. -/
def communicationsName : Bytes :=
  [0x43, 0x6F, 0x6D, 0x6D, 0x75, 0x6E, 0x69, 0x63, 0x61, 0x74, 0x69, 0x6F, 0x6E, 0x73, 0, 0]

def servicesRecord (length : UInt16) (extra : Bytes) : CPFItem :=
  ⟨0x0100, length, putUint16 1 ++ putUint16 0x0120 ++ communicationsName ++ extra⟩

def identityRecord (length : UInt16) (extra : Bytes) : CPFItem :=
  ⟨0x0C, length, putUint16 1 ++ List.replicate 16 0 ++ putUint16 1 ++ putUint16 0x0C ++
    putUint16 0x41 ++ [1, 1] ++ putUint16 0 ++ putUint32 12345 ++ [1, 0x41, 3] ++ extra⟩

/-- An identity record and a services record, each declaring its own size. -/
def fittingRecords : List CPFItem := [identityRecord 35 [], servicesRecord 20 []]

theorem discovery_decoders_respect_fittingRecords :
    fittingRecords.length < 65536 ∧ (∀ item ∈ fittingRecords, item.Sized) ∧
      decodeListIdentityResponse ((newCommonPacketFormat fittingRecords).encode ++ []) =
        .ok (identityItems fittingRecords) :=
  have hSized : ∀ item ∈ fittingRecords, item.Sized := by decide
  ⟨by decide, hSized, (discovery_decoders_respect_fitting_records fittingRecords []
    (by decide) hSized).2 (by decide)⟩

def twoServicesReply : Bytes :=
  (newCommonPacketFormat [servicesRecord 22 [0xAA, 0xBB], servicesRecord 20 []]).encode

def identityReply : Bytes :=
  (newCommonPacketFormat [identityRecord 37 [0xAA, 0xBB], ⟨0x86, 0, []⟩]).encode

theorem discovery_misreads_items :
    (decodeCommonPacketFormat twoServicesReply).map (·.items.map CPFItem.typeID) =
      .ok [0x0100, 0x0100] ∧
    (decodeListServicesResponse twoServicesReply).map (List.map ListServicesItem.typeID) =
      .ok [0x0100, 0xBBAA] ∧
    (decodeCommonPacketFormat identityReply).map (·.items.map CPFItem.typeID) =
      .ok [0x0C, 0x86] ∧
    decodeListIdentityResponse identityReply = .error .unexpectedEOF := by
  decide

end GoeipProofs.Discovery
