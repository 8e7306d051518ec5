import GoeipProofs.Wire

/-!
The Common Packet Format (`pkg/eip/cpf.go`): an item count followed by
`{type, length, data}` records, the container both the TCP and the UDP
framings carry their addressing and data in.
-/

namespace GoeipProofs.Cpf

open GoeipProofs.Wire

/-- `ItemIDNullAddress` -/
def itemIDNullAddress : UInt16 := 0x0000
/-- `ItemIDConnectedAddress` (alias of `ItemIDConnectionBased`) -/
def itemIDConnectedAddress : UInt16 := 0x00A1
/-- `ItemIDConnectedData` (alias of `ItemIDConnectedTransport`) -/
def itemIDConnectedData : UInt16 := 0x00B1
/-- `ItemIDUnconnectedMessage` -/
def itemIDUnconnectedMessage : UInt16 := 0x00B2

/-- A CPF item (`CPFItem`). The stored `length` field is not tied to `data`. -/
structure CPFItem where
  typeID : UInt16
  length : UInt16
  data : Bytes
  deriving DecidableEq, Repr

/-- `NewCPFItem`: the length field is `uint16(len(data))`. -/
def newCPFItem (typeID : UInt16) (data : Bytes) : CPFItem :=
  ⟨typeID, UInt16.ofNat data.length, data⟩

/-- `CPFItem.Encode`: type and length, then all of `data` when the length field is
non-zero. -/
def CPFItem.encode (item : CPFItem) : Bytes :=
  putUint16 item.typeID ++ putUint16 item.length ++
    (if item.length.toNat > 0 then item.data else [])

/-- `CommonPacketFormat` -/
structure CommonPacketFormat where
  itemCount : UInt16
  items : List CPFItem
  deriving DecidableEq, Repr

/-- `NewCommonPacketFormat`: the count field is `uint16(len(items))`. -/
def newCommonPacketFormat (items : List CPFItem) : CommonPacketFormat :=
  ⟨UInt16.ofNat items.length, items⟩

/-- `CommonPacketFormat.Encode` -/
def CommonPacketFormat.encode (cpf : CommonPacketFormat) : Bytes :=
  putUint16 cpf.itemCount ++ cpf.items.flatMap CPFItem.encode

/-- The item loop of `DecodeCommonPacketFormat`: `count` records read from `r`. -/
def decodeItems : Nat → Bytes → Except GoError (List CPFItem)
  | 0, _ => .ok []
  | count + 1, r => do
      let (typeID, r) ← readFull 2 r
      let (length, r) ← readFull 2 r
      let (itemData, r) ← readPayload (uint16 length).toNat r
      let items ← decodeItems count r
      pure (⟨uint16 typeID, uint16 length, itemData⟩ :: items)

/-- `DecodeCommonPacketFormat`; bytes after the last item are ignored. -/
def decodeCommonPacketFormat (data : Bytes) : Except GoError CommonPacketFormat := do
  let (itemCount, r) ← readFull 2 data
  let items ← decodeItems (uint16 itemCount).toNat r
  pure ⟨uint16 itemCount, items⟩

/-- `CommonPacketFormat.FindItemByType`: the first item of the given type. -/
def CommonPacketFormat.findItemByType (cpf : CommonPacketFormat) (typeID : UInt16) :
    Option CPFItem :=
  cpf.items.find? fun item => item.typeID == typeID

/-- An item whose length field counts its data, as `NewCPFItem` makes them for data
below 64 KiB. -/
def CPFItem.Sized (item : CPFItem) : Prop := item.length.toNat = item.data.length

instance (item : CPFItem) : Decidable item.Sized := inferInstanceAs (Decidable (_ = _))

theorem newCPFItem_sized (typeID : UInt16) {data : Bytes} (h : data.length < 65536) :
    (newCPFItem typeID data).Sized := by
  simp [CPFItem.Sized, newCPFItem, Nat.mod_eq_of_lt h]

theorem CPFItem.encode_of_sized {item : CPFItem} (h : item.Sized) :
    item.encode = putUint16 item.typeID ++ putUint16 item.length ++ item.data := by
  unfold CPFItem.encode
  split
  · rfl
  · have : item.data = [] := List.eq_nil_of_length_eq_zero (by unfold CPFItem.Sized at h; omega)
    simp [this]

theorem length_encode_newCPFItem (typeID : UInt16) {data : Bytes} (h : data.length < 65536) :
    (newCPFItem typeID data).encode.length = 4 + data.length := by
  rw [CPFItem.encode_of_sized (newCPFItem_sized typeID h)]
  simp only [List.length_append, length_putUint16, newCPFItem]

theorem length_encode_newCPFItem_of_pos (typeID : UInt16) {data : Bytes}
    (h : 0 < data.length % 65536) : (newCPFItem typeID data).encode.length = 4 + data.length := by
  simp only [CPFItem.encode, newCPFItem, uint16_toNat_ofNat, if_pos h, List.length_append,
    length_putUint16]

theorem encode_newCPFItem_of_wrap (typeID : UInt16) {data : Bytes}
    (h : data.length % 65536 = 0) :
    (newCPFItem typeID data).encode = CPFItem.encode ⟨typeID, 0, []⟩ := by
  have h0 : UInt16.ofNat data.length = 0 := UInt16.toNat.inj (by simp [h])
  simp [CPFItem.encode, newCPFItem, h0]

theorem decodeItems_encode_cons {item : CPFItem} (h : item.Sized) (count : Nat)
    (tail : Bytes) :
    decodeItems (count + 1) (item.encode ++ tail) =
      (decodeItems count tail).map (item :: ·) := by
  rw [CPFItem.encode_of_sized h]
  simp only [decodeItems, List.append_assoc, readFull_append _ (length_putUint16 _), ok_bind,
    uint16_putUint16, readPayload_append tail h.symm]
  cases decodeItems count tail <;> rfl

theorem decodeItems_encode (items : List CPFItem) (rest : Bytes)
    (hItem : ∀ item ∈ items, item.Sized) :
    decodeItems items.length (items.flatMap CPFItem.encode ++ rest) = .ok items := by
  induction items with
  | nil => rfl
  | cons item items ih =>
      rw [List.flatMap_cons, List.append_assoc, List.length_cons,
        decodeItems_encode_cons (hItem item (List.mem_cons_self _ _)),
        ih fun i hi => hItem i (List.mem_cons_of_mem _ hi)]
      rfl

theorem itemCount_newCommonPacketFormat {items : List CPFItem} (h : items.length < 65536) :
    (newCommonPacketFormat items).itemCount.toNat = items.length := by
  simp [newCommonPacketFormat, Nat.mod_eq_of_lt h]

theorem decodeCommonPacketFormat_encode (items : List CPFItem) (rest : Bytes)
    (hCount : items.length < 65536) (hItem : ∀ item ∈ items, item.Sized) :
    decodeCommonPacketFormat ((newCommonPacketFormat items).encode ++ rest) =
      .ok (newCommonPacketFormat items) := by
  simp only [decodeCommonPacketFormat, CommonPacketFormat.encode, List.append_assoc,
    readFull_append _ (length_putUint16 _), ok_bind, uint16_putUint16,
    itemCount_newCommonPacketFormat hCount]
  rw [show (newCommonPacketFormat items).items = items from rfl,
    decodeItems_encode items rest hItem]
  rfl

/-- An item built from data of a multiple of 64 KiB comes back with no data. -/
theorem decodeCommonPacketFormat_drops_wrapped_item (typeID : UInt16) {data : Bytes}
    (h : data.length % 65536 = 0) :
    decodeCommonPacketFormat (newCommonPacketFormat [newCPFItem typeID data]).encode =
      .ok ⟨1, [⟨typeID, 0, []⟩]⟩ := by
  have henc : (newCommonPacketFormat [newCPFItem typeID data]).encode =
      (newCommonPacketFormat [⟨typeID, 0, []⟩]).encode ++ [] := by
    simp [newCommonPacketFormat, CommonPacketFormat.encode, encode_newCPFItem_of_wrap typeID h]
  rw [henc, decodeCommonPacketFormat_encode _ _ (by simp) (by simp [CPFItem.Sized])]
  rfl

theorem decodeCommonPacketFormat_drops_64KiB_item :
    (List.replicate 65536 0).length % 65536 = 0 ∧
    decodeCommonPacketFormat (newCommonPacketFormat
        [newCPFItem itemIDUnconnectedMessage (List.replicate 65536 0)]).encode =
      .ok ⟨1, [⟨itemIDUnconnectedMessage, 0, []⟩]⟩ :=
  ⟨by rw [List.length_replicate], decodeCommonPacketFormat_drops_wrapped_item _
    (by rw [List.length_replicate])⟩

/-- The record at the head of `r`, as the item loop reads it. -/
def headItem (r : Bytes) : CPFItem :=
  ⟨uint16 r, uint16 (r.drop 2), (r.drop 4).take (uint16 (r.drop 2)).toNat⟩

section HeadItem

variable {r : Bytes} (h : 4 + (uint16 (r.drop 2)).toNat ≤ r.length)
include h

theorem headItem_sized : (headItem r).Sized := by
  simp only [CPFItem.Sized, headItem, List.length_take, List.length_drop]
  omega

theorem headItem_encode :
    (headItem r).encode ++ r.drop (4 + (uint16 (r.drop 2)).toNat) = r := by
  have h4 : r.drop 4 = (r.drop 2).drop 2 := by rw [List.drop_drop]
  rw [CPFItem.encode_of_sized (headItem_sized h), headItem, putUint16_uint16 (by omega),
    putUint16_uint16 (by simp only [List.length_drop]; omega), ← List.drop_drop,
    List.append_assoc, List.append_assoc, List.take_append_drop, h4, List.take_append_drop,
    List.take_append_drop]

end HeadItem

theorem decodeItems_succ_eq_ok {k : Nat} {r : Bytes} {items : List CPFItem} :
    decodeItems (k + 1) r = .ok items ↔
      4 + (uint16 (r.drop 2)).toNat ≤ r.length ∧ ∃ tail,
        decodeItems k (r.drop (4 + (uint16 (r.drop 2)).toNat)) = .ok tail ∧
        items = headItem r :: tail := by
  by_cases h2 : r.length < 2
  · obtain ⟨e, he⟩ := readFull_of_lt h2
    simp only [decodeItems, he, error_bind, reduceCtorEq, false_iff, not_and]
    intro h; omega
  by_cases h4 : r.length < 4
  · obtain ⟨e, he⟩ := readFull_of_lt (show (r.drop 2).length < 2 by simp; omega)
    simp only [decodeItems, readFull_of_le (Nat.le_of_not_lt h2), ok_bind, he, error_bind,
      reduceCtorEq, false_iff, not_and]
    intro h; omega
  simp only [decodeItems, readFull_of_le (Nat.le_of_not_lt h2),
    readFull_of_le (show 2 ≤ (r.drop 2).length by simp; omega), ok_bind,
    uint16_take _ (le_refl 2), List.drop_drop, Nat.reduceAdd]
  by_cases hn : 4 + (uint16 (r.drop 2)).toNat ≤ r.length
  · rw [readPayload_of_le (by simp; omega), ok_bind, bind_eq_ok]
    simp only [hn, true_and, headItem, pure, Except.pure, Except.ok.injEq, List.drop_drop]
    exact exists_congr fun _ => and_congr_right fun _ => eq_comm
  · obtain ⟨e, he⟩ :=
      readPayload_of_lt (show (r.drop 4).length < (uint16 (r.drop 2)).toNat by simp; omega)
    simp only [he, error_bind, reduceCtorEq, false_iff, hn, false_and, not_false_eq_true]

theorem decodeItems_eq_ok {k : Nat} {r : Bytes} {items : List CPFItem} :
    decodeItems k r = .ok items ↔
      (∀ item ∈ items, item.Sized) ∧ items.length = k ∧
        ∃ rest, r = items.flatMap CPFItem.encode ++ rest := by
  constructor
  · induction k generalizing r items with
    | zero =>
        rintro ⟨⟩
        exact ⟨by simp, rfl, r, rfl⟩
    | succ k ih =>
        intro h
        obtain ⟨hn, tail, htail, rfl⟩ := decodeItems_succ_eq_ok.mp h
        obtain ⟨hs, hl, rest, hr⟩ := ih htail
        refine ⟨List.forall_mem_cons.mpr ⟨headItem_sized hn, hs⟩, by simp [hl], rest, ?_⟩
        rw [List.flatMap_cons, List.append_assoc, ← hr, headItem_encode hn]
  · rintro ⟨hs, rfl, rest, rfl⟩
    exact decodeItems_encode items rest hs

/-- The decoder accepts exactly a count and that many records, each with all its data,
and what it returns encodes back to the bytes it read. -/
theorem decodeCommonPacketFormat_eq_ok_iff {b : Bytes} {cpf : CommonPacketFormat} :
    decodeCommonPacketFormat b = .ok cpf ↔
      (∀ item ∈ cpf.items, item.Sized) ∧ cpf.items.length = cpf.itemCount.toNat ∧
        ∃ rest, b = cpf.encode ++ rest := by
  constructor
  · intro h
    by_cases h2 : b.length < 2
    · obtain ⟨e, he⟩ := readFull_of_lt h2
      simp [decodeCommonPacketFormat, he] at h
    simp only [decodeCommonPacketFormat, readFull_of_le (Nat.le_of_not_lt h2), ok_bind,
      uint16_take _ (le_refl 2), bind_eq_ok, pure, Except.pure, Except.ok.injEq] at h
    obtain ⟨items, hitems, rfl⟩ := h
    obtain ⟨hs, hl, rest, hr⟩ := decodeItems_eq_ok.mp hitems
    refine ⟨hs, hl, rest, ?_⟩
    rw [CommonPacketFormat.encode, putUint16_uint16 (by omega), List.append_assoc, ← hr,
      List.take_append_drop]
  · obtain ⟨count, items⟩ := cpf
    rintro ⟨hs, hl, rest, rfl⟩
    simp only [decodeCommonPacketFormat, CommonPacketFormat.encode, List.append_assoc,
      readFull_append _ (length_putUint16 _), ok_bind, uint16_putUint16, ← hl,
      decodeItems_encode items rest hs]
    rfl

end GoeipProofs.Cpf
