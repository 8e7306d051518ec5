import GoeipProofs.Path

/-!
The tag enumeration of the client (`Client.ListTags` in `pkg/client/discovery.go`) and the
Symbol-object requests and reply decoders of `pkg/cip` it uses. The client's session is a
parameter: `SendCIPRequest` as a step of a session state, which a failed call leaves in some
state the loop goes on with. Against the loop stands the enumeration it performs: the requests
for instances `1, ..., maxInstance` sent in order, and the symbols of the replies that succeed
with a non-empty name.
-/

namespace GoeipProofs.Client

open GoeipProofs.Wire GoeipProofs.Message GoeipProofs.Router GoeipProofs.Path

/-- `ClassSymbol` -/
def classSymbol : UInt16 := 0x6B

/-- `SymbolInstance`; the name is kept as bytes and the `DataType` as its `uint16`. -/
structure SymbolInstance where
  instanceID : UInt32
  name : Bytes
  type : UInt16
  deriving DecidableEq, Repr

/-- The request data both Symbol requests carry: two attributes, 1 and 2. -/
def attributeListData : Bytes := putUint16 2 ++ putUint16 1 ++ putUint16 2

/-- `NewGetSymbolClassAttributesRequest`: `Get_Attribute_List` of the Symbol class,
instance 0. -/
def newGetSymbolClassAttributesRequest : MessageRouterRequest :=
  ⟨0x03, addInstance (addClass newPath classSymbol) 0, attributeListData⟩

/-- `NewGetSymbolAttributesRequest` -/
def newGetSymbolAttributesRequest (instanceID : UInt32) : MessageRouterRequest :=
  ⟨0x03, addInstance32 (addClass newPath classSymbol) instanceID, attributeListData⟩

/-- The attribute loop the two Symbol decoders share: `count` entries of an attribute id and
a status, then for status 0 the value of attribute 1, read by `readFirst`, or of attribute 2, a
`uint16`; no value is read for any other entry, and a later value replaces an earlier one. -/
def decodeAttributeList {α : Type} (readFirst : Bytes → Except GoError (α × Bytes)) :
    Nat → α × UInt16 → Bytes → Except GoError (α × UInt16)
  | 0, values, _ => .ok values
  | count + 1, (first, second), r => do
      let (attrID, r) ← readUint16 r
      let (status, r) ← readUint16 r
      if status = 0 then
        if attrID = 1 then
          let (first, r) ← readFirst r
          decodeAttributeList readFirst count (first, second) r
        else if attrID = 2 then
          let (second, r) ← readUint16 r
          decodeAttributeList readFirst count (first, second) r
        else decodeAttributeList readFirst count (first, second) r
      else decodeAttributeList readFirst count (first, second) r

/-- `DecodeSymbolClassAttributesResponse`: the revision (attribute 1) and the max instance
(attribute 2), both `uint16`. -/
def decodeSymbolClassAttributesResponse (data : Bytes) : Except GoError (UInt16 × UInt16) := do
  let (count, r) ← readUint16 data
  decodeAttributeList readUint16 count.toNat (0, 0) r

/-- The name `DecodeSymbolAttributesResponse` reads: a `uint16` length, then that many
bytes. -/
def readSymbolName (r : Bytes) : Except GoError (Bytes × Bytes) := do
  let (nameLen, r) ← readUint16 r
  readPayload nameLen.toNat r

/-- `DecodeSymbolAttributesResponse`: the name (attribute 1) and the type code
(attribute 2). -/
def decodeSymbolAttributesResponse (data : Bytes) : Except GoError (Bytes × UInt16) := do
  let (count, r) ← readUint16 data
  decodeAttributeList readSymbolName count.toNat ([], 0) r

/-- The body of the instance loop on the outcome of the request for `id`: a transport error
is logged and skipped, and so is any status but success (`ObjectDoesNotExist` and
`PathDestinationUnknown` by name, the others after them) and a reply that does not decode;
a decoded non-empty name is appended. -/
def appendSymbol (id : UInt32) (result : Except GoError MessageRouterResponse)
    (allSymbols : List SymbolInstance) : List SymbolInstance :=
  match result with
  | .error _ => allSymbols
  | .ok resp =>
      if resp.generalStatus ≠ statusSuccess then
        if resp.generalStatus = statusObjectDoesNotExist ∨
            resp.generalStatus = statusPathDestinationUnknown then allSymbols
        else allSymbols
      else
        match decodeSymbolAttributesResponse resp.responseData with
        | .error _ => allSymbols
        | .ok (name, typeCode) =>
            if name ≠ [] then allSymbols ++ [⟨id, name, typeCode⟩] else allSymbols

section ListTags

variable {σ : Type} (send : σ → MessageRouterRequest → Except GoError MessageRouterResponse × σ)

/-- The instance loop of `ListTags`, `for id := uint32(1); id <= uint32(maxInstance); id++`;
`fuel` bounds the iterations. -/
def listTagsLoop (maxInstance : UInt16) :
    Nat → UInt32 → List SymbolInstance → σ → List SymbolInstance × σ
  | 0, _, allSymbols, s => (allSymbols, s)
  | fuel + 1, id, allSymbols, s =>
      if id ≤ maxInstance.toUInt32 then
        let (result, s) := send s (newGetSymbolAttributesRequest id)
        listTagsLoop maxInstance fuel (id + 1) (appendSymbol id result allSymbols) s
      else (allSymbols, s)

/-- `Client.ListTags` on the session state `s`, with `send` its `SendCIPRequest`. A `uint16`
bound leaves the loop at most 65535 passes, so 65536 is fuel to spare. -/
def listTags (s : σ) : Except GoError (List SymbolInstance) × σ :=
  match send s newGetSymbolClassAttributesRequest with
  | (.error err, s) => (.error (.wrap "failed to get symbol class attributes: %w" err), s)
  | (.ok respClass, s) =>
      if respClass.generalStatus ≠ statusSuccess then (.error respClass.error, s)
      else
        match decodeSymbolClassAttributesResponse respClass.responseData with
        | .error err => (.error (.wrap "failed to decode symbol class attributes: %w" err), s)
        | .ok (_, maxInstance) =>
            let (allSymbols, s) := listTagsLoop send maxInstance 65536 1 [] s
            (.ok allSymbols, s)

end ListTags

/-- The symbol one instance's outcome gives: its id, name and type, when the call returned a
reply whose status is success and whose data decodes to a non-empty name. -/
def symbolOf (id : UInt32) (result : Except GoError MessageRouterResponse) :
    Option SymbolInstance := do
  let resp ← result.toOption
  guard (resp.generalStatus = statusSuccess)
  let (name, typeCode) ← (decodeSymbolAttributesResponse resp.responseData).toOption
  guard (name ≠ [])
  pure ⟨id, name, typeCode⟩

theorem appendSymbol_eq (id : UInt32) (result : Except GoError MessageRouterResponse)
    (allSymbols : List SymbolInstance) :
    appendSymbol id result allSymbols = allSymbols ++ (symbolOf id result).toList := by
  unfold appendSymbol symbolOf
  rcases result with _ | resp
  · simp [Except.toOption]
  by_cases hs : resp.generalStatus = statusSuccess
  · rcases hd : decodeSymbolAttributesResponse resp.responseData with _ | ⟨name, typeCode⟩
    · simp [Except.toOption, hs, hd]
    · by_cases hn : name = [] <;> simp [Except.toOption, hs, hd, hn, failure]
  · simp [Except.toOption, hs, failure]

section Enumeration

variable {σ : Type} (send : σ → MessageRouterRequest → Except GoError MessageRouterResponse × σ)

/-- The enumeration `ListTags` performs: a Symbol request for each id of `ids`, in order, and
the symbols of their outcomes. -/
def enumerate : List UInt32 → σ → List SymbolInstance × σ
  | [], s => ([], s)
  | id :: ids, s =>
      let (result, s) := send s (newGetSymbolAttributesRequest id)
      let (symbols, s) := enumerate ids s
      ((symbolOf id result).toList ++ symbols, s)

theorem listTagsLoop_eq {maxInstance : UInt16} {n k : Nat} (hn : n + k = maxInstance.toNat + 1)
    {fuel : Nat} (hk : k ≤ fuel) (allSymbols : List SymbolInstance) (s : σ) :
    listTagsLoop send maxInstance fuel (UInt32.ofNat n) allSymbols s =
      Prod.map (allSymbols ++ ·) id
        (enumerate send ((List.range' n k).map UInt32.ofNat) s) := by
  have hmax := uint16_toNat_lt maxInstance
  induction k generalizing n fuel allSymbols s with
  | zero =>
      cases fuel with
      | zero => simp [listTagsLoop, enumerate]
      | succ fuel =>
          have hgt : ¬ UInt32.ofNat n ≤ maxInstance.toUInt32 := by
            rw [ofNat_le_toUInt32_iff (by omega)]; omega
          simp [listTagsLoop, hgt, enumerate]
  | succ k ih =>
      obtain ⟨fuel, rfl⟩ : ∃ f, fuel = f + 1 := ⟨fuel - 1, by omega⟩
      have hle : UInt32.ofNat n ≤ maxInstance.toUInt32 := by
        rw [ofNat_le_toUInt32_iff (by omega)]; omega
      rcases h : send s (newGetSymbolAttributesRequest (UInt32.ofNat n)) with ⟨result, s'⟩
      simp only [listTagsLoop, if_pos hle, h, ofNat_add_one, appendSymbol_eq,
        ih (show n + 1 + k = _ by omega) (Nat.le_of_succ_le_succ hk), List.range'_succ,
        List.map_cons, enumerate, Prod.map, List.append_assoc, id]

theorem listTags_eq_enumerate {s s₁ : σ} {respClass : MessageRouterResponse}
    {revision maxInstance : UInt16}
    (hclass : send s newGetSymbolClassAttributesRequest = (.ok respClass, s₁))
    (hstatus : respClass.generalStatus = statusSuccess)
    (hmax : decodeSymbolClassAttributesResponse respClass.responseData =
      .ok (revision, maxInstance)) :
    listTags send s =
      Prod.map .ok id (enumerate send ((List.range' 1 maxInstance.toNat).map UInt32.ofNat) s₁) := by
  have hloop := listTagsLoop_eq send (show 1 + maxInstance.toNat = maxInstance.toNat + 1 by omega)
    (show maxInstance.toNat ≤ 65536 by have := uint16_toNat_lt maxInstance; omega) [] s₁
  simp only [List.nil_append] at hloop
  simp only [listTags, hclass, hstatus, ne_eq, not_true_eq_false, if_false, hmax]
  rw [show (1 : UInt32) = UInt32.ofNat 1 from rfl, hloop]
  rfl

end Enumeration

/-- A session that records the requests sent on it and answers each with `answer`: every
choice of outcome for every request. -/
def recordingSession (answer : MessageRouterRequest → Except GoError MessageRouterResponse)
    (sent : List MessageRouterRequest) (req : MessageRouterRequest) :
    Except GoError MessageRouterResponse × List MessageRouterRequest :=
  (answer req, sent ++ [req])

theorem enumerate_recordingSession
    (answer : MessageRouterRequest → Except GoError MessageRouterResponse) (ids : List UInt32)
    (sent : List MessageRouterRequest) :
    enumerate (recordingSession answer) ids sent =
      (ids.filterMap fun id => symbolOf id (answer (newGetSymbolAttributesRequest id)),
        sent ++ ids.map newGetSymbolAttributesRequest) := by
  induction ids generalizing sent with
  | nil => simp [enumerate]
  | cons id ids ih =>
      simp only [enumerate, recordingSession, ih, List.filterMap_cons, List.map_cons,
        List.append_assoc, List.singleton_append]
      cases symbolOf id (answer (newGetSymbolAttributesRequest id)) <;> rfl

/-- Against any answers, `ListTags` sends the class request and then the request of every
instance from 1 to the max instance, in order, whatever the earlier requests met, a
transport error included; it returns, with no error, the symbols of the instances whose
reply succeeded with a non-empty name, in order. -/
theorem listTags_requests_every_instance
    (answer : MessageRouterRequest → Except GoError MessageRouterResponse)
    {respClass : MessageRouterResponse} {revision maxInstance : UInt16}
    (hclass : answer newGetSymbolClassAttributesRequest = .ok respClass)
    (hstatus : respClass.generalStatus = statusSuccess)
    (hmax : decodeSymbolClassAttributesResponse respClass.responseData =
      .ok (revision, maxInstance)) :
    listTags (recordingSession answer) [] =
      (.ok (((List.range' 1 maxInstance.toNat).map UInt32.ofNat).filterMap fun id =>
          symbolOf id (answer (newGetSymbolAttributesRequest id))),
        newGetSymbolClassAttributesRequest ::
          ((List.range' 1 maxInstance.toNat).map UInt32.ofNat).map
            newGetSymbolAttributesRequest) := by
  rw [listTags_eq_enumerate _ (by rw [recordingSession, hclass]) hstatus hmax,
    enumerate_recordingSession]
  rfl

def sampleClassReply : MessageRouterResponse :=
  ⟨0x83, 0, statusSuccess, 0, [], putUint16 2 ++ putUint16 1 ++ putUint16 0 ++ putUint16 3 ++
    putUint16 2 ++ putUint16 0 ++ putUint16 2⟩

def sampleSymbolReply : MessageRouterResponse :=
  ⟨0x83, 0, statusSuccess, 0, [], putUint16 2 ++ putUint16 1 ++ putUint16 0 ++ putUint16 1 ++
    [0x41] ++ putUint16 2 ++ putUint16 0 ++ putUint16 0xC4⟩

def transportErrorAnswer (req : MessageRouterRequest) : Except GoError MessageRouterResponse :=
  if req = newGetSymbolClassAttributesRequest then .ok sampleClassReply
  else if req = newGetSymbolAttributesRequest 2 then .ok sampleSymbolReply
  else .error .eof

theorem listTags_after_transport_error :
    transportErrorAnswer newGetSymbolClassAttributesRequest = .ok sampleClassReply ∧
    sampleClassReply.generalStatus = statusSuccess ∧
    decodeSymbolClassAttributesResponse sampleClassReply.responseData = .ok (3, 2) ∧
    listTags (recordingSession transportErrorAnswer) [] =
      (.ok [⟨2, [0x41], 0xC4⟩], [newGetSymbolClassAttributesRequest,
        newGetSymbolAttributesRequest 1, newGetSymbolAttributesRequest 2]) := by
  have hclass : transportErrorAnswer newGetSymbolClassAttributesRequest =
      .ok sampleClassReply := rfl
  have hmax : decodeSymbolClassAttributesResponse sampleClassReply.responseData =
      .ok (3, 2) := by decide
  refine ⟨hclass, rfl, hmax, ?_⟩
  rw [listTags_requests_every_instance transportErrorAnswer hclass rfl hmax]
  decide

/-- `ListTags` goes on past a transport failure: instance 1 fails with `io.EOF`, the request
for instance 2 is still sent, and the enumeration ends with a nil error. -/
theorem listTags_continues_after_transport_error :
    transportErrorAnswer (newGetSymbolAttributesRequest 1) = .error .eof ∧
    listTags (recordingSession transportErrorAnswer) [] =
      (.ok [⟨2, [0x41], 0xC4⟩], [newGetSymbolClassAttributesRequest,
        newGetSymbolAttributesRequest 1, newGetSymbolAttributesRequest 2]) := by
  decide

/-- One entry of a `Get_Attribute_List` reply as the Symbol decoders read it: attribute 1
with its value, attribute 2 with its `uint16`, or an attribute answered with a non-zero
status and no value. -/
inductive AttributeEntry (α : Type) where
  | first (value : α)
  | second (value : UInt16)
  | failed (attrID status : UInt16)
  deriving DecidableEq, Repr

variable {α : Type}

/-- The bytes of an entry: attribute id, status, and the value of a status-0 entry, attribute
1's written by `writeFirst`. -/
def AttributeEntry.encode (writeFirst : α → Bytes) : AttributeEntry α → Bytes
  | .first value => putUint16 1 ++ putUint16 0 ++ writeFirst value
  | .second value => putUint16 2 ++ putUint16 0 ++ putUint16 value
  | .failed attrID status => putUint16 attrID ++ putUint16 status

/-- The two values after an entry: a value replaces the one before it. -/
def AttributeEntry.apply : α × UInt16 → AttributeEntry α → α × UInt16
  | (_, b), .first value => (value, b)
  | (a, _), .second value => (a, value)
  | values, .failed _ _ => values

/-- An entry the encoding can carry: attribute 1's value within `fits`, a failed entry with
a non-zero status. -/
def AttributeEntry.Valid (fits : α → Prop) : AttributeEntry α → Prop
  | .first value => fits value
  | .second _ => True
  | .failed _ status => status ≠ 0

instance (fits : α → Prop) [DecidablePred fits] (e : AttributeEntry α) :
    Decidable (e.Valid fits) :=
  match e with
  | .first value => inferInstanceAs (Decidable (fits value))
  | .second _ => inferInstanceAs (Decidable True)
  | .failed _ status => inferInstanceAs (Decidable (status ≠ 0))

/-- A `Get_Attribute_List` reply's data: the entry count, then the entries. -/
def attributeListReply (writeFirst : α → Bytes) (entries : List (AttributeEntry α)) : Bytes :=
  putUint16 (UInt16.ofNat entries.length) ++ entries.flatMap (AttributeEntry.encode writeFirst)

section AttributeList

variable {readFirst : Bytes → Except GoError (α × Bytes)} {writeFirst : α → Bytes}
  {fits : α → Prop}
  (hread : ∀ value rest, fits value → readFirst (writeFirst value ++ rest) = .ok (value, rest))
include hread

theorem decodeAttributeList_encode_cons {e : AttributeEntry α} (he : e.Valid fits)
    (count : Nat) (values : α × UInt16) (tail : Bytes) :
    decodeAttributeList readFirst (count + 1) values (e.encode writeFirst ++ tail) =
      decodeAttributeList readFirst count (AttributeEntry.apply values e) tail := by
  obtain ⟨a, b⟩ := values
  cases e with
  | first value =>
      simp only [AttributeEntry.encode, decodeAttributeList, List.append_assoc,
        readUint16_putUint16_append, ok_bind, hread value tail he, if_true, AttributeEntry.apply]
  | second value =>
      simp only [AttributeEntry.encode, decodeAttributeList, List.append_assoc,
        readUint16_putUint16_append, ok_bind, AttributeEntry.apply]
      rfl
  | failed attrID status =>
      simp only [AttributeEntry.encode, decodeAttributeList, List.append_assoc,
        readUint16_putUint16_append, ok_bind, if_neg (show ¬ status = 0 from he),
        AttributeEntry.apply]

theorem decodeAttributeList_encode (entries : List (AttributeEntry α))
    (h : ∀ e ∈ entries, e.Valid fits) (values : α × UInt16) (rest : Bytes) :
    decodeAttributeList readFirst entries.length values
        (entries.flatMap (AttributeEntry.encode writeFirst) ++ rest) =
      .ok (entries.foldl AttributeEntry.apply values) := by
  induction entries generalizing values with
  | nil => rfl
  | cons e entries ih =>
      rw [List.flatMap_cons, List.append_assoc, List.length_cons,
        decodeAttributeList_encode_cons hread (h e (List.mem_cons_self _ _)),
        ih (fun e' he' => h e' (List.mem_cons_of_mem _ he')), List.foldl_cons]

end AttributeList

/-- The name as a Logix target writes it: a `uint16` length, then the bytes. -/
def writeSymbolName (name : Bytes) : Bytes := putUint16 (UInt16.ofNat name.length) ++ name

theorem readSymbolName_writeSymbolName {name : Bytes} (h : name.length < 65536) (rest : Bytes) :
    readSymbolName (writeSymbolName name ++ rest) = .ok (name, rest) := by
  simp only [readSymbolName, writeSymbolName, List.append_assoc, readUint16_putUint16_append,
    ok_bind, uint16_toNat_ofNat, Nat.mod_eq_of_lt h, readPayload_append rest rfl]

/-- Both Symbol decoders read back every reply of entries the encoding can carry, fewer than
65536 of them, followed by any bytes: each value is the last one given for its attribute,
and the default where none is. -/
theorem symbol_replies_decode :
    (∀ (entries : List (AttributeEntry Bytes)) (rest : Bytes), entries.length < 65536 →
      (∀ e ∈ entries, e.Valid fun name => name.length < 65536) →
      decodeSymbolAttributesResponse (attributeListReply writeSymbolName entries ++ rest) =
        .ok (entries.foldl AttributeEntry.apply ([], 0))) ∧
    (∀ (entries : List (AttributeEntry UInt16)) (rest : Bytes), entries.length < 65536 →
      (∀ e ∈ entries, e.Valid fun _ => True) →
      decodeSymbolClassAttributesResponse (attributeListReply putUint16 entries ++ rest) =
        .ok (entries.foldl AttributeEntry.apply (0, 0))) := by
  constructor
  · intro entries rest hlen h
    simp only [decodeSymbolAttributesResponse, attributeListReply, List.append_assoc,
      readUint16_putUint16_append, ok_bind, uint16_toNat_ofNat, Nat.mod_eq_of_lt hlen]
    exact decodeAttributeList_encode (fun _ rest hn => readSymbolName_writeSymbolName hn rest)
      entries h _ rest
  · intro entries rest hlen h
    simp only [decodeSymbolClassAttributesResponse, attributeListReply, List.append_assoc,
      readUint16_putUint16_append, ok_bind, uint16_toNat_ofNat, Nat.mod_eq_of_lt hlen]
    exact decodeAttributeList_encode (fun value rest _ => readUint16_putUint16_append value rest)
      entries h _ rest

def sampleSymbolEntries : List (AttributeEntry Bytes) :=
  [.first [0x41], .failed 3 0x14, .second 0xC4, .first [0x42, 0x43]]

def sampleClassEntries : List (AttributeEntry UInt16) := [.second 7, .first 3]

theorem symbol_replies_decode_samples :
    decodeSymbolAttributesResponse (attributeListReply writeSymbolName sampleSymbolEntries) =
      .ok ([0x42, 0x43], 0xC4) ∧
    decodeSymbolClassAttributesResponse (attributeListReply putUint16 sampleClassEntries) =
      .ok (3, 7) := by
  have hs := symbol_replies_decode.1 sampleSymbolEntries [] (by decide) (by decide)
  have hc := symbol_replies_decode.2 sampleClassEntries [] (by decide) (by decide)
  rw [List.append_nil] at hs hc
  exact ⟨hs, hc⟩

end GoeipProofs.Client
