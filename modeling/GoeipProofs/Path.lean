import GoeipProofs.Assembly

/-!
The EPATH builders (`pkg/cip/path.go`): a path is a byte slice, and each `Add*` method
appends one segment to it. Against them stands the EPATH format itself, as a segment
list, its encoding with each logical id in the narrowest form, and a parser; the
builders refine that encoding on the calls whose segment they can express.
-/

namespace GoeipProofs.Path

open GoeipProofs.Wire GoeipProofs.Message GoeipProofs.Router GoeipProofs.Assembly

/-- `SegmentTypePort` -/
def segmentTypePort : UInt8 := 0x00
/-- `SegmentTypeLogical` -/
def segmentTypeLogical : UInt8 := 0x20
/-- `LogicalTypeClass` -/
def logicalTypeClass : UInt8 := 0x00
/-- `LogicalTypeInstance` -/
def logicalTypeInstance : UInt8 := 0x04
/-- `LogicalTypeMember` -/
def logicalTypeMember : UInt8 := 0x08
/-- `LogicalTypeAttribute` -/
def logicalTypeAttribute : UInt8 := 0x10
/-- `LogicalFormat8Bit` -/
def logicalFormat8Bit : UInt8 := 0x00
/-- `LogicalFormat16Bit` -/
def logicalFormat16Bit : UInt8 := 0x01
/-- `LogicalFormat32Bit` -/
def logicalFormat32Bit : UInt8 := 0x02

/-- `NewPath` -/
def newPath : Bytes := []

/-- The body `AddClass`, `AddInstance`, `AddAttribute` and `AddMember` share: the 8-bit
form for ids up to `0xFF`, else a pad byte and the 16-bit id. -/
def addLogical (logicalType : UInt8) (p : Bytes) (id : UInt16) : Bytes :=
  if id ≤ 0xFF then
    p ++ [segmentTypeLogical ||| logicalType ||| logicalFormat8Bit] ++ [id.toUInt8]
  else
    p ++ [segmentTypeLogical ||| logicalType ||| logicalFormat16Bit] ++ [0x00] ++ putUint16 id

/-- `Path.AddClass` -/
def addClass (p : Bytes) (classID : UInt16) : Bytes := addLogical logicalTypeClass p classID

/-- `Path.AddInstance` -/
def addInstance (p : Bytes) (instanceID : UInt16) : Bytes :=
  addLogical logicalTypeInstance p instanceID

/-- `Path.AddAttribute` -/
def addAttribute (p : Bytes) (attributeID : UInt16) : Bytes :=
  addLogical logicalTypeAttribute p attributeID

/-- `Path.AddMember` -/
def addMember (p : Bytes) (memberID : UInt16) : Bytes := addLogical logicalTypeMember p memberID

/-- `Path.AddInstance32`: a third, 32-bit form above `0xFFFF`. -/
def addInstance32 (p : Bytes) (instanceID : UInt32) : Bytes :=
  if instanceID ≤ 0xFF then
    p ++ [segmentTypeLogical ||| logicalTypeInstance ||| logicalFormat8Bit] ++
      [instanceID.toUInt8]
  else if instanceID ≤ 0xFFFF then
    p ++ [segmentTypeLogical ||| logicalTypeInstance ||| logicalFormat16Bit] ++ [0x00] ++
      putUint16 instanceID.toUInt16
  else
    p ++ [segmentTypeLogical ||| logicalTypeInstance ||| logicalFormat32Bit] ++ [0x00] ++
      putUint32 instanceID

/-- `Path.AddSymbolicSegment`, with the string as its bytes: the length as one byte, and a
pad byte after an odd-length symbol. -/
def addSymbolicSegment (p : Bytes) (symbol : Bytes) : Bytes :=
  p ++ [0x91] ++ [UInt8.ofNat symbol.length] ++ symbol ++
    (if symbol.length % 2 ≠ 0 then [0x00] else [])

/-- `Path.AddPortSegment`: the port byte, with the size bit for a link address longer
than one byte, then the link address; ports from 15 up panic. -/
def addPortSegment (p : Bytes) (port : UInt16) (linkAddress : Bytes) : Except Panic Bytes :=
  if port < 15 then
    let b := segmentTypePort ||| port.toUInt8
    let b := if linkAddress.length > 1 then b ||| 0x10 else b
    .ok (p ++ [b] ++ linkAddress)
  else .error (.message "Extended port segments not implemented")

/-- One call of a path builder. -/
inductive PathCall
  | addClass (classID : UInt16)
  | addInstance (instanceID : UInt16)
  | addInstance32 (instanceID : UInt32)
  | addAttribute (attributeID : UInt16)
  | addMember (memberID : UInt16)
  | addSymbolicSegment (symbol : Bytes)
  | addPortSegment (port : UInt16) (linkAddress : Bytes)
  deriving DecidableEq, Repr

/-- A call made on the path `p`. -/
def PathCall.apply (p : Bytes) : PathCall → Except Panic Bytes
  | .addClass classID => .ok (Path.addClass p classID)
  | .addInstance instanceID => .ok (Path.addInstance p instanceID)
  | .addInstance32 instanceID => .ok (Path.addInstance32 p instanceID)
  | .addAttribute attributeID => .ok (Path.addAttribute p attributeID)
  | .addMember memberID => .ok (Path.addMember p memberID)
  | .addSymbolicSegment symbol => .ok (Path.addSymbolicSegment p symbol)
  | .addPortSegment port linkAddress => Path.addPortSegment p port linkAddress

/-- The calls made in order on `p`. -/
def build (p : Bytes) : List PathCall → Except Panic Bytes
  | [] => .ok p
  | c :: cs => do build (← c.apply p) cs

/-- The logical types the builders use. -/
inductive LogicalType
  | «class» | «instance» | member | attribute
  deriving DecidableEq, Repr

/-- The type bits of a logical segment (`001ttt ff`). -/
def LogicalType.code : LogicalType → UInt8
  | .«class» => 0x00
  | .«instance» => 0x04
  | .member => 0x08
  | .attribute => 0x10

/-- A path segment, as the builders mean it. -/
inductive Segment
  | logical (logicalType : LogicalType) (id : Nat)
  | symbolic (symbol : Bytes)
  | port (port : Nat) (linkAddress : UInt8)
  deriving DecidableEq, Repr

/-- A segment the format can hold: a 32-bit id, a symbol of at most 255 bytes, a port
below 15. -/
def Segment.Valid : Segment → Prop
  | .logical _ id => id < 2 ^ 32
  | .symbolic symbol => symbol.length < 256
  | .port portID _ => portID < 15

/-- The segment byte `001ttt ff` of a logical segment of type `t` in format `ff`. -/
def logicalByte (t : LogicalType) (format : UInt8) : UInt8 := 0x20 ||| t.code ||| format

/-- The EPATH encoding of a segment: a logical id in the narrowest of the 8-, 16- and
32-bit forms, the wider two after a pad byte; a symbol after `0x91` and its length, padded
to an even length; a port with its one-byte link address. -/
def Segment.encode : Segment → Bytes
  | .logical t id =>
      if id ≤ 0xFF then [logicalByte t 0, UInt8.ofNat id]
      else if id ≤ 0xFFFF then [logicalByte t 1, 0] ++ leBytes 2 id
      else [logicalByte t 2, 0] ++ leBytes 4 id
  | .symbolic symbol =>
      [0x91, UInt8.ofNat symbol.length] ++ symbol ++
        (if symbol.length % 2 = 1 then [0] else [])
  | .port portID linkAddress => [UInt8.ofNat portID, linkAddress]

/-- The logical type of a segment byte `001ttt ff`. -/
def LogicalType.ofCode (code : UInt8) : Option LogicalType :=
  if code = 0x00 then some .«class» else if code = 0x04 then some .«instance»
  else if code = 0x08 then some .member else if code = 0x10 then some .attribute else none

/-- The id of a logical segment of type `t` after its segment byte, in the format the
byte's low bits name. -/
def parseLogical (t : LogicalType) (format : UInt8) (rest : Bytes) : Option (Segment × Bytes) :=
  if format = 0 then
    match rest with
    | [] => none
    | id :: rest => some (.logical t id.toNat, rest)
  else if format = 1 ∧ 3 ≤ rest.length then
    some (.logical t (leValue ((rest.drop 1).take 2)), rest.drop 3)
  else if format = 2 ∧ 5 ≤ rest.length then
    some (.logical t (leValue ((rest.drop 1).take 4)), rest.drop 5)
  else none

/-- One segment at the head of `p`, and the rest. -/
def parseSegment : Bytes → Option (Segment × Bytes)
  | [] => none
  | h :: rest =>
      if h &&& 0xE0 = 0x20 then
        (LogicalType.ofCode (h &&& 0x1C)).bind fun t => parseLogical t (h &&& 0x03) rest
      else if h = 0x91 then
        match rest with
        | [] => none
        | l :: rest =>
            if l.toNat + l.toNat % 2 ≤ rest.length then
              some (.symbolic (rest.take l.toNat), rest.drop (l.toNat + l.toNat % 2))
            else none
      else if h < 0x0F then
        match rest with
        | [] => none
        | linkAddress :: rest => some (.port h.toNat linkAddress, rest)
      else none

/-- The segments of a path, one unit of fuel per segment. -/
def parseSegments : Nat → Bytes → Option (List Segment)
  | _, [] => some []
  | 0, _ :: _ => none
  | fuel + 1, p => do
      let (s, rest) ← parseSegment p
      let segs ← parseSegments fuel rest
      pure (s :: segs)

theorem length_encode (s : Segment) :
    s.encode.length % 2 = 0 ∧ 2 ≤ s.encode.length := by
  cases s with
  | logical t id => simp only [Segment.encode]; split_ifs <;> simp
  | symbolic symbol => simp only [Segment.encode]; split_ifs <;> simp <;> omega
  | port portID linkAddress => simp [Segment.encode]

theorem logicalByte_bits (t : LogicalType) :
    ∀ f ∈ ([0, 1, 2] : List UInt8), logicalByte t f &&& 0xE0 = 0x20 ∧
      LogicalType.ofCode (logicalByte t f &&& 0x1C) = some t ∧ logicalByte t f &&& 0x03 = f := by
  cases t <;> decide

theorem parseSegment_logicalByte (t : LogicalType) (f : UInt8)
    (hf : f ∈ ([0, 1, 2] : List UInt8)) (rest : Bytes) :
    parseSegment (logicalByte t f :: rest) = parseLogical t f rest := by
  obtain ⟨h1, h2, h3⟩ := logicalByte_bits t f hf
  simp only [parseSegment, h1, h2, h3, if_true, Option.some_bind]

theorem parseSegment_encode {s : Segment} (hs : s.Valid) (rest : Bytes) :
    parseSegment (s.encode ++ rest) = some (s, rest) := by
  cases s with
  | logical t id =>
      have hid : id < 2 ^ 32 := hs
      simp only [Segment.encode]
      split_ifs with h8 h16
      · rw [List.cons_append, parseSegment_logicalByte t 0 (by simp)]
        simp [parseLogical, Nat.mod_eq_of_lt (show id < 256 by omega)]
      · rw [List.append_assoc, List.cons_append, parseSegment_logicalByte t 1 (by simp)]
        simp [parseLogical, leValue_leBytes, Nat.mod_eq_of_lt (show id < 65536 by omega)]
      · rw [List.append_assoc, List.cons_append, parseSegment_logicalByte t 2 (by simp)]
        simp [parseLogical, leValue_leBytes, Nat.mod_eq_of_lt (show id < 4294967296 by omega)]
  | symbolic symbol =>
      have hl : (UInt8.ofNat symbol.length).toNat = symbol.length :=
        by simpa using Nat.mod_eq_of_lt (show symbol.length < 256 from hs)
      have hpad : (if symbol.length % 2 = 1 then [0] else [] : Bytes).length =
          symbol.length % 2 := by
        split <;> simp <;> omega
      simp only [Segment.encode, List.cons_append, List.nil_append, List.append_assoc, parseSegment]
      rw [if_neg (by decide), if_pos trivial, hl,
        if_pos (by simp only [List.length_append, hpad]; omega), List.take_left,
        ← List.drop_drop, List.drop_left, List.drop_left' hpad]
  | port portID linkAddress =>
      have hbits := (by decide : ∀ q : Fin 15, (UInt8.ofNat q.val) &&& 0xE0 ≠ 0x20 ∧
        UInt8.ofNat q.val ≠ 0x91 ∧ UInt8.ofNat q.val < 0x0F ∧ (UInt8.ofNat q.val).toNat = q.val)
        ⟨portID, hs⟩
      simp only [Segment.encode, List.cons_append, List.nil_append, parseSegment]
      rw [if_neg hbits.1, if_neg hbits.2.1, if_pos hbits.2.2.1, hbits.2.2.2]

theorem length_flatMap_encode (segs : List Segment) :
    (segs.flatMap Segment.encode).length % 2 = 0 ∧
      2 * segs.length ≤ (segs.flatMap Segment.encode).length := by
  induction segs with
  | nil => simp
  | cons s segs ih =>
      have hs := length_encode s
      simp only [List.flatMap_cons, List.length_append, List.length_cons]
      omega

theorem parseSegments_flatMap_encode {segs : List Segment} (h : ∀ s ∈ segs, s.Valid) :
    ∀ {fuel : Nat}, segs.length ≤ fuel →
      parseSegments fuel (segs.flatMap Segment.encode) = some segs := by
  induction segs with
  | nil => intro fuel _; cases fuel <;> rfl
  | cons s segs ih =>
      intro fuel hfuel
      obtain ⟨fuel, rfl⟩ : ∃ f, fuel = f + 1 := ⟨fuel - 1, by simp at hfuel; omega⟩
      have hne : s.encode ++ segs.flatMap Segment.encode ≠ [] :=
        List.append_ne_nil_of_left_ne_nil
          (List.ne_nil_of_length_pos (by have := (length_encode s).2; omega)) _
      rw [List.flatMap_cons, parseSegments.eq_3 _ _ hne,
        parseSegment_encode (h s (List.mem_cons_self _ _))]
      simp only [Option.bind_eq_bind, Option.some_bind,
        @ih (fun s hs => h s (List.mem_cons_of_mem _ hs)) fuel (by simp at hfuel; omega)]
      rfl

theorem flatMap_encode_injective {segs segs' : List Segment} (h : ∀ s ∈ segs, s.Valid)
    (h' : ∀ s ∈ segs', s.Valid)
    (heq : segs.flatMap Segment.encode = segs'.flatMap Segment.encode) : segs = segs' := by
  have hl := (length_flatMap_encode segs).2
  have hl' := (length_flatMap_encode segs').2
  have h1 := parseSegments_flatMap_encode h
    (show segs.length ≤ (segs.flatMap Segment.encode).length by omega)
  have h2 := parseSegments_flatMap_encode h'
    (show segs'.length ≤ (segs'.flatMap Segment.encode).length by omega)
  rw [← heq] at h2
  exact Option.some.inj (h1.symm.trans h2)

/-- The segment a builder call appends. -/
def PathCall.segment : PathCall → Segment
  | .addClass classID => .logical .«class» classID.toNat
  | .addInstance instanceID => .logical .«instance» instanceID.toNat
  | .addInstance32 instanceID => .logical .«instance» instanceID.toNat
  | .addAttribute attributeID => .logical .attribute attributeID.toNat
  | .addMember memberID => .logical .member memberID.toNat
  | .addSymbolicSegment symbol => .symbolic symbol
  | .addPortSegment port linkAddress => .port port.toNat (linkAddress.headD 0)

/-- The calls whose segment the format holds and the builders write as it: a symbol of at
most 255 bytes, and a port below 15 with a one-byte link address. -/
def PathCall.Expressible : PathCall → Prop
  | .addSymbolicSegment symbol => symbol.length < 256
  | .addPortSegment port linkAddress => port.toNat < 15 ∧ linkAddress.length = 1
  | _ => True

instance (c : PathCall) : Decidable c.Expressible := by
  cases c <;> unfold PathCall.Expressible <;> infer_instance

theorem PathCall.valid_segment {c : PathCall} (hc : c.Expressible) : c.segment.Valid := by
  cases c with
  | addSymbolicSegment symbol => exact hc
  | addPortSegment port linkAddress => exact hc.1
  | addInstance32 instanceID => exact instanceID.toNat_lt_size
  | addClass id | addInstance id | addAttribute id | addMember id =>
      exact Nat.lt_trans id.toNat_lt_size (by decide)

theorem addLogical_eq (t : LogicalType) (p : Bytes) (id : UInt16) :
    addLogical t.code p id = p ++ (Segment.logical t id.toNat).encode := by
  have hid := uint16_toNat_lt id
  unfold addLogical
  simp only [Segment.encode, List.append_assoc, List.singleton_append, List.cons_append,
    List.nil_append]
  by_cases h : id.toNat ≤ 0xFF
  · rw [if_pos (show id ≤ 0xFF from h), if_pos h]
    rfl
  · rw [if_neg (show ¬ id ≤ 0xFF from h), if_neg h, if_pos (show id.toNat ≤ 0xFFFF by omega)]
    rfl

theorem addInstance32_eq (p : Bytes) (instanceID : UInt32) :
    addInstance32 p instanceID = p ++ (Segment.logical .«instance» instanceID.toNat).encode := by
  have hid := uint32_toNat_lt instanceID
  unfold addInstance32
  simp only [Segment.encode, List.append_assoc, List.singleton_append, List.cons_append,
    List.nil_append]
  by_cases h8 : instanceID.toNat ≤ 0xFF
  · rw [if_pos (show instanceID ≤ 0xFF from h8), if_pos h8]
    rfl
  rw [if_neg (show ¬ instanceID ≤ 0xFF from h8), if_neg h8]
  by_cases h16 : instanceID.toNat ≤ 0xFFFF
  · rw [if_pos (show instanceID ≤ 0xFFFF from h16), if_pos h16, putUint16,
      toNat_toUInt16_of_le h16]
    rfl
  · rw [if_neg (show ¬ instanceID ≤ 0xFFFF from h16), if_neg h16]
    rfl

theorem addSymbolicSegment_eq (p symbol : Bytes) :
    addSymbolicSegment p symbol = p ++ (Segment.symbolic symbol).encode := by
  simp only [addSymbolicSegment, Segment.encode, Nat.mod_two_ne_zero, List.append_assoc,
    List.singleton_append, List.cons_append, List.nil_append]

theorem addPortSegment_eq (p : Bytes) {port : UInt16} (hp : port.toNat < 15) (a : UInt8) :
    addPortSegment p port [a] = .ok (p ++ (Segment.port port.toNat a).encode) := by
  have hb := (by decide : ∀ q : Fin 15, (0x00 ||| UInt8.ofNat q.val) = UInt8.ofNat q.val)
    ⟨port.toNat, hp⟩
  simp only [addPortSegment, if_pos (show port < 15 from hp), List.length_singleton,
    gt_iff_lt, Nat.lt_irrefl, if_false, Segment.encode, List.append_assoc,
    List.singleton_append]
  exact congrArg (fun b => Except.ok (p ++ b :: [a])) hb

theorem PathCall.apply_eq {c : PathCall} (hc : c.Expressible) (p : Bytes) :
    c.apply p = .ok (p ++ c.segment.encode) := by
  cases c with
  | addClass id => exact congrArg Except.ok (addLogical_eq .«class» p id)
  | addInstance id => exact congrArg Except.ok (addLogical_eq .«instance» p id)
  | addInstance32 id => exact congrArg Except.ok (addInstance32_eq p id)
  | addAttribute id => exact congrArg Except.ok (addLogical_eq .attribute p id)
  | addMember id => exact congrArg Except.ok (addLogical_eq .member p id)
  | addSymbolicSegment symbol => exact congrArg Except.ok (addSymbolicSegment_eq p symbol)
  | addPortSegment port linkAddress =>
      obtain ⟨hp, hl⟩ := hc
      obtain ⟨a, rfl⟩ := List.length_eq_one.mp hl
      exact addPortSegment_eq p hp a

theorem build_eq {calls : List PathCall} (h : ∀ c ∈ calls, c.Expressible) (p : Bytes) :
    build p calls = .ok (p ++ (calls.map PathCall.segment).flatMap Segment.encode) := by
  induction calls generalizing p with
  | nil => simp [build]
  | cons c calls ih =>
      rw [build, PathCall.apply_eq (h c (List.mem_cons_self _ _)), ok_bind,
        ih (fun c hc => h c (List.mem_cons_of_mem _ hc))]
      simp

/-- Every sequence of calls the format can express, from `NewPath`, builds a path of even
length whose `LenWords` counts it up to 510 bytes, and which splits in one way only into the
calls' segments, each logical id in its narrowest form. -/
theorem build_splits_into_segments {calls : List PathCall} (h : ∀ c ∈ calls, c.Expressible) :
    ∃ p, build newPath calls = .ok p ∧
      p = (calls.map PathCall.segment).flatMap Segment.encode ∧ p.length % 2 = 0 ∧
      parseSegments p.length p = some (calls.map PathCall.segment) ∧
      (∀ segs : List Segment, (∀ s ∈ segs, s.Valid) → segs.flatMap Segment.encode = p →
        segs = calls.map PathCall.segment) ∧
      (p.length ≤ 510 → (lenWords p).toNat * 2 = p.length) := by
  have hv : ∀ s ∈ calls.map PathCall.segment, s.Valid :=
    List.forall_mem_map.mpr fun c hc => PathCall.valid_segment (h c hc)
  have hl := length_flatMap_encode (calls.map PathCall.segment)
  refine ⟨_, by rw [build_eq h, newPath, List.nil_append], rfl, hl.1,
    parseSegments_flatMap_encode hv (by simp only [List.length_map] at hl ⊢; omega),
    fun segs hs heq => flatMap_encode_injective hs hv heq,
    fun hle => lenWords_toNat_mul_two hl.1 hle⟩

def sampleCalls : List PathCall :=
  [.addClass 0x04, .addInstance 0x64, .addAttribute 3, .addSymbolicSegment [0x54, 0x61, 0x67],
    .addPortSegment 1 [0]]

theorem build_splits_sampleCalls :
    (∀ c ∈ sampleCalls, c.Expressible) ∧ ∃ p, build newPath sampleCalls = .ok p ∧
      p = (sampleCalls.map PathCall.segment).flatMap Segment.encode ∧ p.length % 2 = 0 ∧
      parseSegments p.length p = some (sampleCalls.map PathCall.segment) ∧
      (∀ segs : List Segment, (∀ s ∈ segs, s.Valid) → segs.flatMap Segment.encode = p →
        segs = sampleCalls.map PathCall.segment) ∧
      (p.length ≤ 510 → (lenWords p).toNat * 2 = p.length) :=
  ⟨by decide, build_splits_into_segments (by decide)⟩

/-- A two-byte link address is written with neither its length byte nor a pad, leaving a
path of odd length; a 256-byte symbol gets the length byte 0; and 128 16-bit class
segments make a 512-byte path whose `LenWords` is 0. -/
theorem path_builders_break_word_count :
    addPortSegment newPath 1 [0x0A, 0x0B] = .ok [0x11, 0x0A, 0x0B] ∧
    (lenWords [0x11, 0x0A, 0x0B]).toNat * 2 = 4 ∧
    (addSymbolicSegment newPath (List.replicate 256 0x41)).take 2 = [0x91, 0x00] ∧
    (build newPath (List.replicate 128 (.addClass 0x100))).map lenWords = .ok 0 := by
  refine ⟨rfl, rfl, ?_, ?_⟩
  · simp only [addSymbolicSegment, newPath, List.length_replicate, List.nil_append]
    rfl
  have hlen : ∀ n, (((List.replicate n (PathCall.addClass 0x100)).map PathCall.segment).flatMap
      Segment.encode).length = 4 * n := by
    intro n
    induction n with
    | zero => rfl
    | succ n ih =>
        rw [List.replicate_succ, List.map_cons, List.flatMap_cons, List.length_append, ih,
          show (PathCall.addClass 0x100).segment.encode.length = 4 from rfl]
        omega
  rw [build_eq fun c hc => by rw [List.eq_of_mem_replicate hc]; trivial]
  simp only [Except.map, lenWords, newPath, List.nil_append, hlen]
  rfl

theorem classSegment_addClass (classID : UInt16) (q : Bytes) :
    classSegment (addClass newPath classID ++ q) = some (classID, q) := by
  by_cases h : classID ≤ 0xFF
  · rw [addClass, addLogical, if_pos h]
    show some (classID.toUInt8.toUInt16, q) = _
    rw [toUInt16_toUInt8_of_le h]
  · have hc : addClass newPath classID ++ q = 0x21 :: 0 :: (putUint16 classID ++ q) := by
      rw [addClass, addLogical, if_neg h]
      rfl
    rw [hc, classSegment, if_neg (by decide), if_pos rfl, if_neg (by simp)]
    simp [List.drop_left' (length_putUint16 classID)]

theorem instanceSegment_addInstance32 {instanceID : UInt32} (hi : instanceID.toNat ≤ 0xFFFF)
    (q : Bytes) : instanceSegment (addInstance32 [] instanceID ++ q) = .ok (instanceID, q) := by
  by_cases h8 : instanceID ≤ 0xFF
  · rw [addInstance32, if_pos h8]
    show Except.ok (instanceID.toUInt8.toUInt32, q) = _
    rw [toUInt32_toUInt8_of_le h8]
  · have hi' : addInstance32 [] instanceID ++ q =
        0x25 :: 0 :: (putUint16 instanceID.toUInt16 ++ q) := by
      rw [addInstance32, if_neg h8, if_pos (show instanceID ≤ 0xFFFF from hi)]
      rfl
    rw [hi', instanceSegment, if_neg (by decide), if_pos rfl, if_neg (by simp)]
    simp only [List.drop, uint16_putUint16_append, List.drop_left' (length_putUint16 _),
      toUInt32_toUInt16_of_le (show instanceID ≤ 0xFFFF from hi)]
    rfl

theorem instanceSegment_addInstance32_of_gt {instanceID : UInt32}
    (hi : 0xFFFF < instanceID.toNat) (q : Bytes) :
    instanceSegment (addInstance32 [] instanceID ++ q) =
      .error (cipError statusPathSegmentError) := by
  rw [addInstance32, if_neg (show ¬ instanceID ≤ 0xFF from fun h => absurd h (by
      show ¬ instanceID.toNat ≤ 255; omega)),
    if_neg (show ¬ instanceID ≤ 0xFFFF from Nat.not_le_of_lt hi)]
  rfl

theorem attributeSegment_addAttribute (attributeID : UInt16) :
    attributeSegment (addAttribute [] attributeID) = .ok attributeID := by
  by_cases h : attributeID ≤ 0xFF
  · rw [addAttribute, addLogical, if_pos h]
    show Except.ok attributeID.toUInt8.toUInt16 = _
    rw [toUInt16_toUInt8_of_le h]
  · have ha : addAttribute [] attributeID = 0x31 :: 0 :: putUint16 attributeID := by
      rw [addAttribute, addLogical, if_neg h]
      rfl
    rw [ha, attributeSegment, if_neg (by decide), if_pos rfl, if_neg (by simp)]
    simp

theorem addInstance32_append (p : Bytes) (instanceID : UInt32) :
    addInstance32 p instanceID = p ++ addInstance32 [] instanceID := by
  rw [addInstance32_eq, addInstance32_eq, List.nil_append]

theorem addAttribute_append (p : Bytes) (attributeID : UInt16) :
    addAttribute p attributeID = p ++ addAttribute [] attributeID := by
  rw [addAttribute, addAttribute, show logicalTypeAttribute = LogicalType.attribute.code from rfl,
    addLogical_eq, addLogical_eq, List.nil_append]

/-- The path `AddClass(ClassAssembly)`, `AddInstance32(instanceID)`,
`AddAttribute(attributeID)`. -/
def assemblyPath (instanceID : UInt32) (attributeID : UInt16) : Bytes :=
  addAttribute (addInstance32 (addClass newPath classAssembly) instanceID) attributeID

theorem assemblyPath_eq (instanceID : UInt32) (attributeID : UInt16) :
    assemblyPath instanceID attributeID = addClass newPath classAssembly ++
      (addInstance32 [] instanceID ++ addAttribute [] attributeID) := by
  rw [assemblyPath, addAttribute_append, addInstance32_append, List.append_assoc]

theorem requestTarget_assemblyPath {instanceID : UInt32} (hi : instanceID.toNat ≤ 0xFFFF)
    (attributeID : UInt16) :
    requestTarget (addInstance32 [] instanceID ++ addAttribute [] attributeID) =
      .ok (instanceID, attributeID) := by
  simp only [requestTarget, instanceSegment_addInstance32 hi, ok_bind,
    attributeSegment_addAttribute]
  rfl

section AssemblyRouter

variable (mr : MessageRouter AssemblyObject)
  (hmr : mr.objects classAssembly = some AssemblyObject.asObject) (ao : AssemblyObject)
include hmr

theorem dispatch_assemblyPath (service : UInt8) (instanceID : UInt32) (attributeID : UInt16)
    (data : Bytes) :
    mr.dispatch ⟨service, assemblyPath instanceID attributeID, data⟩ ao =
      (.ok (responseOf service (ao.handleRequest service
        (addInstance32 [] instanceID ++ addAttribute [] attributeID) data).1),
        (ao.handleRequest service
          (addInstance32 [] instanceID ++ addAttribute [] attributeID) data).2) := by
  rw [assemblyPath_eq]
  exact dispatch_of_registered mr ⟨service, _, data⟩ ao (classSegment_addClass _ _) hmr

theorem dispatch_assemblyPath_of_le {instanceID : UInt32} (hi : instanceID.toNat ≤ 0xFFFF)
    {attributeID : UInt16} (ha : attributeID ≠ 0) (data : Bytes) :
    mr.dispatch ⟨serviceGetAttributeSingle, assemblyPath instanceID attributeID, data⟩ ao =
        (.ok (responseOf serviceGetAttributeSingle
          (ao.getAttributeSingle instanceID attributeID)), ao) ∧
      mr.dispatch ⟨serviceSetAttributeSingle, assemblyPath instanceID attributeID, data⟩ ao =
        (.ok (responseOf serviceSetAttributeSingle
          ((ao.setAttributeSingle instanceID attributeID data).1.map fun _ => [])),
          (ao.setAttributeSingle instanceID attributeID data).2) := by
  simp only [dispatch_assemblyPath mr hmr, AssemblyObject.handleRequest, handleRequestWith,
    requestTarget_assemblyPath hi, if_neg ha]
  exact ⟨rfl, rfl⟩

theorem dispatch_assemblyPath_of_gt {instanceID : UInt32} (hi : 0xFFFF < instanceID.toNat)
    (service : UInt8) (attributeID : UInt16) (data : Bytes) :
    mr.dispatch ⟨service, assemblyPath instanceID attributeID, data⟩ ao =
      (.ok ⟨service ||| 0x80, 0, statusPathSegmentError, 0, [], []⟩, ao) := by
  simp only [dispatch_assemblyPath mr hmr, AssemblyObject.handleRequest, handleRequestWith,
    requestTarget, instanceSegment_addInstance32_of_gt hi, error_bind]
  rfl

end AssemblyRouter

/-- The router hands an object exactly the path after the class segment `AddClass` wrote;
with the Assembly object at its class, Get and Set through `AddInstance32` and
`AddAttribute` are the direct calls for instances up to `0xFFFF`, and path segment errors
above. -/
theorem dispatch_builtPath :
    (∀ {σ : Type} (mr : MessageRouter σ) {classID : UInt16} {obj : Object σ},
      mr.objects classID = some obj → ∀ (service : UInt8) (q data : Bytes) (s : σ),
        mr.dispatch ⟨service, addClass newPath classID ++ q, data⟩ s =
          (.ok (responseOf service (obj.handleRequest service q data s).1),
            (obj.handleRequest service q data s).2)) ∧
    (∀ mr : MessageRouter AssemblyObject, mr.objects classAssembly = some AssemblyObject.asObject →
      ∀ (ao : AssemblyObject) (instanceID : UInt32) (attributeID : UInt16) (data : Bytes),
        (instanceID.toNat ≤ 0xFFFF → attributeID ≠ 0 →
          mr.dispatch ⟨serviceGetAttributeSingle, assemblyPath instanceID attributeID, data⟩ ao =
              (.ok (responseOf serviceGetAttributeSingle
                (ao.getAttributeSingle instanceID attributeID)), ao) ∧
            mr.dispatch ⟨serviceSetAttributeSingle, assemblyPath instanceID attributeID, data⟩ ao =
              (.ok (responseOf serviceSetAttributeSingle
                ((ao.setAttributeSingle instanceID attributeID data).1.map fun _ => [])),
                (ao.setAttributeSingle instanceID attributeID data).2)) ∧
        (0xFFFF < instanceID.toNat → ∀ service : UInt8,
          mr.dispatch ⟨service, assemblyPath instanceID attributeID, data⟩ ao =
            (.ok ⟨service ||| 0x80, 0, statusPathSegmentError, 0, [], []⟩, ao))) :=
  ⟨fun mr classID _ h _ q _ s =>
      dispatch_of_registered mr _ s (classSegment_addClass classID q) h,
    fun mr hmr ao _ _ data => ⟨fun hi ha => dispatch_assemblyPath_of_le mr hmr ao hi ha data,
      fun hi service => dispatch_assemblyPath_of_gt mr hmr ao hi service _ data⟩⟩

def assemblyRouter : MessageRouter AssemblyObject :=
  newMessageRouter.registerObject classAssembly AssemblyObject.asObject

def narrowInstanceObject : AssemblyObject :=
  (newAssemblyObject fun _ k => k.toUInt8 + 1).registerAssembly 0xFFFF ⟨0, 0, 2⟩

theorem dispatch_builtPath_largestNarrowInstance :
    (0xFFFF : UInt32).toNat ≤ 0xFFFF ∧ (3 : UInt16) ≠ 0 ∧
      assemblyRouter.dispatch ⟨serviceGetAttributeSingle, assemblyPath 0xFFFF 3, [5, 6]⟩
          narrowInstanceObject =
        (.ok (responseOf serviceGetAttributeSingle
          (narrowInstanceObject.getAttributeSingle 0xFFFF 3)),
          narrowInstanceObject) ∧
      assemblyRouter.dispatch ⟨serviceSetAttributeSingle, assemblyPath 0xFFFF 3, [5, 6]⟩
          narrowInstanceObject =
        (.ok (responseOf serviceSetAttributeSingle
          ((narrowInstanceObject.setAttributeSingle 0xFFFF 3 [5, 6]).1.map fun _ => [])),
          (narrowInstanceObject.setAttributeSingle 0xFFFF 3 [5, 6]).2) :=
  ⟨by decide, by decide,
    (dispatch_builtPath.2 assemblyRouter rfl narrowInstanceObject 0xFFFF 3 [5, 6]).1 (by decide)
      (by decide)⟩

def wideInstanceObject : AssemblyObject :=
  (newAssemblyObject fun _ k => k.toUInt8 + 1).registerAssembly 0x10000 ⟨0, 0, 2⟩

/-- Instance `0x10000` read through the built path is a path segment error, read directly
its data. -/
theorem dispatch_wide_instance_path_segment_error :
    assemblyRouter.dispatch ⟨serviceGetAttributeSingle, assemblyPath 0x10000 3, []⟩
        wideInstanceObject =
      (.ok ⟨0x8E, 0, statusPathSegmentError, 0, [], []⟩, wideInstanceObject) ∧
    wideInstanceObject.getAttributeSingle 0x10000 3 = .ok [1, 2] :=
  ⟨rfl, rfl⟩

end GoeipProofs.Path
