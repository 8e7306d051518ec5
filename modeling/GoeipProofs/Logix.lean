import GoeipProofs.Wire

/-!
The Logix `TIMER` and `COUNTER` structures (`DecodeTimer` / `Timer.MarshalCIP` in
`pkg/cip`, `DecodeCounter` / `Counter.MarshalCIP` in `pkg/client`): fourteen bytes, two
reserved, then a status word whose top bits are the flags, then `PRE` and `ACC`. The two
codecs share the layout and differ in their flags, so the layout and the flag word are
defined once and each structure applies them to its own bit positions.
-/

namespace GoeipProofs.Logix

open GoeipProofs.Wire

/-- `if flag { status |= 1 << pos }` -/
def setFlag (status : UInt32) (flag : Bool) (pos : UInt32) : UInt32 :=
  if flag then status ||| (1 <<< pos) else status

/-- `(status & (1 << pos)) != 0` -/
def testFlag (status : UInt32) (pos : UInt32) : Bool := status &&& (1 <<< pos) != 0

/-- The status word a `MarshalCIP` builds from zero, one `if` per flag, in order. -/
def statusWord (flags : List (Bool × UInt32)) : UInt32 :=
  flags.foldl (fun status flag => setFlag status flag.1 flag.2) 0

theorem getLsbD_one_shiftLeft (pos : UInt32) (j : Nat) :
    ((1 : UInt32) <<< pos).toBitVec.getLsbD j =
      (decide (j < 32) && decide (pos.toNat % 32 = j)) := by
  show (1#32 <<< (UInt32.mod pos 32).toBitVec).getLsbD j = _
  rw [BitVec.shiftLeft_eq', BitVec.getLsbD_shiftLeft, BitVec.getLsbD_one]
  have : (UInt32.mod pos 32).toBitVec.toNat = pos.toNat % 32 := rfl
  rw [this]
  by_cases hj : j < 32 <;> simp only [hj, decide_True, decide_False, Bool.true_and, Bool.false_and]
  rw [Bool.eq_iff_iff]
  simp only [Bool.and_eq_true, Bool.not_eq_true', decide_eq_false_iff_not, decide_eq_true_eq]
  omega

theorem land_one_shiftLeft (status pos : UInt32) :
    status &&& (1 <<< pos) =
      if status.toBitVec.getLsbD (pos.toNat % 32) then 1 <<< pos else 0 := by
  apply UInt32.eq_of_toBitVec_eq
  apply BitVec.eq_of_getLsbD_eq
  intro i
  show (status.toBitVec &&& ((1 : UInt32) <<< pos).toBitVec).getLsbD i = _
  rw [BitVec.getLsbD_and, getLsbD_one_shiftLeft]
  by_cases hi : pos.toNat % 32 = i
  · rw [hi]
    split <;> simp_all [getLsbD_one_shiftLeft]
  · split <;> simp [hi, getLsbD_one_shiftLeft]

theorem one_shiftLeft_ne_zero (pos : UInt32) : (1 : UInt32) <<< pos ≠ 0 := by
  intro h
  have := getLsbD_one_shiftLeft pos (pos.toNat % 32)
  rw [h] at this
  simp at this
  omega

theorem testFlag_eq (status pos : UInt32) :
    testFlag status pos = status.toBitVec.getLsbD (pos.toNat % 32) := by
  unfold testFlag
  rw [land_one_shiftLeft]
  split <;> simp_all [one_shiftLeft_ne_zero]

theorem getLsbD_foldl_setFlag (flags : List (Bool × UInt32)) (acc : UInt32) {j : Nat}
    (hj : j < 32) :
    (flags.foldl (fun status flag => setFlag status flag.1 flag.2) acc).toBitVec.getLsbD j =
      (acc.toBitVec.getLsbD j ||
        flags.any fun flag => flag.1 && decide (flag.2.toNat % 32 = j)) := by
  induction flags generalizing acc with
  | nil => simp
  | cons flag flags ih =>
      rw [List.foldl_cons, ih, List.any_cons, ← Bool.or_assoc]
      congr 1
      unfold setFlag
      split
      · show (acc.toBitVec ||| ((1 : UInt32) <<< flag.2).toBitVec).getLsbD j = _
        simp_all [getLsbD_one_shiftLeft]
      · simp_all

theorem statusWord_testFlag (status : UInt32) (positions : List UInt32) :
    statusWord (positions.map fun pos => (testFlag status pos, pos)) =
      status &&& statusWord (positions.map fun pos => (true, pos)) := by
  apply UInt32.eq_of_toBitVec_eq
  apply BitVec.eq_of_getLsbD_eq
  intro i
  show _ = (status.toBitVec &&& _).getLsbD i
  rw [BitVec.getLsbD_and, statusWord, statusWord, getLsbD_foldl_setFlag _ _ i.isLt,
    getLsbD_foldl_setFlag _ _ i.isLt]
  have h0 : (UInt32.toBitVec 0).getLsbD i = false := BitVec.getLsbD_zero
  rw [Bool.eq_iff_iff]
  simp only [h0, Bool.false_or, Bool.and_eq_true, List.any_eq_true, List.mem_map,
    decide_eq_true_eq, testFlag_eq]
  constructor
  · rintro ⟨_, ⟨pos, hpos, rfl⟩, hbit, hi⟩
    exact ⟨hi ▸ hbit, _, ⟨pos, hpos, rfl⟩, rfl, hi⟩
  · rintro ⟨hbit, _, ⟨pos, hpos, rfl⟩, -, hi⟩
    exact ⟨_, ⟨pos, hpos, rfl⟩, hi ▸ hbit, hi⟩

/-- `int32(u)` of a `uint32`: a Go `int32` is kept as its two's-complement bits. -/
def int32 (u : UInt32) : BitVec 32 := u.toBitVec

/-- `binary.Write` of an `int32`, least significant byte first. -/
def putInt32 (v : BitVec 32) : Bytes := putUint32 ⟨v⟩

/-- The decode `DecodeTimer` and `DecodeCounter` share: the length check with the member's
error text, then the status word (`uint32(int32(...))` of bytes 2-5), `PRE` (bytes 6-9) and
`ACC` (bytes 10-13). -/
def decodeLayout (format : String) (data : Bytes) :
    Except GoError (UInt32 × BitVec 32 × BitVec 32) :=
  if data.length < 14 then .error (.errorf format [data.length])
  else
    let status := int32 (uint32 (data.drop 2))
    let pre := int32 (uint32 (data.drop 6))
    let acc := int32 (uint32 (data.drop 10))
    .ok (⟨status⟩, pre, acc)

/-- The bytes both `MarshalCIP`s write into a `bytes.Buffer` (which cannot fail): a
reserved zero `uint16`, the status word, `PRE` and `ACC`. -/
def marshalLayout (status : UInt32) (pre acc : BitVec 32) : Bytes :=
  putUint16 0 ++ putUint32 status ++ putInt32 pre ++ putInt32 acc

theorem decodeLayout_of_lt (format : String) {data : Bytes} (h : data.length < 14) :
    decodeLayout format data = .error (.errorf format [data.length]) :=
  if_pos h

theorem decodeLayout_of_le (format : String) {data : Bytes} (h : 14 ≤ data.length) :
    decodeLayout format data =
      .ok (uint32 (data.drop 2), int32 (uint32 (data.drop 6)), int32 (uint32 (data.drop 10))) :=
  if_neg (by omega)

theorem decodeLayout_isOk_iff (format : String) (data : Bytes) :
    (∃ v, decodeLayout format data = .ok v) ↔ 14 ≤ data.length := by
  by_cases h : 14 ≤ data.length
  · simp [decodeLayout_of_le format h, h]
  · simp [decodeLayout_of_lt format (Nat.lt_of_not_le h), h]

theorem decodeLayout_marshalLayout (format : String) (status : UInt32) (pre acc : BitVec 32) :
    decodeLayout format (marshalLayout status pre acc) = .ok (status, pre, acc) := by
  have hlen : (marshalLayout status pre acc).length = 14 := by
    simp [marshalLayout, putInt32]
  rw [decodeLayout_of_le _ (by omega), marshalLayout, putInt32, putInt32,
    show 6 = 2 + 4 from rfl, show 10 = 2 + 4 + 4 from rfl, ← List.drop_drop, ← List.drop_drop,
    ← List.drop_drop]
  simp only [List.append_assoc, List.drop_left' (length_putUint16 0),
    List.drop_left' (length_putUint32 _), uint32_putUint32_append, uint32_putUint32, int32]

theorem marshalLayout_of_decodeLayout (status : UInt32) {data : Bytes} (h : 14 ≤ data.length) :
    marshalLayout status (int32 (uint32 (data.drop 6))) (int32 (uint32 (data.drop 10))) =
      [0, 0] ++ putUint32 status ++ (data.drop 6).take 8 := by
  have h6 : (data.drop 6).take 8 = (data.drop 6).take 4 ++ (data.drop 10).take 4 := by
    rw [show 8 = 4 + 4 from rfl, List.take_add, List.drop_drop]
  rw [marshalLayout, putInt32, putInt32, int32, int32, putUint32_uint32 (by simp; omega),
    putUint32_uint32 (by simp; omega), h6, List.append_assoc]
  rfl

/-- `Timer`: `PRE` and `ACC` are `int32`. -/
structure Timer where
  pre : BitVec 32
  acc : BitVec 32
  en : Bool
  tt : Bool
  dn : Bool
  deriving DecidableEq, Repr

/-- `TimerStatusEN` -/
def timerStatusEN : UInt32 := 31
/-- `TimerStatusTT` -/
def timerStatusTT : UInt32 := 30
/-- `TimerStatusDN` -/
def timerStatusDN : UInt32 := 29

/-- `DecodeTimer` -/
def decodeTimer (data : Bytes) : Except GoError Timer :=
  (decodeLayout "insufficient data for Timer: expected at least 14 bytes, got %d" data).map
    fun (statusU, pre, acc) => ⟨pre, acc, testFlag statusU timerStatusEN,
      testFlag statusU timerStatusTT, testFlag statusU timerStatusDN⟩

/-- `Timer.UnmarshalCIP`: the receiver is replaced only when the decode succeeds. -/
def Timer.unmarshalCIP (t : Timer) (data : Bytes) : Except GoError Unit × Timer :=
  match decodeTimer data with
  | .error e => (.error e, t)
  | .ok decoded => (.ok (), decoded)

/-- `Timer.MarshalCIP` -/
def Timer.marshalCIP (t : Timer) : Bytes :=
  marshalLayout (statusWord [(t.en, timerStatusEN), (t.tt, timerStatusTT), (t.dn, timerStatusDN)])
    t.pre t.acc

/-- `Counter`: `PRE` and `ACC` are `int32`. -/
structure Counter where
  pre : BitVec 32
  acc : BitVec 32
  cu : Bool
  cd : Bool
  dn : Bool
  ov : Bool
  un : Bool
  deriving DecidableEq, Repr

/-- `CounterStatusCU` -/
def counterStatusCU : UInt32 := 31
/-- `CounterStatusCD` -/
def counterStatusCD : UInt32 := 30
/-- `CounterStatusDN` -/
def counterStatusDN : UInt32 := 29
/-- `CounterStatusOV` -/
def counterStatusOV : UInt32 := 28
/-- `CounterStatusUN` -/
def counterStatusUN : UInt32 := 27

/-- `DecodeCounter` -/
def decodeCounter (data : Bytes) : Except GoError Counter :=
  (decodeLayout "insufficient data for Counter: expected at least 14 bytes, got %d" data).map
    fun (statusU, pre, acc) => ⟨pre, acc, testFlag statusU counterStatusCU,
      testFlag statusU counterStatusCD, testFlag statusU counterStatusDN,
      testFlag statusU counterStatusOV, testFlag statusU counterStatusUN⟩

/-- `Counter.UnmarshalCIP`: the receiver is replaced only when the decode succeeds. -/
def Counter.unmarshalCIP (c : Counter) (data : Bytes) : Except GoError Unit × Counter :=
  match decodeCounter data with
  | .error e => (.error e, c)
  | .ok decoded => (.ok (), decoded)

/-- `Counter.MarshalCIP` -/
def Counter.marshalCIP (c : Counter) : Bytes :=
  marshalLayout (statusWord [(c.cu, counterStatusCU), (c.cd, counterStatusCD),
    (c.dn, counterStatusDN), (c.ov, counterStatusOV), (c.un, counterStatusUN)]) c.pre c.acc

theorem testFlag_statusWord_timer (en tt dn : Bool) :
    [timerStatusEN, timerStatusTT, timerStatusDN].map
        (testFlag (statusWord [(en, timerStatusEN), (tt, timerStatusTT), (dn, timerStatusDN)])) =
      [en, tt, dn] := by
  cases en <;> cases tt <;> cases dn <;> decide

theorem decodeTimer_marshalCIP (t : Timer) : decodeTimer t.marshalCIP = .ok t := by
  obtain ⟨pre, acc, en, tt, dn⟩ := t
  have hflags := testFlag_statusWord_timer en tt dn
  simp only [List.map_cons, List.map_nil, List.cons.injEq, and_true] at hflags
  simp only [decodeTimer, Timer.marshalCIP, decodeLayout_marshalLayout, Except.map, hflags]

theorem testFlag_statusWord_counter (cu cd dn ov un : Bool) :
    [counterStatusCU, counterStatusCD, counterStatusDN, counterStatusOV, counterStatusUN].map
        (testFlag (statusWord [(cu, counterStatusCU), (cd, counterStatusCD),
          (dn, counterStatusDN), (ov, counterStatusOV), (un, counterStatusUN)])) =
      [cu, cd, dn, ov, un] := by
  cases cu <;> cases cd <;> cases dn <;> cases ov <;> cases un <;> decide

theorem decodeCounter_marshalCIP (c : Counter) : decodeCounter c.marshalCIP = .ok c := by
  obtain ⟨pre, acc, cu, cd, dn, ov, un⟩ := c
  have hflags := testFlag_statusWord_counter cu cd dn ov un
  simp only [List.map_cons, List.map_nil, List.cons.injEq, and_true] at hflags
  simp only [decodeCounter, Counter.marshalCIP, decodeLayout_marshalLayout, Except.map, hflags]

theorem marshalCIP_decodeTimer {data : Bytes} (h : 14 ≤ data.length) :
    (decodeTimer data).map Timer.marshalCIP =
      .ok ([0, 0] ++ putUint32 (uint32 (data.drop 2) &&& 0xE0000000) ++ (data.drop 6).take 8) := by
  rw [decodeTimer, decodeLayout_of_le _ h]
  show Except.ok (marshalLayout (statusWord ([timerStatusEN, timerStatusTT, timerStatusDN].map
    fun pos => (testFlag (uint32 (data.drop 2)) pos, pos))) _ _) = _
  rw [statusWord_testFlag, marshalLayout_of_decodeLayout _ h]
  rfl

theorem marshalCIP_decodeCounter {data : Bytes} (h : 14 ≤ data.length) :
    (decodeCounter data).map Counter.marshalCIP =
      .ok ([0, 0] ++ putUint32 (uint32 (data.drop 2) &&& 0xF8000000) ++ (data.drop 6).take 8) := by
  rw [decodeCounter, decodeLayout_of_le _ h]
  show Except.ok (marshalLayout (statusWord ([counterStatusCU, counterStatusCD, counterStatusDN,
    counterStatusOV, counterStatusUN].map
    fun pos => (testFlag (uint32 (data.drop 2)) pos, pos))) _ _) = _
  rw [statusWord_testFlag, marshalLayout_of_decodeLayout _ h]
  rfl


theorem decodeTimer_isOk_iff (data : Bytes) :
    (∃ t, decodeTimer data = .ok t) ↔ 14 ≤ data.length := by
  rw [← decodeLayout_isOk_iff "insufficient data for Timer: expected at least 14 bytes, got %d"]
  unfold decodeTimer
  cases decodeLayout _ data <;> simp [Except.map]

theorem decodeCounter_isOk_iff (data : Bytes) :
    (∃ c, decodeCounter data = .ok c) ↔ 14 ≤ data.length := by
  rw [← decodeLayout_isOk_iff "insufficient data for Counter: expected at least 14 bytes, got %d"]
  unfold decodeCounter
  cases decodeLayout _ data <;> simp [Except.map]

/-- Both codecs are exact on their values and, on bytes, keep all but the reserved word and
the status bits that are not flags; both decoders fail exactly on fewer than 14 bytes. -/
theorem timer_counter_codecs :
    (∀ t : Timer, decodeTimer t.marshalCIP = .ok t) ∧
    (∀ c : Counter, decodeCounter c.marshalCIP = .ok c) ∧
    (∀ data : Bytes, 14 ≤ data.length →
      (decodeTimer data).map Timer.marshalCIP =
          .ok ([0, 0] ++ putUint32 (uint32 (data.drop 2) &&& 0xE0000000) ++ (data.drop 6).take 8) ∧
        (decodeCounter data).map Counter.marshalCIP =
          .ok ([0, 0] ++ putUint32 (uint32 (data.drop 2) &&& 0xF8000000) ++ (data.drop 6).take 8)) ∧
    (∀ data : Bytes, ((∃ t, decodeTimer data = .ok t) ↔ 14 ≤ data.length) ∧
      ((∃ c, decodeCounter data = .ok c) ↔ 14 ≤ data.length)) :=
  ⟨decodeTimer_marshalCIP, decodeCounter_marshalCIP,
    fun _ h => ⟨marshalCIP_decodeTimer h, marshalCIP_decodeCounter h⟩,
    fun data => ⟨decodeTimer_isOk_iff data, decodeCounter_isOk_iff data⟩⟩

end GoeipProofs.Logix
