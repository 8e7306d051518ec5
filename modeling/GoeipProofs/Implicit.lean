import GoeipProofs.Assembly

/-!
The I/O runtime (`pkg/runtime/runtime.go`): the connection map by connection id,
`AddConnection`, `RemoveConnection`, the watchdog's `checkTimeouts` and the UDP
ingress `handlePacket`. Each operation runs as one atomic step on the runtime's
state; times are nanosecond counts and `time.Now()` is the step's time. A received
datagram is a Go slice into the 2048-byte read buffer, so slicing may reach past
its length into the rest of the buffer.
-/

namespace GoeipProofs.Implicit

open GoeipProofs.Wire GoeipProofs.Assembly

/-- A `time.Time`, in nanoseconds. -/
abbrev Time := Int
/-- A `time.Duration`, in nanoseconds. -/
abbrev Duration := Int

/-- The `int64` value of an integer: two's complement wrap-around. -/
def wrapInt64 (x : Int) : Int := (x + 2 ^ 63) % 2 ^ 64 - 2 ^ 63

/-- `Time.Sub` (and `time.Since`): the difference, saturated to the range of `Duration`. -/
def timeSub (t u : Time) : Duration := max (-2 ^ 63) (min (2 ^ 63 - 1) (t - u))

/-- A `*net.UDPAddr`, by identity. -/
abbrev UDPAddr := Nat

/-- `IOConnection`; `Assembly` is the instance it points to. -/
structure IOConnection where
  connectionID : UInt32
  rpi : Duration
  sequenceCount : UInt16
  runIdleHeader : Bool
  remoteAddr : Option UDPAddr
  assembly : Option AssemblyInstance
  lastReceive : Time
  lastSend : Time
  timeoutMult : UInt8
  isProducer : Bool
  isConsumer : Bool
  deriving DecidableEq, Repr, Inhabited

/-- `Runtime`: the connection map and the Assembly object, whose memory holds every
slice. -/
structure Runtime where
  connections : UInt32 → Option IOConnection
  assemblyObj : AssemblyObject

/-- `NewRuntime` -/
def newRuntime (ao : AssemblyObject) : Runtime := ⟨fun _ => none, ao⟩

namespace Runtime

/-- `Runtime.AddConnection` at time `now`. -/
def addConnection (rt : Runtime) (now : Time) (conn : IOConnection) : Runtime :=
  { rt with connections :=
      Function.update rt.connections conn.connectionID (some { conn with lastReceive := now }) }

/-- `Runtime.RemoveConnection` -/
def removeConnection (rt : Runtime) (connID : UInt32) : Runtime :=
  { rt with connections := Function.update rt.connections connID none }

/-- The watchdog window of `checkTimeouts`: `RPI * Duration(uint64(4) << TimeoutMult)`,
in `int64` arithmetic. -/
def timeoutOf (conn : IOConnection) : Duration :=
  wrapInt64 (conn.rpi * wrapInt64 ((4 * 2 ^ conn.timeoutMult.toNat) % 2 ^ 64 : Nat))

/-- `Runtime.checkTimeouts` at time `now`: every consumer silent for longer than its
window is deleted; the decision for an entry reads only that entry, so the order of
the map iteration does not matter. -/
def checkTimeouts (rt : Runtime) (now : Time) : Runtime :=
  { rt with connections := fun id =>
      match rt.connections id with
      | none => none
      | some conn =>
          if conn.isConsumer ∧ timeSub now conn.lastReceive > timeoutOf conn then none
          else some conn }

end Runtime

/-- The header of an implicit datagram as the producer lays it out: the item count, the
connected address item naming the connection, then the connected data item's type,
length and sequence count, and the Run/Idle header when there is one; `n` bytes of
assembly data follow it. -/
def ioHeader (connID : UInt32) (seq : UInt16) (runIdle : Bool) (n : Nat) : Bytes :=
  putUint16 2 ++ putUint16 0x00A1 ++ putUint16 4 ++ putUint32 connID ++ putUint16 0x00B1 ++
    putUint16 (UInt16.ofNat (2 + (if runIdle then 4 else 0) + n)) ++ putUint16 seq ++
    (if runIdle then putUint32 1 else [])

@[simp] theorem length_runIdle (runIdle : Bool) :
    (if runIdle then putUint32 1 else []).length = if runIdle then 4 else 0 := by
  cases runIdle <;> rfl

@[simp] theorem length_ioHeader (connID : UInt32) (seq : UInt16) (runIdle : Bool) (n : Nat) :
    (ioHeader connID seq runIdle n).length = 16 + (if runIdle then 4 else 0) := by
  cases runIdle <;> simp [ioHeader]

theorem length_ioPayload (seq : UInt16) (runIdle : Bool) (d : Bytes) :
    (putUint16 seq ++ (if runIdle then putUint32 1 else []) ++ d).length =
      2 + (if runIdle then 4 else 0) + d.length := by
  rw [List.length_append, List.length_append, length_putUint16, length_runIdle]

/-- A Go byte slice: the bytes it shows, and the bytes of its backing array past its
length up to its capacity. -/
structure GoSlice where
  visible : Bytes
  spare : Bytes
  deriving DecidableEq, Repr

namespace GoSlice

/-- `len(s)` -/
def len (s : GoSlice) : Nat := s.visible.length

/-- `s[a:b]`: allowed up to the capacity, as Go allows. -/
def slice (s : GoSlice) (a b : Nat) : Except Panic Bytes :=
  if a ≤ b ∧ b ≤ s.visible.length + s.spare.length then
    .ok (((s.visible ++ s.spare).drop a).take (b - a))
  else .error .sliceBounds

theorem slice_of_le (s : GoSlice) {a b : Nat} (hab : a ≤ b) (hb : b ≤ s.visible.length) :
    s.slice a b = .ok ((s.visible.drop a).take (b - a)) := by
  rw [slice, if_pos ⟨hab, by omega⟩, List.drop_append_of_le_length (by omega),
    List.take_append_of_le_length (by simp; omega)]

end GoSlice

/-- `Runtime.handlePacket` at time `now`: parse the item count, the address item and
the data item length, refresh the watchdog of the connection it names, skip the
Run/Idle header if the connection has one, and write the rest to the connection's
assembly instance through `SetAttributeSingle`. -/
def Runtime.handlePacket (rt : Runtime) (now : Time) (data : GoSlice) :
    Except Panic Runtime := do
  if data.len < 6 then return rt
  let itemCount ← data.slice 0 2
  if uint16 itemCount ≠ 2 then return rt
  let offset := 2 + 2
  let len1 ← data.slice offset (offset + 2)
  let offset := offset + 2
  if uint16 len1 ≠ 4 then return rt
  let connID ← data.slice offset (offset + 4)
  let offset := offset + 4 + 2
  let len2 ← data.slice offset (offset + 2)
  let offset := offset + 2
  if data.len < offset + (uint16 len2).toNat then return rt
  let payload ← data.slice offset (offset + (uint16 len2).toNat)
  match rt.connections (uint32 connID) with
  | none => return rt
  | some conn =>
      let conns := Function.update rt.connections (uint32 connID)
        (some { conn with lastReceive := now })
      let rt := { rt with connections := conns }
      if conn.runIdleHeader ∧ payload.length < 4 then return rt
      let dataOffset := if conn.runIdleHeader then 4 else 0
      match conn.assembly with
      | none => return rt
      | some inst =>
          return { rt with assemblyObj :=
            (rt.assemblyObj.setAttributeSingle inst.id 3 (payload.drop dataOffset)).2 }

theorem slices_ioFrame (c : UInt32) (seq : UInt16) (h : Bool) (d spare : Bytes) :
    let s : GoSlice := ⟨ioHeader c seq h d.length ++ d, spare⟩
    let dataLen := 2 + (if h then 4 else 0) + d.length
    s.slice 0 2 = .ok (putUint16 2) ∧ s.slice 4 6 = .ok (putUint16 4) ∧
      s.slice 6 10 = .ok (putUint32 c) ∧
      s.slice 12 14 = .ok (putUint16 (UInt16.ofNat dataLen)) ∧
      s.slice 14 (14 + dataLen) = .ok (putUint16 seq ++ (if h then putUint32 1 else []) ++ d) := by
  have hlen : (ioHeader c seq h d.length ++ d).length =
      14 + (2 + (if h then 4 else 0) + d.length) := by
    rw [List.length_append, length_ioHeader]; omega
  have hpayload : (ioHeader c seq h d.length ++ d).drop 14 =
      putUint16 seq ++ (if h then putUint32 1 else []) ++ d := rfl
  refine ⟨?_, ?_, ?_, ?_, ?_⟩ <;> rw [GoSlice.slice_of_le _ (by omega) (by rw [hlen] <;> omega)]
  case refine_5 =>
    rw [hpayload, Nat.add_sub_cancel_left, List.take_of_length_le (length_ioPayload seq h d).le]
  -- the header's first 14 bytes are cons cells whatever the connection, so the rest computes
  all_goals rfl

theorem handlePacket_ioFrame (rt : Runtime) (now : Time) (c : UInt32) (seq : UInt16) (h : Bool)
    (d spare : Bytes) (hn : d.length ≤ 2032) :
    rt.handlePacket now ⟨ioHeader c seq h d.length ++ d, spare⟩ =
      match rt.connections c with
      | none => .ok rt
      | some conn =>
          let rt₁ := { rt with
            connections :=
              Function.update rt.connections c (some { conn with lastReceive := now }) }
          if conn.runIdleHeader ∧ 2 + (if h then 4 else 0) + d.length < 4 then .ok rt₁ else
          match conn.assembly with
          | none => .ok rt₁
          | some inst => .ok { rt₁ with
              assemblyObj := (rt.assemblyObj.setAttributeSingle inst.id 3
                ((putUint16 seq ++ (if h then putUint32 1 else []) ++ d).drop
                  (if conn.runIdleHeader then 4 else 0))).2 } := by
  obtain ⟨h02, h46, h610, h1214, hpayload⟩ := slices_ioFrame c seq h d spare
  have hlen : (ioHeader c seq h d.length ++ d).length = 16 + (if h then 4 else 0) + d.length := by
    simp
  have hdataLen : (UInt16.ofNat (2 + (if h then 4 else 0) + d.length)).toNat =
      2 + (if h then 4 else 0) + d.length := by
    rw [uint16_toNat_ofNat, Nat.mod_eq_of_lt (by split <;> omega)]
  simp only [Runtime.handlePacket, GoSlice.len, hlen, length_ioPayload, h02, h46, h610, h1214,
    ok_bind, uint16_putUint16, uint32_putUint32, hdataLen, hpayload, ne_eq, not_true_eq_false,
    if_false, pure_bind, Nat.reduceAdd]
  rw [if_neg (by omega), if_neg (by omega)]
  rfl

/-- What `handlePacket` does with the datagram `d`, read from the bytes of `d` alone. -/
def ingress (rt : Runtime) (now : Time) (d : Bytes) : Runtime :=
  if d.length < 6 then rt
  else if uint16 d ≠ 2 then rt
  else if uint16 (d.drop 4) ≠ 4 then rt
  else if d.length < 14 + (uint16 (d.drop 12)).toNat then rt
  else
    let payload := (d.drop 14).take (uint16 (d.drop 12)).toNat
    match rt.connections (uint32 (d.drop 6)) with
    | none => rt
    | some conn =>
        let rt := { rt with
          connections := Function.update rt.connections (uint32 (d.drop 6))
            (some { conn with lastReceive := now }) }
        if conn.runIdleHeader ∧ payload.length < 4 then rt else
        match conn.assembly with
        | none => rt
        | some inst => { rt with assemblyObj := (rt.assemblyObj.setAttributeSingle inst.id 3
            (payload.drop (if conn.runIdleHeader then 4 else 0))).2 }

/-- With room for the 14 header bytes in the slice's capacity, `handlePacket` does not
panic and computes `ingress`: for a datagram of 6 to 13 bytes it slices the connection id
and the data length from past its end, but the length check then drops the datagram. -/
theorem handlePacket_eq_ingress (rt : Runtime) (now : Time) (s : GoSlice)
    (hcap : 14 ≤ s.visible.length + s.spare.length) :
    rt.handlePacket now s = .ok (ingress rt now s.visible) := by
  obtain ⟨d, sp⟩ := s
  simp only at hcap ⊢
  have hslice : ∀ a b, a ≤ b → b ≤ 14 → ∃ x, GoSlice.slice ⟨d, sp⟩ a b = .ok x ∧
      (b ≤ d.length → x = (d.drop a).take (b - a)) := by
    intro a b hab hb
    refine ⟨_, if_pos ⟨hab, by simp only; omega⟩, fun hbd => ?_⟩
    simp only at hbd ⊢
    rw [List.drop_append_of_le_length (by omega), List.take_append_of_le_length (by simp; omega)]
  unfold Runtime.handlePacket ingress
  simp only [GoSlice.len]
  by_cases h6 : d.length < 6
  · simp only [if_pos h6]; rfl
  obtain ⟨c, hc, hc'⟩ := hslice 0 2 (by omega) (by omega)
  obtain ⟨l1, hl1, hl1'⟩ := hslice 4 6 (by omega) (by omega)
  obtain ⟨i, hi, hi'⟩ := hslice 6 10 (by omega) (by omega)
  obtain ⟨l2, hl2, hl2'⟩ := hslice 12 14 (by omega) (by omega)
  rw [hc' (by omega), List.drop_zero] at hc
  rw [hl1' (by omega)] at hl1
  simp only [if_neg h6, hc, hl1, hi, hl2, ok_bind, uint16_take _ (le_refl 2), pure_bind,
    Nat.reduceAdd]
  by_cases h2 : uint16 d ≠ 2
  · simp only [if_pos h2]; rfl
  rw [if_neg h2, if_neg h2]
  by_cases h4 : uint16 (d.drop 4) ≠ 4
  · simp only [if_pos h4]; rfl
  rw [if_neg h4, if_neg h4]
  by_cases h14 : d.length < 14
  · rw [if_pos (by omega), if_pos (by omega)]; rfl
  rw [hi' (by omega), hl2' (by omega), uint32_take _ (le_refl 4), uint16_take _ (le_refl 2)]
  by_cases hlen : d.length < 14 + (uint16 (d.drop 12)).toNat
  · rw [if_pos hlen, if_pos hlen]; rfl
  rw [if_neg hlen, if_neg hlen, GoSlice.slice_of_le _ (by omega) (by simp only; omega), ok_bind,
    Nat.add_sub_cancel_left]
  cases rt.connections (uint32 (d.drop 6)) with
  | none => rfl
  | some conn =>
      dsimp only
      by_cases hh : conn.runIdleHeader ∧ ((d.drop 14).take (uint16 (d.drop 12)).toNat).length < 4
      · rw [if_pos hh, if_pos hh]; rfl
      · rw [if_neg hh, if_neg hh]; cases conn.assembly <;> rfl

theorem ingress_of_length_lt {rt : Runtime} {now : Time} {d : Bytes} (hd : d.length < 14) :
    ingress rt now d = rt := by
  have h : d.length < 14 + (uint16 (d.drop 12)).toNat := by omega
  simp only [ingress, h, if_true, ite_self]

def idleConsumer : IOConnection :=
  { connectionID := 0x1001, rpi := 10000000, sequenceCount := 0, runIdleHeader := true,
    remoteAddr := none, assembly := some ⟨0x64, ⟨0, 0, 1⟩⟩, lastReceive := 0, lastSend := 0,
    timeoutMult := 0, isProducer := false, isConsumer := true }

def idleConsumerRuntime : Runtime :=
  ⟨fun id => if id = 0x1001 then some idleConsumer else none,
    (newAssemblyObject fun _ _ => 0).registerAssembly 0x64 ⟨0, 0, 1⟩⟩

def idleDatagram : Bytes :=
  putUint16 2 ++ putUint16 0x00A1 ++ putUint16 4 ++ putUint32 0x1001 ++ putUint16 0x00B1 ++
    putUint16 5 ++ putUint32 0 ++ [7]

/-- In the listen loop, whose 2048-byte buffer leaves at least 14 bytes of capacity,
`handlePacket` never panics, its outcome does not depend on the buffer past the
datagram, and a datagram shorter than 14 bytes changes nothing. -/
theorem handlePacket_reads_only_datagram (rt : Runtime) (now : Time) (d spare : Bytes)
    (hcap : 14 ≤ d.length + spare.length) :
    (∃ rt', rt.handlePacket now ⟨d, spare⟩ = .ok rt') ∧
      (∀ spare', 14 ≤ d.length + spare'.length →
        rt.handlePacket now ⟨d, spare'⟩ = rt.handlePacket now ⟨d, spare⟩) ∧
      (d.length < 14 → rt.handlePacket now ⟨d, spare⟩ = .ok rt) := by
  refine ⟨⟨_, handlePacket_eq_ingress rt now _ hcap⟩, fun spare' hcap' => ?_, fun hd => ?_⟩
  · rw [handlePacket_eq_ingress rt now _ hcap', handlePacket_eq_ingress rt now _ hcap]
  · rw [handlePacket_eq_ingress rt now _ hcap, ingress_of_length_lt hd]

theorem handlePacket_reads_only_idleDatagram :
    14 ≤ idleDatagram.length + ([] : Bytes).length ∧
      (∃ rt', idleConsumerRuntime.handlePacket 5 ⟨idleDatagram, []⟩ = .ok rt') ∧
      (∀ spare', 14 ≤ idleDatagram.length + spare'.length →
        idleConsumerRuntime.handlePacket 5 ⟨idleDatagram, spare'⟩ =
          idleConsumerRuntime.handlePacket 5 ⟨idleDatagram, []⟩) ∧
      (idleDatagram.length < 14 →
        idleConsumerRuntime.handlePacket 5 ⟨idleDatagram, []⟩ = .ok idleConsumerRuntime) :=
  ⟨by decide, handlePacket_reads_only_datagram _ _ _ _ (by decide)⟩

/-- An Idle datagram is applied: the Run/Idle word is skipped but not read, and the byte
after it is written to instance 0x64, whatever the read buffer holds past the datagram. -/
theorem handlePacket_applies_idle_datagram (spare : Bytes) :
    (idleConsumerRuntime.handlePacket 5 ⟨idleDatagram, spare⟩).map
      (fun rt => rt.assemblyObj.getAttributeSingle 0x64 3) = .ok (.ok [7]) := by
  rw [handlePacket_eq_ingress _ _ _
    (Nat.le_add_right_of_le (show 14 ≤ idleDatagram.length by decide))]
  show Except.map _ (.ok (ingress idleConsumerRuntime 5 idleDatagram)) = _
  decide

namespace IOConnection

/-- Whether a tick at `now` sends the connection: a producer with an assembly whose RPI
has elapsed since its last send. -/
def due (now : Time) (conn : IOConnection) : Bool :=
  conn.isProducer && decide (conn.rpi ≤ timeSub now conn.lastSend) && conn.assembly.isSome

/-- The connection after a tick at `now`: when due, the next sequence count and `now` as
its last send. -/
def tick (now : Time) (conn : IOConnection) : IOConnection :=
  if conn.due now then { conn with sequenceCount := conn.sequenceCount + 1, lastSend := now }
  else conn

/-- The datagram `sendPacket` emits for the connection, when it has a remote address. -/
def datagram (mem : Memory) (conn : IOConnection) : Option (UDPAddr × Bytes) :=
  match conn.remoteAddr, conn.assembly with
  | some addr, some inst => some (addr, ioHeader conn.connectionID (conn.sequenceCount + 1)
      conn.runIdleHeader (mem.read inst.data).length ++ mem.read inst.data)
  | _, _ => none

/-- Whether `sendPacket` completes for the connection: its datagram, if it emits one,
fits the 2048-byte buffer. -/
def fits (conn : IOConnection) : Bool :=
  match conn.remoteAddr, conn.assembly with
  | some _, some inst =>
      decide (16 + (if conn.runIdleHeader then 4 else 0) + inst.data.length ≤ 2048)
  | _, _ => true

variable {now : Time} {conn : IOConnection}

theorem due_eq_true :
    conn.due now = true ↔
      conn.isProducer = true ∧ conn.rpi ≤ timeSub now conn.lastSend ∧
        conn.assembly.isSome = true := by
  simp [IOConnection.due, and_assoc]

@[simp] theorem due_of_not_producer (h : conn.isProducer = false) : conn.due now = false := by
  simp [IOConnection.due, h]

theorem tick_of_not_due (h : conn.due now = false) :
    conn.tick now = conn := by
  simp [IOConnection.tick, h]

theorem tick_of_due (h : conn.due now = true) :
    conn.tick now = { conn with sequenceCount := conn.sequenceCount + 1, lastSend := now } := by
  simp [IOConnection.tick, h]

end IOConnection

theorem wrapInt64_of_lt {x : Int} (h0 : -2 ^ 63 ≤ x) (h1 : x < 2 ^ 63) : wrapInt64 x = x := by
  unfold wrapInt64
  rw [Int.emod_eq_of_lt (by omega) (by omega)]
  omega

theorem timeSub_gt_iff {t u T : Int} (h0 : 0 ≤ T) (h1 : T < 2 ^ 63 - 1) :
    timeSub t u > T ↔ t - u > T := by
  unfold timeSub Duration
  omega

/-- The window the watchdog is meant to allow, `RPI * (4 << TimeoutMult)`, computed
exactly. -/
def exactWindow (conn : IOConnection) : Int :=
  conn.rpi * (4 * 2 ^ conn.timeoutMult.toNat : Nat)

theorem timeoutOf_eq {conn : IOConnection} (hrpi : 0 ≤ conn.rpi)
    (hwin : exactWindow conn < 2 ^ 63) : Runtime.timeoutOf conn = exactWindow conn := by
  unfold Runtime.timeoutOf
  unfold exactWindow Duration at *
  generalize 4 * 2 ^ conn.timeoutMult.toNat = w at hwin ⊢
  rcases Int.le_iff_lt_or_eq.mp hrpi with h | h
  · have hw : (w : Int) ≤ conn.rpi * w := by
      simpa only [Int.one_mul] using
        Int.mul_le_mul_of_nonneg_right (show (1 : Int) ≤ conn.rpi by omega) (Int.ofNat_nonneg w)
    have hnn : 0 ≤ conn.rpi * w := Int.mul_nonneg hrpi (Int.ofNat_nonneg w)
    rw [Nat.mod_eq_of_lt (by omega), @wrapInt64_of_lt w (by omega) (by omega),
      wrapInt64_of_lt (by omega) hwin]
  · rw [← h, Int.zero_mul, Int.zero_mul, wrapInt64_of_lt (by omega) (by omega)]

theorem checkTimeouts_of_window (rt : Runtime) (now : Time) {id : UInt32} {conn : IOConnection}
    (hc : rt.connections id = some conn) (hrpi : 0 ≤ conn.rpi)
    (hwin : exactWindow conn < 2 ^ 63 - 1) :
    (rt.checkTimeouts now).connections id =
      if conn.isConsumer ∧ now - conn.lastReceive > exactWindow conn then none
      else some conn := by
  have h0 : 0 ≤ exactWindow conn := Int.mul_nonneg hrpi (Int.ofNat_nonneg _)
  simp only [Runtime.checkTimeouts, hc, timeoutOf_eq hrpi (by omega), timeSub_gt_iff h0 hwin]

theorem exactWindow_mono {conn : IOConnection} (hrpi : 0 ≤ conn.rpi) {m : UInt8}
    (hm : conn.timeoutMult.toNat ≤ m.toNat) :
    exactWindow conn ≤ exactWindow { conn with timeoutMult := m } :=
  Int.mul_le_mul_of_nonneg_left
    (Int.ofNat_le.mpr (Nat.mul_le_mul_left 4 (Nat.pow_le_pow_right (by decide) hm))) hrpi

/-- The watchdog as the spec describes it, for every connection whose exact window is
below `2^63 - 1` ns (every `TimeoutMult` up to 7 with any RPI of a 32-bit microsecond
count): a consumer is removed exactly when it has been silent for longer than
`RPI * 4 * 2^TimeoutMult`, every other entry stays as it is; a consumer silent for at most
`4 * RPI` stays, and raising the multiplier never removes it sooner. -/
theorem checkTimeouts_exact_window (rt : Runtime) (now : Time) {id : UInt32}
    {conn : IOConnection} (hc : rt.connections id = some conn) (hrpi : 0 ≤ conn.rpi)
    (hwin : exactWindow conn < 2 ^ 63 - 1) :
    (rt.checkTimeouts now).connections id =
        (if conn.isConsumer ∧ now - conn.lastReceive > exactWindow conn then none
        else some conn) ∧
      (now - conn.lastReceive ≤ 4 * conn.rpi →
        (rt.checkTimeouts now).connections id = some conn) ∧
      ∀ m : UInt8, conn.timeoutMult.toNat ≤ m.toNat →
        exactWindow { conn with timeoutMult := m } < 2 ^ 63 - 1 →
        (Runtime.checkTimeouts
          ⟨Function.update rt.connections id (some { conn with timeoutMult := m }),
            rt.assemblyObj⟩ now).connections id = none →
        (rt.checkTimeouts now).connections id = none := by
  have h4 : 4 * conn.rpi ≤ exactWindow conn :=
    calc 4 * conn.rpi = conn.rpi * ((4 : Nat) : Int) := Int.mul_comm _ _
      _ ≤ exactWindow conn := Int.mul_le_mul_of_nonneg_left
        (Int.ofNat_le.mpr (Nat.le_mul_of_pos_right 4 (Nat.two_pow_pos _))) hrpi
  refine ⟨checkTimeouts_of_window rt now hc hrpi hwin, fun hq => ?_, fun m hm hwin' hgone => ?_⟩
  · rw [checkTimeouts_of_window rt now hc hrpi hwin, if_neg]
    unfold Time Duration at *
    omega
  · rw [@checkTimeouts_of_window _ now id { conn with timeoutMult := m }
      (Function.update_same _ _ _) hrpi hwin'] at hgone
    have hmono := exactWindow_mono hrpi hm
    rw [checkTimeouts_of_window rt now hc hrpi hwin]
    split_ifs at hgone with hexp
    dsimp only at hexp
    unfold Time Duration at *
    rw [if_pos ⟨hexp.1, by omega⟩]

theorem checkTimeouts_exact_window_idleConsumer :
    (idleConsumerRuntime.checkTimeouts 5).connections 0x1001 =
        (if idleConsumer.isConsumer ∧ 5 - idleConsumer.lastReceive > exactWindow idleConsumer
        then none else some idleConsumer) ∧
      (5 - idleConsumer.lastReceive ≤ 4 * idleConsumer.rpi →
        (idleConsumerRuntime.checkTimeouts 5).connections 0x1001 = some idleConsumer) ∧
      ∀ m : UInt8, idleConsumer.timeoutMult.toNat ≤ m.toNat →
        exactWindow { idleConsumer with timeoutMult := m } < 2 ^ 63 - 1 →
        (Runtime.checkTimeouts
          ⟨Function.update idleConsumerRuntime.connections 0x1001
              (some { idleConsumer with timeoutMult := m }),
            idleConsumerRuntime.assemblyObj⟩ 5).connections 0x1001 = none →
        (idleConsumerRuntime.checkTimeouts 5).connections 0x1001 = none :=
  checkTimeouts_exact_window _ _ rfl (by decide) (by decide)

def wrappedWatchdogRuntime : Runtime :=
  ⟨fun id => if id = 0x1001 then some { idleConsumer with timeoutMult := 62 } else none,
    newAssemblyObject fun _ _ => 0⟩

/-- One nanosecond after its last datagram, far inside `4 * RPI`, the consumer is removed:
its window computes to 0. -/
theorem checkTimeouts_drops_consumer_at_multiplier_62 :
    (1 : Time) - idleConsumer.lastReceive ≤ 4 * idleConsumer.rpi ∧
      (wrappedWatchdogRuntime.checkTimeouts 1).connections 0x1001 = none := by
  decide

end GoeipProofs.Implicit
