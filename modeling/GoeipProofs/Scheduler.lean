import GoeipProofs.Implicit

/-!
The producer side of implicit I/O (`pkg/runtime/scheduler.go`): `sendPacket` lays a
datagram out in a fixed 2048-byte buffer, and `processTick` sends every producer whose
RPI has elapsed. The buffer is written by Go's slice operations, so a write past its
end panics; the layout theorems below describe the buffer by the prefix written so
far followed by the zeros `make` left.
-/

namespace GoeipProofs.Scheduler

open GoeipProofs.Wire GoeipProofs.Assembly GoeipProofs.Implicit

/-- `copy(buf[offset:], src)`: as many bytes of `src` as fit from `offset` on. -/
def copyAt (buf : Bytes) (offset : Nat) (src : Bytes) : Except Panic Bytes :=
  if offset ≤ buf.length then
    .ok (buf.take offset ++ src.take (buf.length - offset) ++ buf.drop (offset + src.length))
  else .error .sliceBounds

/-- `binary.LittleEndian.PutUint16(buf[offset:], v)` (and `PutUint32`) for the bytes of
`v`: the slice panics past the end of `buf`, the bounds check when fewer bytes remain
than `v` has. -/
def putAt (buf : Bytes) (offset : Nat) (bytes : Bytes) : Except Panic Bytes :=
  if offset ≤ buf.length then
    if offset + bytes.length ≤ buf.length then copyAt buf offset bytes
    else .error .indexOutOfRange
  else .error .sliceBounds

theorem copyAt_zeros (w src : Bytes) (m : Nat) {offset : Nat} (h : offset = w.length) :
    copyAt (w ++ List.replicate m 0) offset src =
      .ok ((w ++ src.take m) ++ List.replicate (m - src.length) 0) := by
  subst h
  simp [copyAt, List.drop_append_eq_append_drop, List.take_append_eq_append_take]

theorem putAt_zeros (w bytes : Bytes) (m : Nat) {offset : Nat} (h : offset = w.length)
    (hm : bytes.length ≤ m) :
    putAt (w ++ List.replicate m 0) offset bytes =
      .ok ((w ++ bytes) ++ List.replicate (m - bytes.length) 0) := by
  rw [putAt, if_pos (by simp; omega), if_pos (by simp; omega), copyAt_zeros w bytes m h,
    List.take_of_length_le hm]

theorem putAt_over (w old bytes rest : Bytes) {offset : Nat} (h : offset = w.length)
    (hlen : bytes.length = old.length) :
    putAt ((w ++ old) ++ rest) offset bytes = .ok ((w ++ bytes) ++ rest) := by
  subst h
  simp [putAt, copyAt, hlen, List.drop_append_eq_append_drop,
    List.take_append_eq_append_take]
  rw [List.take_of_length_le (by omega), List.drop_eq_nil_of_le (by omega), List.nil_append]

/-- `Scheduler.sendPacket`: the datagram it writes to the connection's remote address,
when it has one, and the connection after `SequenceCount++`. -/
def sendPacket (mem : Memory) (conn : IOConnection) :
    Except Panic (Option (UDPAddr × Bytes) × IOConnection) := do
  let buf := List.replicate 2048 (0 : UInt8)
  let offset := 0
  let buf ← putAt buf offset (putUint16 2)
  let offset := offset + 2
  let buf ← putAt buf offset (putUint16 0x8002)
  let buf ← putAt buf offset (putUint16 0x00A1)
  let offset := offset + 2
  let buf ← putAt buf offset (putUint16 4)
  let offset := offset + 2
  let buf ← putAt buf offset (putUint32 conn.connectionID)
  let offset := offset + 4
  let buf ← putAt buf offset (putUint16 0x00B1)
  let offset := offset + 2
  let some inst := conn.assembly | throw .nilDereference
  let data := mem.read inst.data
  let dataLen := 2 + (if conn.runIdleHeader then 4 else 0) + data.length
  let buf ← putAt buf offset (putUint16 (UInt16.ofNat dataLen))
  let offset := offset + 2
  let conn := { conn with sequenceCount := conn.sequenceCount + 1 }
  let buf ← putAt buf offset (putUint16 conn.sequenceCount)
  let offset := offset + 2
  let (buf, offset) ← if conn.runIdleHeader then do
      let buf ← putAt buf offset (putUint32 1)
      pure (buf, offset + 4)
    else pure (buf, offset)
  let buf ← copyAt buf offset data
  let offset := offset + data.length
  match conn.remoteAddr with
  | none => pure (none, conn)
  | some addr => do
      let datagram ← GoSlice.slice ⟨buf, []⟩ 0 offset
      pure (some (addr, datagram), conn)

theorem slice_written (w d : Bytes) (m : Nat) {offset : Nat} (h : offset = w.length + d.length) :
    GoSlice.slice ⟨(w ++ d.take m) ++ List.replicate (m - d.length) 0, []⟩ 0 offset =
      if d.length ≤ m then .ok (w ++ d) else .error .sliceBounds := by
  subst h
  by_cases hd : d.length ≤ m
  · rw [List.take_of_length_le hd, GoSlice.slice_of_le _ (Nat.zero_le _) (by simp), List.drop_zero,
      Nat.sub_zero, List.take_left' (List.length_append _ _), if_pos hd]
  · rw [GoSlice.slice, if_neg hd, if_neg]
    simp only [List.length_append, List.length_take, List.length_replicate, List.length_nil]
    omega

theorem sendPacket_eq (mem : Memory) (conn : IOConnection) {inst : AssemblyInstance}
    (hinst : conn.assembly = some inst) :
    sendPacket mem conn =
      let conn' := { conn with sequenceCount := conn.sequenceCount + 1 }
      let frame := ioHeader conn.connectionID conn'.sequenceCount conn.runIdleHeader
        (mem.read inst.data).length ++ mem.read inst.data
      match conn.remoteAddr with
      | none => .ok (none, conn')
      | some addr =>
          if frame.length ≤ 2048 then .ok (some (addr, frame), conn')
          else .error .sliceBounds := by
  simp only [sendPacket, hinst]
  rw [← List.nil_append (List.replicate 2048 (0 : UInt8)), putAt_zeros _ _ _ (by simp) (by simp),
    ok_bind, putAt_zeros _ _ _ (by simp) (by simp), ok_bind,
    putAt_over ([] ++ putUint16 2) _ _ _ (by simp) (by simp), ok_bind,
    putAt_zeros _ _ _ (by simp) (by simp), ok_bind, putAt_zeros _ _ _ (by simp) (by simp), ok_bind,
    putAt_zeros _ _ _ (by simp) (by simp), ok_bind, putAt_zeros _ _ _ (by simp) (by simp), ok_bind,
    putAt_zeros _ _ _ (by simp) (by simp), ok_bind]
  cases conn.runIdleHeader <;>
    [rw [if_neg Bool.false_ne_true];
      rw [if_pos rfl, putAt_zeros _ _ _ (by simp) (by simp), ok_bind]]
  all_goals
    rw [pure_bind, copyAt_zeros _ _ _ (by simp), ok_bind]
    cases conn.remoteAddr
    · rfl
    · rw [slice_written _ _ _ (by simp)]
      simp [ioHeader]
      split <;> split <;> first | rfl | omega

section Layout

variable (mem : Memory) (conn : IOConnection) {inst : AssemblyInstance} {addr : UDPAddr}

theorem sendPacket_of_fits (hinst : conn.assembly = some inst) (haddr : conn.remoteAddr = some addr)
    (hfit : 16 + (if conn.runIdleHeader then 4 else 0) + (mem.read inst.data).length ≤ 2048) :
    sendPacket mem conn = .ok (some (addr, ioHeader conn.connectionID (conn.sequenceCount + 1)
      conn.runIdleHeader (mem.read inst.data).length ++ mem.read inst.data),
      { conn with sequenceCount := conn.sequenceCount + 1 }) := by
  rw [sendPacket_eq mem conn hinst]
  simp only [haddr, List.length_append, length_ioHeader]
  rw [if_pos hfit]

theorem sendPacket_of_not_fits (hinst : conn.assembly = some inst)
    (haddr : conn.remoteAddr = some addr)
    (hbig : 2048 < 16 + (if conn.runIdleHeader then 4 else 0) + (mem.read inst.data).length) :
    sendPacket mem conn = .error .sliceBounds := by
  rw [sendPacket_eq mem conn hinst]
  simp only [haddr, List.length_append, length_ioHeader]
  rw [if_neg (by omega)]

/-- A producer whose datagram fits the buffer sends exactly the implicit frame, with the
next sequence count, and the data item's length field counts the bytes after it. -/
theorem sendPacket_layout (hinst : conn.assembly = some inst) (haddr : conn.remoteAddr = some addr)
    (hfit : 16 + (if conn.runIdleHeader then 4 else 0) + (mem.read inst.data).length ≤ 2048) :
    sendPacket mem conn = .ok (some (addr, ioHeader conn.connectionID (conn.sequenceCount + 1)
        conn.runIdleHeader (mem.read inst.data).length ++ mem.read inst.data),
        { conn with sequenceCount := conn.sequenceCount + 1 }) ∧
      (uint16 ((ioHeader conn.connectionID (conn.sequenceCount + 1) conn.runIdleHeader
        (mem.read inst.data).length ++ mem.read inst.data).drop 12)).toNat =
        ((ioHeader conn.connectionID (conn.sequenceCount + 1) conn.runIdleHeader
          (mem.read inst.data).length ++ mem.read inst.data).drop 14).length := by
  refine ⟨sendPacket_of_fits mem conn hinst haddr hfit, ?_⟩
  have hdrop : (ioHeader conn.connectionID (conn.sequenceCount + 1) conn.runIdleHeader
      (mem.read inst.data).length ++ mem.read inst.data).drop 12 =
        putUint16 (UInt16.ofNat (2 + (if conn.runIdleHeader then 4 else 0) +
            (mem.read inst.data).length)) ++
          (putUint16 (conn.sequenceCount + 1) ++ (if conn.runIdleHeader then putUint32 1 else []) ++
            mem.read inst.data) := rfl
  rw [← List.drop_drop 2 12, hdrop, uint16_putUint16_append, List.drop_left' (length_putUint16 _),
    uint16_toNat_ofNat, length_ioPayload, Nat.mod_eq_of_lt (by omega)]

theorem sendPacket_eq_ok_some (hinst : conn.assembly = some inst) {datagram : Bytes}
    {conn' : IOConnection} (h : sendPacket mem conn = .ok (some (addr, datagram), conn')) :
    16 + (if conn.runIdleHeader then 4 else 0) + (mem.read inst.data).length ≤ 2048 ∧
      datagram = ioHeader conn.connectionID (conn.sequenceCount + 1) conn.runIdleHeader
        (mem.read inst.data).length ++ mem.read inst.data := by
  rw [sendPacket_eq mem conn hinst] at h
  cases hr : conn.remoteAddr <;> simp only [hr, List.length_append, length_ioHeader] at h
  · cases h
  · by_cases hfit : 16 + (if conn.runIdleHeader then 4 else 0) + (mem.read inst.data).length ≤ 2048
    · rw [if_pos hfit] at h
      cases h
      exact ⟨hfit, rfl⟩
    · rw [if_neg hfit] at h
      cases h

end Layout

def sampleProducer : IOConnection :=
  { connectionID := 0x1001, rpi := 10000000, sequenceCount := 0, runIdleHeader := false,
    remoteAddr := some 1, assembly := some ⟨0x64, ⟨0, 0, 1⟩⟩, lastReceive := 0, lastSend := 0,
    timeoutMult := 0, isProducer := true, isConsumer := false }

theorem sendPacket_layout_one_byte :
    sendPacket (fun _ _ => 1) sampleProducer =
        .ok (some (1, ioHeader 0x1001 1 false 1 ++ [1]),
          { sampleProducer with sequenceCount := 1 }) ∧
      (uint16 ((ioHeader 0x1001 1 false 1 ++ [1]).drop 12)).toNat =
        ((ioHeader 0x1001 1 false 1 ++ [1]).drop 14).length :=
  @sendPacket_layout (fun _ _ => 1) sampleProducer ⟨0x64, ⟨0, 0, 1⟩⟩ 1 rfl rfl (by decide)

def largeProducer : IOConnection :=
  { sampleProducer with assembly := some ⟨0x64, ⟨0, 0, 2033⟩⟩ }

/-- With 2033 bytes of data and no Run/Idle header, the datagram would end at offset 2049. -/
theorem sendPacket_panics_past_buffer :
    sendPacket (fun _ _ => 0) largeProducer = .error .sliceBounds :=
  sendPacket_of_not_fits _ largeProducer rfl rfl (by rw [Memory.length_read]; decide)

/-- A datagram `sendPacket` emits, handed to `handlePacket` of a runtime whose connection of
the same id expects the same Run/Idle header and is bound to an instance of as many bytes
as the producer's: the consumer only refreshes its watchdog. The sequence count the
producer put in front of the data reaches `SetAttributeSingle`, whose length check then
refuses the write, so the instance keeps its old bytes. -/
theorem producer_datagram_leaves_assembly (mem : Memory) (producer : IOConnection)
    {inst : AssemblyInstance} {addr : UDPAddr} {datagram : Bytes} {producer' : IOConnection}
    (hinst : producer.assembly = some inst)
    (hsend : sendPacket mem producer = .ok (some (addr, datagram), producer'))
    (rt : Runtime) (now : Time) (spare : Bytes) {consumer : IOConnection} {cinst : AssemblyInstance}
    (hc : rt.connections producer.connectionID = some consumer)
    (hh : consumer.runIdleHeader = producer.runIdleHeader) (hci : consumer.assembly = some cinst)
    (hsize : ∀ old, rt.assemblyObj.view cinst.id = some old →
      old.length = (mem.read inst.data).length) :
    rt.handlePacket now ⟨datagram, spare⟩ = .ok { rt with
      connections := Function.update rt.connections producer.connectionID
        (some { consumer with lastReceive := now }) } := by
  obtain ⟨hfit, rfl⟩ := sendPacket_eq_ok_some mem producer hinst hsend
  have hkept : (rt.assemblyObj.setAttributeSingle cinst.id 3
      ((putUint16 (producer.sequenceCount + 1) ++
        (if producer.runIdleHeader then putUint32 1 else []) ++ mem.read inst.data).drop
          (if consumer.runIdleHeader then 4 else 0))).2 = rt.assemblyObj := by
    refine (AssemblyObject.setAttributeSingle_of_ne_ok fun hok => ?_).1
    obtain ⟨old, hold, -, hlen⟩ := (AssemblyObject.setAttributeSingle_ok_iff _ _ _).mp hok
    rw [List.length_drop, length_ioPayload, hsize old hold, hh] at hlen
    split at hlen <;> omega
  have hheader : ¬ (consumer.runIdleHeader = true ∧
      2 + (if producer.runIdleHeader then 4 else 0) + (mem.read inst.data).length < 4) := by
    rintro ⟨h1, h2⟩
    rw [← hh, if_pos h1] at h2
    omega
  rw [handlePacket_ioFrame rt now _ _ _ _ spare (by omega), hc]
  simp only [if_neg hheader, hci, hkept]

def consumerRuntime : Runtime :=
  ⟨fun id => if id = 0x1001 then
      some { sampleProducer with remoteAddr := none, isProducer := false, isConsumer := true }
    else none,
    (newAssemblyObject fun _ _ => 0).registerAssembly 0x64 ⟨0, 0, 1⟩⟩

/-- The producer sends `1`; after the consumer handles the datagram, instance 0x64 still
reads `0`. -/
theorem producer_datagram_one_byte :
    ((consumerRuntime.handlePacket 0 ⟨ioHeader 0x1001 1 false 1 ++ [1], []⟩).map fun rt =>
      rt.assemblyObj.getAttributeSingle 0x64 3) = .ok (.ok [0]) := by
  have h := producer_datagram_leaves_assembly (fun _ _ => 1) sampleProducer rfl
    (sendPacket_of_fits _ sampleProducer rfl rfl (by decide)) consumerRuntime 0 [] rfl rfl rfl
    (fun old h => by cases h; rfl)
  exact (congrArg (Except.map fun rt => rt.assemblyObj.getAttributeSingle 0x64 3) h).trans rfl

/-- The loop of `processTick` over the producers it collected, in their order: a producer
is skipped while its RPI has not elapsed or when it has no assembly, and is otherwise
sent and stamped with the tick's time. -/
def sendDue (now : Time) : List UInt32 → Runtime →
    Except Panic (List (UDPAddr × Bytes) × Runtime)
  | [], rt => .ok ([], rt)
  | id :: ids, rt =>
      match rt.connections id with
      | none => sendDue now ids rt
      | some conn =>
          if timeSub now conn.lastSend < conn.rpi then sendDue now ids rt
          else if conn.assembly = none then sendDue now ids rt
          else do
            let (datagram, conn) ← sendPacket rt.assemblyObj.mem conn
            let conns := Function.update rt.connections id (some { conn with lastSend := now })
            let (datagrams, rt) ← sendDue now ids { rt with connections := conns }
            pure (datagram.toList ++ datagrams, rt)

/-- `Scheduler.processTick` at time `now`; `order` is the order in which the iteration over
the connection map visits the ids. -/
def processTick (now : Time) (order : List UInt32) (rt : Runtime) :
    Except Panic (List (UDPAddr × Bytes) × Runtime) :=
  sendDue now (order.filter fun id => (rt.connections id).any IOConnection.isProducer) rt

theorem sendPacket_of_assembly (mem : Memory) (conn : IOConnection)
    {inst : AssemblyInstance}
    (hinst : conn.assembly = some inst) :
    sendPacket mem conn = if conn.fits then
      .ok (conn.datagram mem, { conn with sequenceCount := conn.sequenceCount + 1 })
    else .error .sliceBounds := by
  rw [sendPacket_eq mem conn hinst]
  simp only [IOConnection.fits, IOConnection.datagram, hinst, List.length_append, length_ioHeader,
    Memory.length_read]
  cases conn.remoteAddr <;> simp only [if_true, decide_eq_true_eq]

section Tick

variable (now : Time)

/-- Whether every connection of `ids` that is due at `now` completes `sendPacket`. -/
def dueFit (ids : List UInt32) (rt : Runtime) : Bool :=
  ids.all fun id => (rt.connections id).all fun conn =>
    !conn.due now || conn.fits

/-- The datagrams a tick over `ids` emits, in order. -/
def dueDatagrams (ids : List UInt32) (rt : Runtime) : List (UDPAddr × Bytes) :=
  ids.filterMap fun id => (rt.connections id).bind fun conn =>
    if conn.due now then conn.datagram rt.assemblyObj.mem else none

/-- The connection map after a tick that visits `ids`. -/
def tickConnections (ids : List UInt32) (conns : UInt32 → Option IOConnection) :
    UInt32 → Option IOConnection :=
  fun id => if id ∈ ids then (conns id).map (IOConnection.tick now) else conns id

variable {now}

theorem dueFit_congr {ids : List UInt32} {rt rt' : Runtime}
    (h : ∀ id ∈ ids, rt'.connections id = rt.connections id) :
    dueFit now ids rt' = dueFit now ids rt := by
  unfold dueFit
  rw [Bool.eq_iff_iff, List.all_eq_true, List.all_eq_true]
  exact forall_congr' fun id => imp_congr_right fun hid => by rw [h id hid]

theorem dueDatagrams_congr {ids : List UInt32} {rt rt' : Runtime}
    (h : ∀ id ∈ ids, rt'.connections id = rt.connections id)
    (hao : rt'.assemblyObj = rt.assemblyObj) :
    dueDatagrams now ids rt' = dueDatagrams now ids rt := by
  simp only [dueDatagrams, hao]
  exact List.filterMap_congr fun id hid => by rw [h id hid]

theorem dueDatagrams_cons_of_due {id : UInt32} {ids : List UInt32} {rt : Runtime}
    {conn : IOConnection}
    (hc : rt.connections id = some conn) (hdue : conn.due now = true) :
    dueDatagrams now (id :: ids) rt =
      (conn.datagram rt.assemblyObj.mem).toList ++ dueDatagrams now ids rt := by
  simp only [dueDatagrams, List.filterMap_cons, hc, Option.some_bind, hdue, if_true]
  cases conn.datagram rt.assemblyObj.mem <;> rfl

theorem tickConnections_cons_of_due {id : UInt32} {ids : List UInt32}
    {conns : UInt32 → Option IOConnection} {conn : IOConnection} (hc : conns id = some conn)
    (hid : id ∉ ids) :
    tickConnections now (id :: ids) conns =
      tickConnections now ids (Function.update conns id (some (conn.tick now))) := by
  funext x
  by_cases hx : x = id
  · subst hx
    simp [tickConnections, hid, hc]
  · simp [tickConnections, hx]

theorem tick_cons_of_not_due {id : UInt32} {ids : List UInt32} {rt : Runtime}
    (h : ∀ conn, rt.connections id = some conn → conn.due now = false) :
    dueFit now (id :: ids) rt = dueFit now ids rt ∧
      dueDatagrams now (id :: ids) rt = dueDatagrams now ids rt ∧
      tickConnections now (id :: ids) rt.connections = tickConnections now ids rt.connections := by
  refine ⟨?_, ?_, funext fun x => ?_⟩
  · cases hc : rt.connections id <;> simp [dueFit, hc, h]
  · cases hc : rt.connections id <;> simp [dueDatagrams, hc, h]
  · by_cases hx : x = id
    · subst hx
      cases hc : rt.connections x with
      | none => simp [tickConnections, hc]
      | some conn => simp [tickConnections, hc, IOConnection.tick_of_not_due (h _ hc)]
    · simp [tickConnections, hx]

theorem sendDue_cons_of_not_due {id : UInt32} {ids : List UInt32} {rt : Runtime}
    (hp : ∀ conn, rt.connections id = some conn → conn.isProducer)
    (hskip : ∀ conn, rt.connections id = some conn → conn.due now = false) :
    sendDue now (id :: ids) rt = sendDue now ids rt := by
  cases hc : rt.connections id with
  | none => simp [sendDue, hc]
  | some conn =>
      have hnot : ¬ conn.due now = true := by simp [hskip conn hc]
      rw [IOConnection.due_eq_true] at hnot
      simp only [sendDue, hc]
      by_cases hlt : timeSub now conn.lastSend < conn.rpi
      · rw [if_pos hlt]
      · rw [if_neg hlt, if_pos (Option.not_isSome_iff_eq_none.mp fun hs =>
          hnot ⟨hp conn hc, not_lt.mp hlt, hs⟩)]

theorem sendDue_cons_of_some {id : UInt32} {ids : List UInt32} {rt : Runtime}
    {conn : IOConnection} (hc : rt.connections id = some conn) :
    sendDue now (id :: ids) rt =
      if conn.rpi ≤ timeSub now conn.lastSend ∧ conn.assembly.isSome then
        if conn.fits then do
          let (datagrams, rt') ← sendDue now ids
            { rt with
              connections := Function.update rt.connections id
                (some { conn with sequenceCount := conn.sequenceCount + 1, lastSend := now }) }
          pure ((conn.datagram rt.assemblyObj.mem).toList ++ datagrams, rt')
        else .error .sliceBounds
      else sendDue now ids rt := by
  simp only [sendDue, hc]
  by_cases hdue : conn.rpi ≤ timeSub now conn.lastSend ∧ conn.assembly.isSome
  · obtain ⟨inst, hinst⟩ := Option.isSome_iff_exists.mp hdue.2
    rw [if_neg (not_lt.mpr hdue.1), if_neg (show ¬ conn.assembly = none by simp [hinst]),
      sendPacket_of_assembly _ conn hinst, if_pos hdue]
    split_ifs <;> rfl
  · rw [if_neg hdue]
    by_cases hlt : timeSub now conn.lastSend < conn.rpi
    · rw [if_pos hlt]
    · rw [if_neg hlt, if_pos (by simpa [not_lt.mp hlt] using hdue)]

theorem sendDue_eq (ids : List UInt32) (hnd : ids.Nodup) (rt : Runtime)
    (hprod : ∀ id ∈ ids, ∀ conn, rt.connections id = some conn → conn.isProducer) :
    sendDue now ids rt = if dueFit now ids rt then
      .ok (dueDatagrams now ids rt,
        { rt with connections := tickConnections now ids rt.connections })
    else .error .sliceBounds := by
  induction ids generalizing rt with
  | nil => rfl
  | cons id ids ih =>
      obtain ⟨hid, hnd⟩ := List.nodup_cons.mp hnd
      have hprod' : ∀ id' ∈ ids, ∀ conn, rt.connections id' = some conn → conn.isProducer :=
        fun id' h => hprod id' (List.mem_cons_of_mem id h)
      by_cases hskip : ∀ conn, rt.connections id = some conn → conn.due now = false
      · obtain ⟨h1, h2, h3⟩ := tick_cons_of_not_due hskip
        rw [sendDue_cons_of_not_due (hprod id (List.mem_cons_self _ _)) hskip, ih hnd rt hprod',
          h1, h2, h3]
      · push_neg at hskip
        obtain ⟨conn, hc, hdue⟩ := hskip
        have hdue' : conn.due now = true := by simpa using hdue
        obtain ⟨-, hge, hsome⟩ := IOConnection.due_eq_true.mp hdue'
        obtain ⟨inst, hinst⟩ := Option.isSome_iff_exists.mp hsome
        have hfit_cons :
            dueFit now (id :: ids) rt = (conn.fits && dueFit now ids rt) := by
          simp [dueFit, hc, hdue']
        simp only [sendDue, hc, if_neg (not_lt.mpr hge),
          if_neg (show ¬ conn.assembly = none by simp [hinst]),
          sendPacket_of_assembly _ conn hinst, hfit_cons]
        by_cases hfit : conn.fits = true
        · have hagree : ∀ x ∈ ids, Runtime.connections { rt with
                connections := Function.update rt.connections id (some
                  { conn with sequenceCount := conn.sequenceCount + 1, lastSend := now }) } x =
              rt.connections x :=
            fun x hx => Function.update_noteq (ne_of_mem_of_not_mem hx hid) _ _
          rw [if_pos hfit, ok_bind]
          simp only
          rw [ih hnd _ fun x hx => by rw [hagree x hx]; exact hprod' x hx,
            dueFit_congr hagree, dueDatagrams_congr hagree rfl, hfit, Bool.true_and]
          split
          · rw [ok_bind, dueDatagrams_cons_of_due hc hdue', tickConnections_cons_of_due hc hid,
              IOConnection.tick_of_due hdue']
            rfl
          · rfl
        · rw [if_neg hfit, error_bind, if_neg fun h => hfit (Bool.and_eq_true _ _ ▸ h).1]

theorem dueFit_cons_of_not_fits {id : UInt32} {ids : List UInt32} {rt : Runtime}
    {conn : IOConnection} (hc : rt.connections id = some conn) (hdue : conn.due now = true)
    (hfit : conn.fits = false) :
    dueFit now (id :: ids) rt = false := by
  simp [dueFit, hc, hdue, hfit]

/-- One tick, in full: unless a due producer's datagram overflows the buffer, every due
producer is sent, in the iteration's order, and stamped; nothing else changes. -/
theorem processTick_eq (order : List UInt32) (rt : Runtime) (horder : order.Nodup)
    (hkeys : ∀ id, (rt.connections id).isSome → id ∈ order) :
    processTick now order rt = if dueFit now order rt then
      .ok (dueDatagrams now order rt,
        { rt with connections := fun id => (rt.connections id).map (IOConnection.tick now) })
    else .error .sliceBounds := by
  have hprod : ∀ id ∈ order.filter (fun id => (rt.connections id).any IOConnection.isProducer),
      ∀ conn, rt.connections id = some conn → conn.isProducer := by
    intro id hid conn hc
    simpa [hc] using (List.mem_filter.mp hid).2
  rw [processTick, sendDue_eq _ (horder.filter _) rt hprod]
  -- the ids the filter drops are not producers, so a tick neither sends nor changes them
  have hfit : dueFit now (order.filter fun id => (rt.connections id).any IOConnection.isProducer)
      rt = dueFit now order rt := by
    simp only [dueFit, List.all_filter]
    congr 1
    funext id
    cases hc : rt.connections id with
    | none => rfl
    | some conn => cases hp : conn.isProducer <;> simp [hp]
  have hdg : dueDatagrams now
      (order.filter fun id => (rt.connections id).any IOConnection.isProducer) rt =
        dueDatagrams now order rt := by
    simp only [dueDatagrams, List.filterMap_filter]
    congr 1
    funext id
    cases hc : rt.connections id with
    | none => rfl
    | some conn => cases hp : conn.isProducer <;> simp [hp]
  have htick : tickConnections now
      (order.filter fun id => (rt.connections id).any IOConnection.isProducer) rt.connections =
        fun id => (rt.connections id).map (IOConnection.tick now) := by
    funext id
    cases hc : rt.connections id with
    | none => simp [tickConnections, hc]
    | some conn =>
        cases hp : conn.isProducer
        · simp [tickConnections, hc,
            IOConnection.tick_of_not_due (IOConnection.due_of_not_producer hp)]
        · simp [tickConnections, hc, hkeys id (by simp [hc]), hp]
  rw [hfit, hdg, htick]

end Tick

def twoProducers : Runtime :=
  ⟨fun id => if id = 0x1001 then some largeProducer
    else if id = 0x1002 then
      some { sampleProducer with connectionID := 0x1002, assembly := some ⟨0x65, ⟨1, 0, 1⟩⟩ }
    else none,
    newAssemblyObject fun a _ => if a = 0 then 0 else 7⟩

/-- The tick panics in the first producer's `sendPacket`: neither producer is sent, and
neither is stamped. -/
theorem processTick_panics_on_large_producer :
    processTick 10000000 [0x1001, 0x1002] twoProducers = .error .sliceBounds := by
  have hkeys : ∀ id, (twoProducers.connections id).isSome → id ∈ [0x1001, 0x1002] := by
    intro id h
    simp only [twoProducers] at h
    split_ifs at h with h1 h2 <;> simp_all
  have hlarge : largeProducer.fits = false := by decide
  rw [processTick_eq _ _ (by decide) hkeys, dueFit_cons_of_not_fits rfl (by decide) hlarge]
  rfl

end GoeipProofs.Scheduler
