import GoeipProofs.Wire

/-!
The 24-byte encapsulation header (`pkg/eip/discovery.go`) and the TCP transport
that frames every explicit message with it (`pkg/transport/tcp.go`). A
connection is modelled by the bytes written to it and the bytes still unread.
-/

namespace GoeipProofs.Encapsulation

open GoeipProofs.Wire

/-- `CommandRegisterSession` -/
def commandRegisterSession : UInt16 := 0x0065
/-- `CommandUnregisterSession` -/
def commandUnregisterSession : UInt16 := 0x0066
/-- `CommandSendRRData` -/
def commandSendRRData : UInt16 := 0x006F
/-- `CommandSendUnitData` -/
def commandSendUnitData : UInt16 := 0x0070

/-- `EncapsulationHeader`. `senderContext` is the `[8]byte` field. -/
structure EncapsulationHeader where
  command : UInt16
  length : UInt16
  sessionHandle : UInt32
  status : UInt32
  senderContext : Bytes
  options : UInt32
  deriving DecidableEq, Repr

/-- `EncapsulationHeader.Encode`: `binary.Write` of the fields in order. -/
def EncapsulationHeader.encode (h : EncapsulationHeader) : Bytes :=
  putUint16 h.command ++ putUint16 h.length ++ putUint32 h.sessionHandle ++
    putUint32 h.status ++ h.senderContext ++ putUint32 h.options

/-- The fields of a 24-byte header buffer. -/
def EncapsulationHeader.ofBytes (b : Bytes) : EncapsulationHeader :=
  ⟨uint16 b, uint16 (b.drop 2), uint32 (b.drop 4), uint32 (b.drop 8), (b.drop 12).take 8,
    uint32 (b.drop 20)⟩

/-- `EncapsulationHeader.Decode`: `binary.Read` of the 24 header bytes. -/
def EncapsulationHeader.decode (r : Bytes) : Except GoError (EncapsulationHeader × Bytes) := do
  let (b, r) ← readFull 24 r
  pure (EncapsulationHeader.ofBytes b, r)

/-- `TCPTransport.Send`: the bytes written to the connection. The length field is
`uint16(len(data))`; the sender context and options are zero. -/
def TCPTransport.send (cmd : UInt16) (data : Bytes) (sessionHandle : UInt32) : Bytes :=
  let header : EncapsulationHeader :=
    ⟨cmd, UInt16.ofNat data.length, sessionHandle, 0, List.replicate 8 0, 0⟩
  header.encode ++ (if data.length > 0 then data else [])

/-- `TCPTransport.Receive` on the unread bytes of the connection: the header, the
payload (`nil` when the length field is zero) and the bytes left unread. -/
def TCPTransport.receive (r : Bytes) : Except GoError (EncapsulationHeader × Bytes × Bytes) :=
  match EncapsulationHeader.decode r with
  | .error e => .error (.wrap "failed to read header: %w" e)
  | .ok (header, r) =>
      if header.length.toNat > 0 then
        match readFull header.length.toNat r with
        | .error e => .error (.wrap "failed to read data: %w" e)
        | .ok (data, r) => .ok (header, data, r)
      else .ok (header, [], r)

@[simp] theorem length_encode (h : EncapsulationHeader) :
    h.encode.length = 16 + h.senderContext.length := by
  simp only [EncapsulationHeader.encode, List.length_append, length_putUint16, length_putUint32]
  omega

theorem ofBytes_encode (h : EncapsulationHeader) (hc : h.senderContext.length = 8) :
    EncapsulationHeader.ofBytes h.encode = h := by
  simp [EncapsulationHeader.ofBytes, EncapsulationHeader.encode, List.drop_append_eq_append_drop,
    List.drop_eq_nil_of_le, List.take_append_eq_append_take, hc]

theorem decode_encode_append (h : EncapsulationHeader) (hc : h.senderContext.length = 8)
    (rest : Bytes) : EncapsulationHeader.decode (h.encode ++ rest) = .ok (h, rest) := by
  have hl : h.encode.length = 24 := by simp [hc]
  simp [EncapsulationHeader.decode, readFull_append rest hl, ofBytes_encode h hc]

theorem receive_encode_append (h : EncapsulationHeader) (hc : h.senderContext.length = 8)
    {data : Bytes} (hlen : h.length.toNat = data.length) (rest : Bytes) :
    TCPTransport.receive (h.encode ++ (if data.length > 0 then data else []) ++ rest) =
      .ok (h, data, rest) := by
  rw [List.append_assoc, TCPTransport.receive, decode_encode_append h hc]
  dsimp only
  rw [hlen]
  split
  · rw [readFull_append rest rfl]
  · simp [List.eq_nil_of_length_eq_zero (by omega : data.length = 0)]

theorem receive_send_append (cmd : UInt16) (data : Bytes) (handle : UInt32) (rest : Bytes) :
    TCPTransport.receive (TCPTransport.send cmd data handle ++ rest) =
      .ok (⟨cmd, UInt16.ofNat data.length, handle, 0, List.replicate 8 0, 0⟩,
        data.take (data.length % 65536), data.drop (data.length % 65536) ++ rest) := by
  simp only [TCPTransport.send, List.append_assoc]
  rw [TCPTransport.receive, decode_encode_append _ (by simp)]
  simp only [uint16_toNat_ofNat]
  split
  · rename_i hpos
    rw [if_pos (by omega : data.length > 0),
      readFull_append_of_le rest (Nat.mod_le _ _)]
  · rename_i hzero
    by_cases hd : data.length > 0
    · simp [hd, (by omega : data.length % 65536 = 0)]
    · simp [List.eq_nil_of_length_eq_zero (by omega : data.length = 0)]

/-- A 64 KiB payload: `Receive` sees a zero length field, returns no payload after
consuming only the header, and leaves all 65536 payload bytes to be read as the next
frame. -/
theorem receive_send_of_65536_bytes :
    TCPTransport.receive (TCPTransport.send commandSendRRData (List.replicate 65536 0) 0) =
      .ok (⟨commandSendRRData, 0, 0, 0, List.replicate 8 0, 0⟩, [],
        List.replicate 65536 0) := by
  have h := receive_send_append commandSendRRData (List.replicate 65536 0) 0 []
  rw [List.append_nil] at h
  rw [h]
  simp only [List.length_replicate, Nat.mod_self, List.take_zero, List.drop_zero,
    List.append_nil]
  rfl

end GoeipProofs.Encapsulation
