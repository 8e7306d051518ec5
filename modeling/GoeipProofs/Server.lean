import GoeipProofs.Cpf
import GoeipProofs.Encapsulation
import GoeipProofs.Router

/-!
The target's TCP server (`pkg/server`): `handleConnection` reads encapsulation
frames from one connection and writes one reply per frame, and the two
explicit-message handlers unwrap a message-router request from the CPF,
dispatch it and wrap the response. A connection is modelled by the bytes the
peer sends; the loop returns the bytes written back.
-/

namespace GoeipProofs.Server

open GoeipProofs.Wire GoeipProofs.Cpf GoeipProofs.Message GoeipProofs.Router
open GoeipProofs.Encapsulation

variable {σ : Type}

/-- The message-router request decode written inline in `handleSendRRData` and
`handleSendUnitData`: service, path size in words, `buf.Read` of the path into a
zeroed buffer, and the remaining bytes as data. -/
def decodeMessageRouterRequest (data : Bytes) : Except GoError MessageRouterRequest := do
  let (service, buf) ← readUint8 data
  let (pathSizeWords, buf) ← readUint8 buf
  let (pathBytes, buf) ← readInto (pathSizeWords.toNat * 2) buf
  let requestData ← readRemaining buf
  pure ⟨service, pathBytes, requestData⟩

/-- The response encoding written inline in both handlers: the four fixed bytes, each
extended-status word, then the data. -/
def encodeResponse (resp : MessageRouterResponse) : Bytes :=
  [resp.service, resp.reserved, resp.generalStatus, resp.extStatusSize] ++
    resp.extStatus.flatMap putUint16 ++ resp.responseData

/-- The part both handlers share: decode the request PDU and dispatch it. -/
def dispatchPdu (mr : MessageRouter σ) (pdu : Bytes) (s : σ) :
    Except GoError MessageRouterResponse × σ :=
  match decodeMessageRouterRequest pdu with
  | .error e => (.error e, s)
  | .ok mrReq => mr.dispatch mrReq s

/-- Interface handle and timeout (six zero bytes) before an encoded CPF. -/
def withInterfaceHeader (cpf : CommonPacketFormat) : Bytes :=
  List.replicate 6 0 ++ cpf.encode

/-- The CPF of a `SendRRData` body: a null address and the unconnected message `resp`. -/
def rrDataCPF (resp : Bytes) : CommonPacketFormat :=
  newCommonPacketFormat
    [newCPFItem itemIDNullAddress [], newCPFItem itemIDUnconnectedMessage resp]

/-- The CPF of a `SendUnitData` body: the connected address data, and the sequence
count before `resp` in the connected data. -/
def unitDataCPF (addrData : Bytes) (seqCount : UInt16) (resp : Bytes) :
    CommonPacketFormat :=
  newCommonPacketFormat
    [newCPFItem itemIDConnectedAddress addrData,
      newCPFItem itemIDConnectedData (putUint16 seqCount ++ resp)]

/-- `Server.handleSendRRData` -/
def handleSendRRData (mr : MessageRouter σ) (data : Bytes) (s : σ) : Except GoError Bytes × σ :=
  if data.length < 6 then (.error (.errorf "short data" []), s) else
  match decodeCommonPacketFormat (data.drop 6) with
  | .error e => (.error e, s)
  | .ok cpf =>
      match cpf.findItemByType itemIDUnconnectedMessage with
      | none => (.error (.errorf "no unconnected message item" []), s)
      | some item =>
          match dispatchPdu mr item.data s with
          | (.error e, s') => (.error e, s')
          | (.ok mrResp, s') =>
              (.ok (withInterfaceHeader (rrDataCPF (encodeResponse mrResp))), s')

/-- `Server.handleSendUnitData` -/
def handleSendUnitData (mr : MessageRouter σ) (data : Bytes) (s : σ) :
    Except GoError Bytes × σ :=
  if data.length < 6 then (.error (.errorf "short data" []), s) else
  match decodeCommonPacketFormat (data.drop 6) with
  | .error e => (.error e, s)
  | .ok cpf =>
      match cpf.findItemByType itemIDConnectedAddress with
      | none => (.error (.errorf "no connected address item" []), s)
      | some addrItem =>
          if addrItem.data.length < 4 then (.error (.errorf "short address item data" []), s) else
          match cpf.findItemByType itemIDConnectedData with
          | none => (.error (.errorf "no connected data item" []), s)
          | some dataItem =>
              if dataItem.data.length < 2 then (.error (.errorf "short data item data" []), s) else
              match dispatchPdu mr (dataItem.data.drop 2) s with
              | (.error e, s') => (.error e, s')
              | (.ok mrResp, s') =>
                  (.ok (withInterfaceHeader (unitDataCPF addrItem.data
                    (uint16 dataItem.data) (encodeResponse mrResp))), s')

/-- The state `handleConnection` keeps for one connection: the session handle it
assigned (written, never read) and the objects behind the router. -/
structure ConnState (σ : Type) where
  sessionHandle : UInt32
  objects : σ

/-- The reply status and payload for a handler's outcome: `0x0001` and no payload when
it failed. -/
def statusAndPayload : Except GoError Bytes → UInt32 × Bytes
  | .ok respData => (0, respData)
  | .error _ => (1, [])

/-- The body of the `switch command` in `handleConnection`: `none` when the connection
is closed, otherwise the reply's session field, status and payload. -/
def handleCommand (mr : MessageRouter σ) (command : UInt16) (session : UInt32) (data : Bytes)
    (st : ConnState σ) : Option ((UInt32 × UInt32 × Bytes) × ConnState σ) :=
  if command = commandRegisterSession then
    some ((0x01020304, 0, putUint16 1 ++ putUint16 0), { st with sessionHandle := 0x01020304 })
  else if command = commandUnregisterSession then none
  else if command = commandSendRRData then
    let (result, s) := handleSendRRData mr data st.objects
    some ((session, statusAndPayload result), { st with objects := s })
  else if command = commandSendUnitData then
    let (result, s) := handleSendUnitData mr data st.objects
    some ((session, statusAndPayload result), { st with objects := s })
  else some ((session, 1, []), st)

/-- The reply `handleConnection` writes: a 24-byte header echoing the command and the
sender context, with length `uint16(len(respData))`, then the payload. -/
def replyBytes (command : UInt16) (session status : UInt32) (senderContext respData : Bytes) :
    Bytes :=
  putUint16 command ++ putUint16 (UInt16.ofNat respData.length) ++ putUint32 session ++
    putUint32 status ++ senderContext ++ putUint32 0 ++
    (if respData.length > 0 then respData else [])

/-- `MaxPacketSize` of `handleConnection` -/
def maxPacketSize : Nat := 4096

/-- The loop of `Server.handleConnection` on the bytes the peer sends, at most `fuel`
frames: the bytes written back and the final state. -/
def serve (mr : MessageRouter σ) : Nat → ConnState σ → Bytes → Bytes × ConnState σ
  | 0, st, _ => ([], st)
  | fuel + 1, st, input =>
      match readFull 24 input with
      | .error _ => ([], st)
      | .ok (headerBuf, input) =>
          let command := uint16 headerBuf
          let dataLen := uint16 (headerBuf.drop 2)
          let session := uint32 (headerBuf.drop 4)
          let senderContext := (headerBuf.drop 12).take 8
          if dataLen.toNat > maxPacketSize then ([], st) else
          match readPayload dataLen.toNat input with
          | .error _ => ([], st)
          | .ok (data, input) =>
              match handleCommand mr command session data st with
              | none => ([], st)
              | some ((session, status, respData), st) =>
                  let (out, st) := serve mr fuel st input
                  (replyBytes command session status senderContext respData ++ out, st)

/-- The loop run to the end of the input: one unit of fuel per input byte is more than
enough, since every frame takes at least 24. -/
def serveAll (mr : MessageRouter σ) (st : ConnState σ) (input : Bytes) : Bytes × ConnState σ :=
  serve mr (input.length + 1) st input

/-- `Server.handleConnection`: the loop from session handle 0. -/
def handleConnection (mr : MessageRouter σ) (objects : σ) (input : Bytes) : Bytes × σ :=
  let (out, st) := serveAll mr ⟨0, objects⟩ input
  (out, st.objects)

/-- A request whose path is a whole number of words, between one word and the 255
`LenWords` can count. -/
def WordPath (r : MessageRouterRequest) : Prop :=
  r.requestPath.length % 2 = 0 ∧ 2 ≤ r.requestPath.length ∧ r.requestPath.length ≤ 510

theorem decodeMessageRouterRequest_encode {r : MessageRouterRequest} (hr : WordPath r) :
    decodeMessageRouterRequest r.encode = .ok r := by
  obtain ⟨hEven, hPos, hLe⟩ := hr
  have hne : r.requestPath ++ r.requestData ≠ [] := by
    intro h
    simp [List.append_eq_nil] at h
    simp [h] at hPos
  simp only [decodeMessageRouterRequest, MessageRouterRequest.encode, ite_length_pos,
    List.cons_append, List.nil_append, readUint8_cons, ok_bind,
    lenWords_toNat_mul_two hEven hLe, readInto_append _ rfl hne, readRemaining_eq]
  rfl

theorem dispatchPdu_encode (mr : MessageRouter σ) {r : MessageRouterRequest} (hr : WordPath r)
    (s : σ) : dispatchPdu mr r.encode s = mr.dispatch r s := by
  simp [dispatchPdu, decodeMessageRouterRequest_encode hr]

/-- The inline decoder on every payload of two bytes or more: once a byte follows the
path size, the path is whatever of its `2 * words` bytes are there, zero-filled, and an
empty remainder is `io.EOF`. -/
theorem decodeMessageRouterRequest_cons_cons (service words : UInt8) (r : Bytes) :
    decodeMessageRouterRequest (service :: words :: r) =
      if r = [] then .error .eof
      else .ok ⟨service,
        r.take (words.toNat * 2) ++ List.replicate (words.toNat * 2 - r.length) 0,
        r.drop (words.toNat * 2)⟩ := by
  split
  · subst r; rfl
  · rename_i h
    simp only [decodeMessageRouterRequest, readUint8_cons, ok_bind, readInto_of_ne_nil _ h,
      readRemaining_eq]
    rfl

/-- A path cut short is dispatched zero-filled, and a zero-word path that ends the payload
is refused. -/
theorem dispatchPdu_zero_fills_path (mr : MessageRouter σ) (s : σ) :
    dispatchPdu mr [0x0E, 0x02, 0x20, 0x04] s = mr.dispatch ⟨0x0E, [0x20, 0x04, 0, 0], []⟩ s ∧
    dispatchPdu mr [0x0E, 0x00] s = (.error .eof, s) := by
  simp only [dispatchPdu, decodeMessageRouterRequest_cons_cons]
  exact ⟨rfl, rfl⟩

theorem handleSendRRData_eq (mr : MessageRouter σ) {data : Bytes} {cpf : CommonPacketFormat}
    {item : CPFItem} (s : σ) (h6 : 6 ≤ data.length)
    (hcpf : decodeCommonPacketFormat (data.drop 6) = .ok cpf)
    (hitem : cpf.findItemByType itemIDUnconnectedMessage = some item) :
    handleSendRRData mr data s =
      ((dispatchPdu mr item.data s).1.map
        (fun resp => withInterfaceHeader (rrDataCPF (encodeResponse resp))),
        (dispatchPdu mr item.data s).2) := by
  simp only [handleSendRRData, if_neg (by omega : ¬ data.length < 6), hcpf, hitem]
  rcases dispatchPdu mr item.data s with ⟨_ | _, _⟩ <;> rfl

theorem handleSendUnitData_eq (mr : MessageRouter σ) {data : Bytes} {cpf : CommonPacketFormat}
    {addrItem dataItem : CPFItem} (s : σ) (h6 : 6 ≤ data.length)
    (hcpf : decodeCommonPacketFormat (data.drop 6) = .ok cpf)
    (haddr : cpf.findItemByType itemIDConnectedAddress = some addrItem)
    (haddrLen : 4 ≤ addrItem.data.length)
    (hdata : cpf.findItemByType itemIDConnectedData = some dataItem)
    (hdataLen : 2 ≤ dataItem.data.length) :
    handleSendUnitData mr data s =
      ((dispatchPdu mr (dataItem.data.drop 2) s).1.map
        (fun resp => withInterfaceHeader
          (unitDataCPF addrItem.data (uint16 dataItem.data) (encodeResponse resp))),
        (dispatchPdu mr (dataItem.data.drop 2) s).2) := by
  simp only [handleSendUnitData, if_neg (by omega : ¬ data.length < 6), hcpf, haddr, hdata,
    if_neg (by omega : ¬ addrItem.data.length < 4),
    if_neg (by omega : ¬ dataItem.data.length < 2)]
  rcases dispatchPdu mr (dataItem.data.drop 2) s with ⟨_ | _, _⟩ <;> rfl

theorem decode_rrDataCPF {x : Bytes} (hx : x.length < 65536) :
    decodeCommonPacketFormat ((withInterfaceHeader (rrDataCPF x)).drop 6) = .ok (rrDataCPF x) := by
  have h := decodeCommonPacketFormat_encode
    [newCPFItem itemIDNullAddress [], newCPFItem itemIDUnconnectedMessage x] [] (by simp)
    (by simp [newCPFItem_sized _ hx,
      newCPFItem_sized itemIDNullAddress (by decide : [].length < 65536)])
  rwa [List.append_nil] at h

theorem decode_unitDataCPF {addr x : Bytes} (seqCount : UInt16) (haddr : addr.length < 65536)
    (hx : x.length + 2 < 65536) :
    decodeCommonPacketFormat ((withInterfaceHeader (unitDataCPF addr seqCount x)).drop 6) =
      .ok (unitDataCPF addr seqCount x) := by
  have hx' : (putUint16 seqCount ++ x).length < 65536 := by simp; omega
  have h := decodeCommonPacketFormat_encode
    [newCPFItem itemIDConnectedAddress addr,
      newCPFItem itemIDConnectedData (putUint16 seqCount ++ x)] [] (by simp)
    (by simp [newCPFItem_sized _ haddr, newCPFItem_sized _ hx'])
  rwa [List.append_nil] at h

theorem length_rrDataCPF {x : Bytes} (hx : x.length < 65536) :
    (withInterfaceHeader (rrDataCPF x)).length = 16 + x.length := by
  simp [withInterfaceHeader, rrDataCPF, newCommonPacketFormat, CommonPacketFormat.encode,
    length_encode_newCPFItem _ hx,
    length_encode_newCPFItem itemIDNullAddress (by decide : [].length < 65536)]
  omega

theorem length_unitDataCPF {addr x : Bytes} (seqCount : UInt16) (haddr : addr.length < 65536)
    (hx : x.length + 2 < 65536) :
    (withInterfaceHeader (unitDataCPF addr seqCount x)).length = 18 + addr.length + x.length := by
  have hx' : (putUint16 seqCount ++ x).length < 65536 := by simp; omega
  simp [withInterfaceHeader, unitDataCPF, newCommonPacketFormat, CommonPacketFormat.encode,
    length_encode_newCPFItem _ haddr, length_encode_newCPFItem _ hx']
  omega

theorem handleSendRRData_rrDataCPF (mr : MessageRouter σ) {r : MessageRouterRequest}
    (hr : WordPath r) (hlt : r.encode.length < 65536) (s : σ) :
    handleSendRRData mr (withInterfaceHeader (rrDataCPF r.encode)) s =
      ((mr.dispatch r s).1.map (fun resp => withInterfaceHeader (rrDataCPF (encodeResponse resp))),
        (mr.dispatch r s).2) := by
  rw [handleSendRRData_eq mr s (by rw [length_rrDataCPF hlt]; omega) (decode_rrDataCPF hlt) rfl]
  simp only [newCPFItem, dispatchPdu_encode mr hr]

theorem handleSendUnitData_unitDataCPF (mr : MessageRouter σ) {r : MessageRouterRequest}
    (hr : WordPath r) {addr : Bytes} (seqCount : UInt16) (haddr : 4 ≤ addr.length)
    (haddr' : addr.length < 65536) (hlt : r.encode.length + 2 < 65536) (s : σ) :
    handleSendUnitData mr (withInterfaceHeader (unitDataCPF addr seqCount r.encode)) s =
      ((mr.dispatch r s).1.map
        (fun resp => withInterfaceHeader (unitDataCPF addr seqCount (encodeResponse resp))),
        (mr.dispatch r s).2) := by
  rw [handleSendUnitData_eq mr s (by rw [length_unitDataCPF seqCount haddr' hlt]; omega)
    (decode_unitDataCPF seqCount haddr' hlt) rfl haddr rfl (by simp [newCPFItem])]
  simp only [newCPFItem, uint16_putUint16_append, List.drop_left' (length_putUint16 seqCount),
    dispatchPdu_encode mr hr]

theorem length_encodeResponse (resp : MessageRouterResponse) :
    (encodeResponse resp).length = 4 + 2 * resp.extStatus.length + resp.responseData.length := by
  simp only [encodeResponse, List.length_append, List.length_cons, List.length_nil,
    length_flatMap_putUint16]

theorem decodeMessageRouterResponse_encodeResponse {resp : MessageRouterResponse}
    (hsize : resp.extStatusSize = UInt8.ofNat resp.extStatus.length)
    (hlt : resp.extStatus.length < 256) :
    decodeMessageRouterResponse (encodeResponse resp) = .ok resp := by
  have hn : resp.extStatusSize.toNat = resp.extStatus.length := by
    simp [hsize, Nat.mod_eq_of_lt hlt]
  simp only [decodeMessageRouterResponse, encodeResponse, List.cons_append, List.nil_append,
    List.append_assoc, readUint8_cons, ok_bind, hn, readExtStatus_encode, readRemaining_eq]
  rfl

theorem replyBytes_eq_encode (command : UInt16) (session status : UInt32)
    (senderContext respData : Bytes) :
    replyBytes command session status senderContext respData =
      (⟨command, UInt16.ofNat respData.length, session, status, senderContext, 0⟩ :
        EncapsulationHeader).encode ++ respData := by
  simp [replyBytes, EncapsulationHeader.encode]

theorem serve_fuel (mr : MessageRouter σ) {fuel fuel' : Nat} {input : Bytes} (st : ConnState σ)
    (h : input.length < fuel) (h' : input.length < fuel') :
    serve mr fuel st input = serve mr fuel' st input := by
  induction fuel generalizing fuel' st input with
  | zero => omega
  | succ fuel ih =>
      obtain ⟨fuel', rfl⟩ : ∃ k, fuel' = k + 1 := ⟨fuel' - 1, by omega⟩
      simp only [serve]
      split
      · rfl
      · rename_i headerBuf rest hread
        obtain ⟨hlen, rfl⟩ := readFull_eq_ok.mp hread
        split
        · rfl
        · split
          · rfl
          · rename_i data rest' hpay
            simp only [readPayload_eq_ok hpay, List.length_append] at h h'
            split
            · rfl
            · rw [ih _ (by omega) (by omega : rest'.length < fuel')]

theorem serve_encode_append (mr : MessageRouter σ) (fuel : Nat) (st : ConnState σ)
    (h : EncapsulationHeader) (hc : h.senderContext.length = 8) {data : Bytes}
    (hlen : h.length.toNat = data.length) (hmax : data.length ≤ maxPacketSize) (rest : Bytes) :
    serve mr (fuel + 1) st (h.encode ++ data ++ rest) =
      match handleCommand mr h.command h.sessionHandle data st with
      | none => ([], st)
      | some ((session, status, respData), st') =>
          (replyBytes h.command session status h.senderContext respData ++
            (serve mr fuel st' rest).1, (serve mr fuel st' rest).2) := by
  have hh := ofBytes_encode h hc
  have hl : h.encode.length = 24 := by simp [hc]
  have hcmd : uint16 h.encode = h.command := (congrArg EncapsulationHeader.command hh :)
  have hdataLen : uint16 (h.encode.drop 2) = h.length :=
    (congrArg EncapsulationHeader.length hh :)
  have hsession : uint32 (h.encode.drop 4) = h.sessionHandle :=
    (congrArg EncapsulationHeader.sessionHandle hh :)
  have hctx : (h.encode.drop 12).take 8 = h.senderContext :=
    (congrArg EncapsulationHeader.senderContext hh :)
  simp only [serve, List.append_assoc, readFull_append _ hl, ok_bind, hcmd, hdataLen, hsession,
    hctx, hlen, if_neg (Nat.not_lt.mpr hmax), readPayload_append rest rfl]

theorem serve_send_append (mr : MessageRouter σ) (fuel : Nat) (st : ConnState σ)
    (command : UInt16) {data : Bytes} (handle : UInt32) (hmax : data.length ≤ maxPacketSize)
    (rest : Bytes) :
    serve mr (fuel + 1) st (TCPTransport.send command data handle ++ rest) =
      match handleCommand mr command handle data st with
      | none => ([], st)
      | some ((session, status, respData), st') =>
          (replyBytes command session status (List.replicate 8 0) respData ++
            (serve mr fuel st' rest).1, (serve mr fuel st' rest).2) := by
  have hlen : (UInt16.ofNat data.length).toNat = data.length := by
    simp only [uint16_toNat_ofNat]
    exact Nat.mod_eq_of_lt (by unfold maxPacketSize at hmax; omega)
  simp only [TCPTransport.send, ite_length_pos]
  exact serve_encode_append mr fuel st _ (by simp) hlen hmax rest

theorem serveAll_nil (mr : MessageRouter σ) (st : ConnState σ) : serveAll mr st [] = ([], st) :=
  rfl

theorem serveAll_send_append (mr : MessageRouter σ) (st : ConnState σ) (command : UInt16)
    {data : Bytes} (handle : UInt32) (hmax : data.length ≤ maxPacketSize) (rest : Bytes) :
    serveAll mr st (TCPTransport.send command data handle ++ rest) =
      match handleCommand mr command handle data st with
      | none => ([], st)
      | some ((session, status, respData), st') =>
          (replyBytes command session status (List.replicate 8 0) respData ++
            (serveAll mr st' rest).1, (serveAll mr st' rest).2) := by
  have hlen : (TCPTransport.send command data handle).length = 24 + data.length := by
    simp [TCPTransport.send]
  have hfuel : (TCPTransport.send command data handle ++ rest).length + 1 =
      (23 + data.length + rest.length + 1) + 1 := by
    simp only [List.length_append, hlen]
    omega
  unfold serveAll
  rw [hfuel, serve_send_append mr _ st command handle hmax rest]
  split
  · rfl
  · rw [serve_fuel mr _ (by omega) (by omega : rest.length < rest.length + 1)]

theorem receive_serveAll_send_append (mr : MessageRouter σ) (st : ConnState σ)
    {command : UInt16} {data : Bytes} {handle session status : UInt32} {respData : Bytes}
    {st' : ConnState σ} (hmax : data.length ≤ maxPacketSize)
    (hcmd : handleCommand mr command handle data st = some ((session, status, respData), st'))
    (hlen : respData.length < 65536) (rest : Bytes) :
    TCPTransport.receive (serveAll mr st (TCPTransport.send command data handle ++ rest)).1 =
      .ok (⟨command, UInt16.ofNat respData.length, session, status, List.replicate 8 0, 0⟩,
        respData, (serveAll mr st' rest).1) := by
  have h := receive_encode_append
    ⟨command, UInt16.ofNat respData.length, session, status, List.replicate 8 0, 0⟩ (by simp)
    (by simp [Nat.mod_eq_of_lt hlen] : (UInt16.ofNat respData.length).toNat = respData.length)
    (serveAll mr st' rest).1
  rw [ite_length_pos, ← replyBytes_eq_encode] at h
  rw [serveAll_send_append mr st command handle hmax rest, hcmd, h]

/-- `Answered mr st₀ w st out`: started in `st₀`, the server reads the frames `w`, each
written by `TCPTransport.Send`, answers every one of them, writing `out`, and ends in
`st`. -/
inductive Answered (mr : MessageRouter σ) (st₀ : ConnState σ) :
    Bytes → ConnState σ → Bytes → Prop
  | nil : Answered mr st₀ [] st₀ []
  | snoc {w out : Bytes} {st st' : ConnState σ} {command : UInt16} {data : Bytes}
      {handle session status : UInt32} {respData : Bytes} :
      Answered mr st₀ w st out → data.length ≤ maxPacketSize →
      handleCommand mr command handle data st = some ((session, status, respData), st') →
      Answered mr st₀ (w ++ TCPTransport.send command data handle) st'
        (out ++ replyBytes command session status (List.replicate 8 0) respData)

theorem serveAll_append_of_answered (mr : MessageRouter σ) {st₀ st : ConnState σ}
    {w out : Bytes} (h : Answered mr st₀ w st out) (more : Bytes) :
    serveAll mr st₀ (w ++ more) = (out ++ (serveAll mr st more).1, (serveAll mr st more).2) := by
  induction h generalizing more with
  | nil => rfl
  | snoc _ hmax hcmd ih =>
      rw [List.append_assoc, ih, serveAll_send_append mr _ _ _ hmax, hcmd]
      simp only [List.append_assoc]

theorem handleCommand_sendRRData (mr : MessageRouter σ) (session : UInt32) (data : Bytes)
    (st : ConnState σ) :
    handleCommand mr commandSendRRData session data st =
      some ((session, statusAndPayload (handleSendRRData mr data st.objects).1),
        { st with objects := (handleSendRRData mr data st.objects).2 }) := rfl

theorem handleCommand_sendUnitData (mr : MessageRouter σ) (session : UInt32) (data : Bytes)
    (st : ConnState σ) :
    handleCommand mr commandSendUnitData session data st =
      some ((session, statusAndPayload (handleSendUnitData mr data st.objects).1),
        { st with objects := (handleSendUnitData mr data st.objects).2 }) := rfl

/-- The server's answer to a `SendRRData` payload whose CPF decodes to an unconnected
message holding a request: status `0x0001` and no payload when the path has no leading
class segment, since `Dispatch` returns a Go error there; otherwise status 0 and the
router's response, whose general status follows the three strata. -/
theorem sendRRData_reply_strata (mr : MessageRouter σ) (session : UInt32) (st : ConnState σ)
    {data : Bytes} {cpf : CommonPacketFormat} {item : CPFItem} {req : MessageRouterRequest}
    (h6 : 6 ≤ data.length) (hcpf : decodeCommonPacketFormat (data.drop 6) = .ok cpf)
    (hitem : cpf.findItemByType itemIDUnconnectedMessage = some item)
    (hreq : decodeMessageRouterRequest item.data = .ok req) :
    (classSegment req.requestPath = none →
      handleCommand mr commandSendRRData session data st = some ((session, 1, []), st)) ∧
    (∀ classID rest, classSegment req.requestPath = some (classID, rest) →
      ∃ resp st', handleCommand mr commandSendRRData session data st =
          some ((session, 0, withInterfaceHeader (rrDataCPF (encodeResponse resp))), st') ∧
        resp.service = req.service ||| 0x80 ∧
        (mr.objects classID = none → resp.generalStatus = statusObjectDoesNotExist) ∧
        ∀ obj, mr.objects classID = some obj →
          match (obj.handleRequest req.service rest req.requestData st.objects).1 with
          | .error (.cip e) => resp.generalStatus = e.status ∧ resp.extStatus = e.extStatus
          | .error _ => resp.generalStatus = statusServiceNotSupported
          | .ok d => resp.generalStatus = statusSuccess ∧ resp.responseData = d) := by
  have hpdu : dispatchPdu mr item.data st.objects = mr.dispatch req st.objects := by
    simp [dispatchPdu, hreq]
  have hrr := handleSendRRData_eq mr st.objects h6 hcpf hitem
  rw [hpdu] at hrr
  refine ⟨fun hnone => ?_, fun classID rest hseg => ?_⟩
  · rw [handleCommand_sendRRData, hrr, dispatch_of_classSegment_none mr req _ hnone]
    rfl
  · cases hobj : mr.objects classID with
    | none =>
        refine ⟨⟨req.service ||| 0x80, 0, statusObjectDoesNotExist, 0, [], []⟩, st, ?_, rfl,
          fun _ => rfl, fun obj h => by simp at h⟩
        rw [handleCommand_sendRRData, hrr, dispatch_of_unregistered mr req _ hseg hobj]
        rfl
    | some obj =>
        let outcome := obj.handleRequest req.service rest req.requestData st.objects
        refine ⟨responseOf req.service outcome.1, { st with objects := outcome.2 }, ?_,
          responseOf_service _ _, fun h => by simp at h, fun o ho => ?_⟩
        · rw [handleCommand_sendRRData, hrr, dispatch_of_registered mr req _ hseg hobj]
          rfl
        · cases Option.some.inj ho
          rcases (obj.handleRequest req.service rest req.requestData st.objects).1 with
            (_ | _) | _ <;> simp [responseOf, statusSuccess]

theorem sendRRData_reply_strata_invalid_segment :
    6 ≤ (withInterfaceHeader (rrDataCPF [0x0E, 0x01, 0xFF, 0x04])).length ∧
    decodeCommonPacketFormat
        ((withInterfaceHeader (rrDataCPF [0x0E, 0x01, 0xFF, 0x04])).drop 6) =
      .ok (rrDataCPF [0x0E, 0x01, 0xFF, 0x04]) ∧
    (rrDataCPF [0x0E, 0x01, 0xFF, 0x04]).findItemByType itemIDUnconnectedMessage =
      some (newCPFItem itemIDUnconnectedMessage [0x0E, 0x01, 0xFF, 0x04]) ∧
    decodeMessageRouterRequest [0x0E, 0x01, 0xFF, 0x04] = .ok ⟨0x0E, [0xFF, 0x04], []⟩ ∧
    handleCommand (⟨fun _ => none⟩ : MessageRouter Unit) commandSendRRData 0
        (withInterfaceHeader (rrDataCPF [0x0E, 0x01, 0xFF, 0x04])) ⟨0, ()⟩ =
      some ((0, 1, []), ⟨0, ()⟩) :=
  ⟨by decide, rfl, rfl, rfl,
    (@sendRRData_reply_strata Unit ⟨fun _ => none⟩ 0 ⟨0, ()⟩
      (withInterfaceHeader (rrDataCPF [0x0E, 0x01, 0xFF, 0x04]))
      (rrDataCPF [0x0E, 0x01, 0xFF, 0x04])
      (newCPFItem itemIDUnconnectedMessage [0x0E, 0x01, 0xFF, 0x04]) ⟨0x0E, [0xFF, 0x04], []⟩
      (by decide) rfl rfl rfl).1 rfl⟩

/-- A request with the invalid segment `FF 04` as its path decodes, yet the server
answers it with encapsulation status `0x0001` and no message-router response. -/
theorem sendRRData_invalid_segment_reply :
    decodeMessageRouterRequest [0x0E, 0x01, 0xFF, 0x04] = .ok ⟨0x0E, [0xFF, 0x04], []⟩ ∧
    handleCommand (⟨fun _ => none⟩ : MessageRouter Unit) commandSendRRData 0
        (withInterfaceHeader (rrDataCPF [0x0E, 0x01, 0xFF, 0x04])) ⟨0, ()⟩ =
      some ((0, 1, []), ⟨0, ()⟩) := by
  constructor <;> rfl

theorem handleCommand_objects_congr (mr : MessageRouter σ) (command : UInt16)
    (session : UInt32) (data : Bytes) {st₁ st₂ : ConnState σ}
    (h : st₁.objects = st₂.objects) :
    (handleCommand mr command session data st₁).map (fun r => (r.1, r.2.objects)) =
      (handleCommand mr command session data st₂).map (fun r => (r.1, r.2.objects)) := by
  unfold handleCommand
  split_ifs <;> simp only [h, Option.map_some']

theorem serve_objects_congr (mr : MessageRouter σ) (fuel : Nat) {st₁ st₂ : ConnState σ}
    (h : st₁.objects = st₂.objects) (input : Bytes) :
    (serve mr fuel st₁ input).1 = (serve mr fuel st₂ input).1 ∧
      (serve mr fuel st₁ input).2.objects = (serve mr fuel st₂ input).2.objects := by
  induction fuel generalizing st₁ st₂ input with
  | zero => exact ⟨rfl, h⟩
  | succ fuel ih =>
      simp only [serve]
      split
      · exact ⟨rfl, h⟩
      · split
        · exact ⟨rfl, h⟩
        · split
          · exact ⟨rfl, h⟩
          · rename_i headerBuf _ _ _ _ data rest _
            have hc := handleCommand_objects_congr mr (uint16 headerBuf)
              (uint32 (headerBuf.drop 4)) data h
            rcases h₁ : handleCommand mr _ _ data st₁ with
                _ | ⟨⟨session, status, respData⟩, st₁'⟩ <;>
              rcases h₂ : handleCommand mr _ _ data st₂ with _ | ⟨r₂, st₂'⟩ <;>
              simp only [h₁, h₂, Option.map_none', Option.map_some', reduceCtorEq,
                Option.some.injEq, Prod.mk.injEq] at hc ⊢
            · simpa using h
            · obtain ⟨rfl, hobj⟩ := hc
              obtain ⟨hout, hst⟩ := ih hobj rest
              exact ⟨by rw [hout], hst⟩

/-- The server keeps no session state: runs from any two registration states write the
same bytes, every `RegisterSession` is answered with the handle `0x01020304`, and the
session field of a `SendRRData` or `SendUnitData` frame is only echoed. -/
theorem server_ignores_registration (mr : MessageRouter σ) :
    (∀ fuel (handle₁ handle₂ : UInt32) (objects : σ) input,
      (serve mr fuel ⟨handle₁, objects⟩ input).1 =
        (serve mr fuel ⟨handle₂, objects⟩ input).1) ∧
    (∀ session data (st : ConnState σ), ∃ st',
      handleCommand mr commandRegisterSession session data st =
        some ((0x01020304, 0, putUint16 1 ++ putUint16 0), st')) ∧
    (∀ command, command = commandSendRRData ∨ command = commandSendUnitData →
      ∀ session₁ session₂ data (st : ConnState σ),
        (handleCommand mr command session₁ data st).map (fun r => (r.1.2, r.2)) =
          (handleCommand mr command session₂ data st).map (fun r => (r.1.2, r.2))) :=
  ⟨fun fuel handle₁ handle₂ objects input =>
      (@serve_objects_congr σ mr fuel ⟨handle₁, objects⟩ ⟨handle₂, objects⟩ rfl
        input).1,
    fun _ _ _ => ⟨_, rfl⟩,
    fun _ hcmd _ _ _ _ => by rcases hcmd with rfl | rfl <;> rfl⟩

/-- On a fresh connection, a `SendRRData` frame carrying a handle the server never
assigned is answered with status 0 (here an `ObjectDoesNotExist` response). -/
theorem sendRRData_unregistered_answered :
    handleConnection (⟨fun _ => none⟩ : MessageRouter Unit) ()
        (TCPTransport.send commandSendRRData
          (withInterfaceHeader (rrDataCPF [0x0E, 0x03, 0x20, 0x04, 0x24, 0x01, 0x30, 0x03]))
          0x12345678) =
      (replyBytes commandSendRRData 0x12345678 0 (List.replicate 8 0)
        (withInterfaceHeader (rrDataCPF [0x8E, 0x00, 0x16, 0x00])), ()) := by
  rfl

theorem handleConnection_reply_of_length_65536 {d : Bytes} (hd : d.length = 65536) :
    ∃ out, handleConnection
      (⟨fun _ => some ⟨fun _ _ _ s => (.ok d, s)⟩⟩ : MessageRouter Unit) ()
        (TCPTransport.send commandSendRRData
          (withInterfaceHeader (rrDataCPF [0x0E, 0x02, 0x20, 0x04, 0x24, 0x01])) 0) = (out, ()) ∧
      out.length = 24 + 65556 ∧ uint16 (out.drop 2) = 20 := by
  have hrr : handleSendRRData
      (⟨fun _ => some ⟨fun _ _ _ s => (.ok d, s)⟩⟩ : MessageRouter Unit)
      (withInterfaceHeader (rrDataCPF [0x0E, 0x02, 0x20, 0x04, 0x24, 0x01])) () =
      (.ok (withInterfaceHeader (rrDataCPF (encodeResponse ⟨0x8E, 0, 0, 0, [], d⟩))), ()) := by
    rw [show [0x0E, 0x02, 0x20, 0x04, 0x24, 0x01] =
      (⟨0x0E, [0x20, 0x04, 0x24, 0x01], []⟩ : MessageRouterRequest).encode from rfl,
      handleSendRRData_rrDataCPF _
        (⟨rfl, by decide, by decide⟩ : WordPath ⟨0x0E, [0x20, 0x04, 0x24, 0x01], []⟩)
        (by decide)]
    rfl
  have hserve :=
    @serveAll_send_append Unit ⟨fun _ => some ⟨fun _ _ _ s => (.ok d, s)⟩⟩ ⟨0, ()⟩
    commandSendRRData (withInterfaceHeader (rrDataCPF [0x0E, 0x02, 0x20, 0x04, 0x24, 0x01])) 0
    (by decide) []
  rw [List.append_nil, handleCommand_sendRRData, hrr] at hserve
  have hresp : (encodeResponse ⟨0x8E, 0, 0, 0, [], d⟩).length = 65540 := by
    simp only [length_encodeResponse, hd, List.length_nil]
  have hbody :
      (withInterfaceHeader (rrDataCPF (encodeResponse ⟨0x8E, 0, 0, 0, [], d⟩))).length =
        65556 := by
    simp only [withInterfaceHeader, rrDataCPF, newCommonPacketFormat, CommonPacketFormat.encode,
      List.flatMap_cons, List.flatMap_nil, List.append_nil, List.length_append,
      List.length_replicate, length_putUint16,
      length_encode_newCPFItem itemIDNullAddress (by decide : ([] : Bytes).length < 65536),
      length_encode_newCPFItem_of_pos _ (by rw [hresp]; decide), hresp, List.length_nil]
  refine ⟨replyBytes commandSendRRData 0 0 (List.replicate 8 0)
    (withInterfaceHeader (rrDataCPF (encodeResponse ⟨0x8E, 0, 0, 0, [], d⟩))),
    by simp only [handleConnection, hserve, statusAndPayload, serveAll_nil, List.append_nil],
    ?_, ?_⟩
  · rw [replyBytes, ite_length_pos]
    simp only [List.length_append, length_putUint16, length_putUint32, List.length_replicate,
      hbody]
  · simp only [replyBytes, List.append_assoc, List.drop_left' (length_putUint16 _),
      uint16_putUint16_append, hbody]
    decide

/-- An object answering with 65536 zero bytes: the reply payload is 65556 bytes, and the
reply header's length field says 20. -/
theorem reply_length_field_wraps :
    ∃ out, handleConnection
        (⟨fun _ => some ⟨fun _ _ _ s => (.ok (List.replicate 65536 0), s)⟩⟩ :
          MessageRouter Unit) ()
        (TCPTransport.send commandSendRRData
          (withInterfaceHeader (rrDataCPF [0x0E, 0x02, 0x20, 0x04, 0x24, 0x01])) 0) = (out, ()) ∧
      out.length = 24 + 65556 ∧ uint16 (out.drop 2) = 20 :=
  handleConnection_reply_of_length_65536 (List.length_replicate _ _)

end GoeipProofs.Server
