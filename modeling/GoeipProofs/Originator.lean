import GoeipProofs.Server

/-!
The originator's session (`pkg/session`): `Register`, `SendRRData` and
`SendCIPRequest` over one TCP connection. A connection is what the originator has
written and how much of the peer's output it has read; the peer's output is a
function of everything written to it, as for a target that answers frame by frame.
Against the server of `GoeipProofs.Server` a session is a remote call of the
message router: each request returns what `Dispatch` returns on the server's
objects, and a sequence of requests what the router returns run in-process.
-/

namespace GoeipProofs.Originator

open GoeipProofs.Wire GoeipProofs.Cpf GoeipProofs.Message GoeipProofs.Router
open GoeipProofs.Encapsulation GoeipProofs.Server

/-- The connection of a `TCPTransport`: the peer's output for what has been written,
the bytes written, and the number of output bytes read. -/
structure Conn where
  peer : Bytes → Bytes
  written : Bytes
  read : Nat

/-- `NewTCPTransport`: a fresh connection to `peer`. -/
def newTCPTransport (peer : Bytes → Bytes) : Conn := ⟨peer, [], 0⟩

/-- `TCPTransport.Send` on the connection. -/
def Conn.send (c : Conn) (cmd : UInt16) (data : Bytes) (sessionHandle : UInt32) : Conn :=
  { c with written := c.written ++ TCPTransport.send cmd data sessionHandle }

/-- `TCPTransport.Receive` on the connection: one frame of the peer's unread output. -/
def Conn.receive (c : Conn) : Except GoError ((EncapsulationHeader × Bytes) × Conn) :=
  let out := c.peer c.written
  match TCPTransport.receive (out.drop c.read) with
  | .error e => .error e
  | .ok (header, data, rest) => .ok ((header, data), { c with read := out.length - rest.length })

/-- `Session`; the session after a failed call is not modelled. -/
structure Session where
  transport : Conn
  sessionHandle : UInt32

/-- `NewSession` -/
def newSession (t : Conn) : Session := ⟨t, 0⟩

/-- `NewRegisterSessionData().Encode()`: protocol version 1, no option flags. -/
def registerSessionData : Bytes := putUint16 1 ++ putUint16 0

/-- `Session.Register` -/
def Session.register (s : Session) : Except GoError Session := do
  let ((header, _), t) ← (s.transport.send commandRegisterSession registerSessionData 0).receive
  if header.status ≠ 0 then
    throw (.errorf "register session failed with status: 0x%08X" [header.status.toNat])
  pure ⟨t, header.sessionHandle⟩

/-- `Session.Unregister` -/
def Session.unregister (s : Session) : Session :=
  { s with transport := s.transport.send commandUnregisterSession [] s.sessionHandle }

/-- The body `SendRRData` writes: six zero bytes of interface handle and timeout, then the
CPF of a null address and the unconnected message. -/
def rrDataPayload (request : Bytes) : Bytes :=
  List.replicate 6 0 ++
    (newCommonPacketFormat
      [newCPFItem itemIDNullAddress [], newCPFItem itemIDUnconnectedMessage request]).encode

/-- `Session.SendRRData` -/
def Session.sendRRData (s : Session) (request : Bytes) : Except GoError (Bytes × Session) := do
  let ((header, respData), t) ←
    (s.transport.send commandSendRRData (rrDataPayload request) s.sessionHandle).receive
  if header.status ≠ 0 then
    throw (.errorf "RRData command failed with status: 0x%08X" [header.status.toNat])
  if respData.length < 6 then throw (.errorf "response data too short" [])
  let respCPF ← (decodeCommonPacketFormat (respData.drop 6)).mapError
    (.wrap "failed to decode CPF: %w")
  match respCPF.findItemByType itemIDUnconnectedMessage with
  | none => throw (.errorf "response CPF missing Unconnected Message item" [])
  | some item => pure (item.data, { s with transport := t })

/-- `Session.SendCIPRequest` -/
def Session.sendCIPRequest (s : Session) (req : MessageRouterRequest) :
    Except GoError (MessageRouterResponse × Session) := do
  let (respBytes, s) ← s.sendRRData req.encode
  let resp ← decodeMessageRouterResponse respBytes
  pure (resp, s)

/-- A client's calls of `SendCIPRequest`, one after the other on one session. -/
def Session.sendCIPRequests (s : Session) :
    List MessageRouterRequest → Except GoError (List MessageRouterResponse × Session)
  | [] => .ok ([], s)
  | r :: rs => do
      let (resp, s) ← s.sendCIPRequest r
      let (resps, s) ← s.sendCIPRequests rs
      pure (resp :: resps, s)

theorem rrDataPayload_eq (request : Bytes) :
    rrDataPayload request = withInterfaceHeader (rrDataCPF request) :=
  rfl

theorem rrDataPayload_of_length_65536 {request : Bytes} (h : request.length = 65536) :
    rrDataPayload request = rrDataPayload [] := by
  simp [rrDataPayload, newCommonPacketFormat, CommonPacketFormat.encode, CPFItem.encode,
    newCPFItem, h]

variable {σ : Type} (mr : MessageRouter σ) (objects₀ : σ)

/-- The router run in-process on a sequence of requests, each on the objects the one
before left; it stops at the first Go error. -/
def dispatchAll :
    List MessageRouterRequest → σ → Except GoError (List MessageRouterResponse × σ)
  | [], s => .ok ([], s)
  | r :: rs, s =>
      match mr.dispatch r s with
      | (.error e, _) => .error e
      | (.ok resp, s') => (dispatchAll rs s').map fun (resps, s'') => (resp :: resps, s'')

/-- Requests that the router answers in turn with responses the framing carries: each
request a whole number of words with its frame within `MaxPacketSize`, each dispatch a
response whose encoding the reply's length fields count. -/
def Fits : List MessageRouterRequest → σ → Prop
  | [], _ => True
  | r :: rs, s => WordPath r ∧ 40 + r.encode.length ≤ maxPacketSize ∧
      match mr.dispatch r s with
      | (.error _, _) => False
      | (.ok resp, s') => resp.extStatus.length < 256 ∧
          16 + (encodeResponse resp).length < 65536 ∧ Fits rs s'

/-- The server of `GoeipProofs.Server`, started on `objects₀`, as a peer. -/
def serverPeer : Bytes → Bytes := fun sent => (handleConnection mr objects₀ sent).1

/-- A connection to the server whose frames the server has all answered, ending in
`st`, and whose replies have all been read. -/
structure Conn.Synced (c : Conn) (st : ConnState σ) : Prop where
  peer_eq : c.peer = serverPeer mr objects₀
  answered : ∃ out, Answered mr ⟨0, objects₀⟩ c.written st out ∧ c.read = out.length

theorem synced_newTCPTransport :
    (newTCPTransport (serverPeer mr objects₀)).Synced mr objects₀ ⟨0, objects₀⟩ :=
  ⟨rfl, [], .nil, rfl⟩

variable {mr objects₀}

theorem Conn.Synced.objects_eq {c : Conn} {st : ConnState σ} (hc : c.Synced mr objects₀ st) :
    (handleConnection mr objects₀ c.written).2 = st.objects := by
  obtain ⟨-, out, hans, -⟩ := hc
  have h := serveAll_append_of_answered mr hans []
  rw [List.append_nil, serveAll_nil] at h
  simp only [handleConnection, h]

theorem Conn.receive_send {c : Conn} {st st' : ConnState σ} (hc : c.Synced mr objects₀ st)
    {command : UInt16} {data : Bytes} {handle session status : UInt32} {respData : Bytes}
    (hmax : data.length ≤ maxPacketSize)
    (hcmd : handleCommand mr command handle data st = some ((session, status, respData), st'))
    (hlen : respData.length < 65536) :
    ∃ c', (c.send command data handle).receive =
        .ok ((⟨command, UInt16.ofNat respData.length, session, status, List.replicate 8 0, 0⟩,
          respData), c') ∧ c'.Synced mr objects₀ st' := by
  obtain ⟨hpeer, out, hans, hread⟩ := hc
  have hans' := hans.snoc hmax hcmd
  have hout : (c.send command data handle).peer (c.send command data handle).written =
      out ++ replyBytes command session status (List.replicate 8 0) respData := by
    have h := serveAll_append_of_answered mr hans' []
    rw [List.append_nil] at h
    simp only [Conn.send, hpeer, serverPeer, handleConnection, h, serveAll_nil, List.append_nil]
  have hrecv := receive_encode_append
    ⟨command, UInt16.ofNat respData.length, session, status, List.replicate 8 0, 0⟩ (by simp)
    (by simp [Nat.mod_eq_of_lt hlen] : (UInt16.ofNat respData.length).toNat = respData.length) []
  rw [ite_length_pos, List.append_nil, ← replyBytes_eq_encode] at hrecv
  refine ⟨{ c.send command data handle with
    read := (out ++ replyBytes command session status (List.replicate 8 0) respData).length },
    ?_, ⟨hpeer, _, hans', rfl⟩⟩
  have hread' : (c.send command data handle).read = out.length := hread
  simp only [Conn.receive, hout, hread', List.drop_left, hrecv, List.length_nil, Nat.sub_zero]

theorem Session.register_synced {s : Session} {st : ConnState σ}
    (hs : s.transport.Synced mr objects₀ st) :
    ∃ s', s.register = .ok s' ∧ s'.sessionHandle = 0x01020304 ∧
      s'.transport.Synced mr objects₀ { st with sessionHandle := 0x01020304 } := by
  have hcmd : handleCommand mr commandRegisterSession 0 registerSessionData st =
      some ((0x01020304, 0, registerSessionData), { st with sessionHandle := 0x01020304 }) :=
    rfl
  obtain ⟨c', hrecv, hc'⟩ := Conn.receive_send hs (by decide) hcmd (by decide)
  exact ⟨⟨c', 0x01020304⟩, by simp only [Session.register, hrecv]; rfl, rfl, hc'⟩

theorem Session.sendCIPRequest_synced {s : Session} {st : ConnState σ}
    (hs : s.transport.Synced mr objects₀ st) {r : MessageRouterRequest}
    {resp : MessageRouterResponse} {objects' : σ} (hr : WordPath r)
    (hmax : 40 + r.encode.length ≤ maxPacketSize)
    (hdispatch : mr.dispatch r st.objects = (.ok resp, objects'))
    (hext : resp.extStatus.length < 256) (hfit : 16 + (encodeResponse resp).length < 65536) :
    ∃ s', s.sendCIPRequest r = .ok (resp, s') ∧ s'.sessionHandle = s.sessionHandle ∧
      s'.transport.Synced mr objects₀ { st with objects := objects' } := by
  unfold maxPacketSize at hmax
  have hreq : r.encode.length < 65536 := by omega
  have hresp : (encodeResponse resp).length < 65536 := by omega
  have hcmd : handleCommand mr commandSendRRData s.sessionHandle (rrDataPayload r.encode) st =
      some ((s.sessionHandle, 0, rrDataPayload (encodeResponse resp)),
        { st with objects := objects' }) := by
    rw [handleCommand_sendRRData, rrDataPayload_eq, handleSendRRData_rrDataCPF mr hr hreq,
      hdispatch]
    rfl
  have hlen := length_rrDataCPF hresp
  obtain ⟨c', hrecv, hc'⟩ := Conn.receive_send hs
    (by rw [rrDataPayload_eq, length_rrDataCPF hreq]; unfold maxPacketSize; omega) hcmd
    (by rw [rrDataPayload_eq, hlen]; omega)
  have hsize := (dispatch_ok_response mr r st.objects hdispatch).2
  refine ⟨⟨c', s.sessionHandle⟩, ?_, rfl, hc'⟩
  simp only [Session.sendCIPRequest, Session.sendRRData, hrecv, ok_bind,
    rrDataPayload_eq (encodeResponse resp), hlen, decode_rrDataCPF hresp,
    if_neg (by omega : ¬ 16 + (encodeResponse resp).length < 6)]
  simp [Except.mapError, rrDataCPF, newCommonPacketFormat, CommonPacketFormat.findItemByType,
    newCPFItem, itemIDNullAddress, itemIDUnconnectedMessage,
    decodeMessageRouterResponse_encodeResponse hsize hext]

theorem Session.sendCIPRequests_synced {s : Session} {st : ConnState σ}
    (hs : s.transport.Synced mr objects₀ st) {rs : List MessageRouterRequest}
    (h : Fits mr rs st.objects) :
    ∃ resps objects' s', dispatchAll mr rs st.objects = .ok (resps, objects') ∧
      s.sendCIPRequests rs = .ok (resps, s') ∧
      s'.transport.Synced mr objects₀ { st with objects := objects' } := by
  induction rs generalizing s st with
  | nil => exact ⟨[], st.objects, s, rfl, rfl, hs⟩
  | cons r rs ih =>
      obtain ⟨hr, hmax, hd⟩ := h
      split at hd
      · exact hd.elim
      · rename_i resp objects₁ hdispatch
        obtain ⟨hext, hfit, hrest⟩ := hd
        obtain ⟨s₁, h₁, -, hs₁⟩ :=
          Session.sendCIPRequest_synced hs hr hmax hdispatch hext hfit
        obtain ⟨resps, objects', s', h₂, h₃, hs'⟩ := ih hs₁ hrest
        refine ⟨resp :: resps, objects', s', ?_, ?_, hs'⟩
        · simp only [dispatchAll, hdispatch]
          rw [h₂]
          rfl
        · simp only [Session.sendCIPRequests, h₁, ok_bind, h₃]
          rfl

variable (mr objects₀)

/-- A session against the server is the router called remotely: after `Register`, which
always succeeds, every sequence of requests that fit the framing returns exactly the
responses the router returns run in-process on the same objects, and the server, having
read every frame the session wrote, holds the objects that run leaves. -/
theorem session_refines_dispatchAll {rs : List MessageRouterRequest} (h : Fits mr rs objects₀) :
    ∃ s₁ resps objects' s₂,
      (newSession (newTCPTransport (serverPeer mr objects₀))).register = .ok s₁ ∧
      dispatchAll mr rs objects₀ = .ok (resps, objects') ∧
      s₁.sendCIPRequests rs = .ok (resps, s₂) ∧
      (handleConnection mr objects₀ s₂.transport.written).2 = objects' := by
  obtain ⟨s₁, h₁, -, hs₁⟩ := Session.register_synced
    (s := newSession (newTCPTransport (serverPeer mr objects₀)))
    (synced_newTCPTransport mr objects₀)
  obtain ⟨resps, objects', s₂, h₂, h₃, hs₂⟩ := Session.sendCIPRequests_synced hs₁ h
  exact ⟨s₁, resps, objects', s₂, h₁, h₂, h₃, hs₂.objects_eq⟩

def counterRouter : MessageRouter Nat :=
  ⟨fun classID =>
    if classID = 4 then some ⟨fun _ _ _ n => (.ok [UInt8.ofNat n], n + 1)⟩ else none⟩

theorem session_refines_dispatchAll_counter :
    Fits counterRouter
      [⟨0x0E, [0x20, 0x04, 0x24, 0x01], []⟩, ⟨0x0E, [0x20, 0x04, 0x24, 0x01], []⟩] 7 ∧
    ∃ s₁ resps objects' s₂,
      (newSession (newTCPTransport (serverPeer counterRouter 7))).register = .ok s₁ ∧
      dispatchAll counterRouter
        [⟨0x0E, [0x20, 0x04, 0x24, 0x01], []⟩, ⟨0x0E, [0x20, 0x04, 0x24, 0x01], []⟩] 7 =
          .ok (resps, objects') ∧
      s₁.sendCIPRequests
        [⟨0x0E, [0x20, 0x04, 0x24, 0x01], []⟩, ⟨0x0E, [0x20, 0x04, 0x24, 0x01], []⟩] =
          .ok (resps, s₂) ∧
      (handleConnection counterRouter 7 s₂.transport.written).2 = objects' := by
  have h : Fits counterRouter
      [⟨0x0E, [0x20, 0x04, 0x24, 0x01], []⟩, ⟨0x0E, [0x20, 0x04, 0x24, 0x01], []⟩] 7 :=
    ⟨⟨rfl, by decide, by decide⟩, by decide, by decide, by decide,
      ⟨rfl, by decide, by decide⟩, by decide, by decide, by decide, trivial⟩
  exact ⟨h, session_refines_dispatchAll counterRouter 7 h⟩

/-- Explicit messaging end to end, for a request whose frame carries its whole encoding
within `MaxPacketSize`: after `Register`, `SendCIPRequest` returns the response
`Dispatch` returns on the server's objects; and the server's reply to a `SendUnitData`
frame carrying the request decodes to the same response, echoing the connected address
and the sequence count. -/
theorem sendCIPRequest_eq_dispatch {r : MessageRouterRequest} {resp : MessageRouterResponse}
    {objects' : σ} (hr : WordPath r) (hmax : 40 + r.encode.length ≤ maxPacketSize)
    (hdispatch : mr.dispatch r objects₀ = (.ok resp, objects'))
    (hext : resp.extStatus.length < 256) :
    (16 + (encodeResponse resp).length < 65536 →
      ∃ s₁ s₂,
        (newSession (newTCPTransport (serverPeer mr objects₀))).register = .ok s₁ ∧
        s₁.sendCIPRequest r = .ok (resp, s₂)) ∧
    ∀ (connID : UInt32) (q : UInt16) (handle : UInt32) (st : ConnState σ) (rest : Bytes),
      st.objects = objects₀ → 22 + (encodeResponse resp).length < 65536 →
      ∃ header payload cpf addrItem dataItem,
        TCPTransport.receive (serveAll mr st (TCPTransport.send commandSendUnitData
            (withInterfaceHeader (unitDataCPF (putUint32 connID) q r.encode)) handle ++ rest)).1 =
          .ok (header, payload, (serveAll mr { st with objects := objects' } rest).1) ∧
        header.status = 0 ∧ header.sessionHandle = handle ∧
        decodeCommonPacketFormat (payload.drop 6) = .ok cpf ∧
        cpf.findItemByType itemIDConnectedAddress = some addrItem ∧
        addrItem.data = putUint32 connID ∧
        cpf.findItemByType itemIDConnectedData = some dataItem ∧ uint16 dataItem.data = q ∧
        decodeMessageRouterResponse (dataItem.data.drop 2) = .ok resp := by
  have hsize := (dispatch_ok_response mr r objects₀ hdispatch).2
  refine ⟨fun hfit => ?_, fun connID q handle st rest hst hfit => ?_⟩
  · obtain ⟨s₁, h₁, -, hs₁⟩ := Session.register_synced
      (s := newSession (newTCPTransport (serverPeer mr objects₀)))
      (synced_newTCPTransport mr objects₀)
    obtain ⟨s₂, h₂, -⟩ := Session.sendCIPRequest_synced hs₁ hr hmax hdispatch hext hfit
    exact ⟨s₁, s₂, h₁, h₂⟩
  · unfold maxPacketSize at hmax
    have hreq : r.encode.length + 2 < 65536 := by omega
    have hlen := length_unitDataCPF q (by simp : (putUint32 connID).length < 65536) hreq
    have hcmd : handleCommand mr commandSendUnitData handle
        (withInterfaceHeader (unitDataCPF (putUint32 connID) q r.encode)) st =
        some ((handle, 0, withInterfaceHeader (unitDataCPF (putUint32 connID) q
          (encodeResponse resp))), { st with objects := objects' }) := by
      rw [handleCommand_sendUnitData, handleSendUnitData_unitDataCPF mr hr q (by simp) (by simp)
        hreq, hst, hdispatch]
      rfl
    have hrecv := receive_serveAll_send_append mr st
      (by rw [hlen, length_putUint32]; unfold maxPacketSize; omega) hcmd
      (by rw [length_unitDataCPF q (by simp) (by omega), length_putUint32]; omega) rest
    refine ⟨_, _, _, _, _, hrecv, rfl, rfl, decode_unitDataCPF q (by simp) (by omega), rfl, rfl,
      rfl, by simp [newCPFItem], ?_⟩
    simp [newCPFItem, decodeMessageRouterResponse_encodeResponse hsize hext]

theorem sendCIPRequest_eq_dispatch_counter :
    WordPath ⟨0x0E, [0x20, 0x04, 0x24, 0x01], []⟩ ∧
    40 + (⟨0x0E, [0x20, 0x04, 0x24, 0x01], []⟩ : MessageRouterRequest).encode.length ≤
      maxPacketSize ∧
    counterRouter.dispatch ⟨0x0E, [0x20, 0x04, 0x24, 0x01], []⟩ 7 =
      (.ok ⟨0x8E, 0, 0, 0, [], [7]⟩, 8) ∧
    ([] : List UInt16).length < 256 ∧
    ∃ s₁ s₂,
      (newSession (newTCPTransport (serverPeer counterRouter 7))).register = .ok s₁ ∧
      s₁.sendCIPRequest ⟨0x0E, [0x20, 0x04, 0x24, 0x01], []⟩ =
        .ok (⟨0x8E, 0, 0, 0, [], [7]⟩, s₂) :=
  ⟨⟨rfl, by decide, by decide⟩, by decide, rfl, by decide,
    (sendCIPRequest_eq_dispatch counterRouter 7
      (⟨rfl, by decide, by decide⟩ : WordPath ⟨0x0E, [0x20, 0x04, 0x24, 0x01], []⟩)
      (by decide) rfl (by decide)).1 (by decide)⟩

/-- A 64 KiB request against an empty router: the 40-byte frame carries an empty
unconnected message, the server cannot decode it and answers status `0x0001`, and
`SendCIPRequest` fails where `Dispatch` returns `ObjectDoesNotExist`. -/
theorem sendCIPRequest_drops_64KiB_request :
    (⟨0x0E, [0x20, 0x04], List.replicate 65532 0⟩ : MessageRouterRequest).encode.length =
      65536 ∧
    (TCPTransport.send commandSendRRData
      (rrDataPayload
        (⟨0x0E, [0x20, 0x04], List.replicate 65532 0⟩ : MessageRouterRequest).encode)
      0x01020304).length = 40 ∧
    (⟨fun _ => none⟩ : MessageRouter Unit).dispatch
        ⟨0x0E, [0x20, 0x04], List.replicate 65532 0⟩ () =
      (.ok ⟨0x8E, 0, statusObjectDoesNotExist, 0, [], []⟩, ()) ∧
    ((newSession
        (newTCPTransport (serverPeer (⟨fun _ => none⟩ : MessageRouter Unit) ()))).register.bind
        fun s => s.sendCIPRequest ⟨0x0E, [0x20, 0x04], List.replicate 65532 0⟩) =
      .error (.errorf "RRData command failed with status: 0x%08X" [1]) := by
  have hlen :
      (⟨0x0E, [0x20, 0x04], List.replicate 65532 0⟩ : MessageRouterRequest).encode.length =
        65536 := by
    rw [MessageRouterRequest.encode, ite_length_pos]
    simp only [List.length_append, List.length_replicate, List.length_cons, List.length_nil]
  have hpay := rrDataPayload_of_length_65536 hlen
  refine ⟨hlen, by rw [hpay]; rfl, rfl, ?_⟩
  simp only [Session.sendCIPRequest, Session.sendRRData, hpay]
  rfl

end GoeipProofs.Originator
