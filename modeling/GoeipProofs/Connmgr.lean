import GoeipProofs.Router

/-!
The Connection Manager object (`pkg/objects/connmgr`): `Forward_Open` and
`Large_Forward_Open` allocate the next T->O connection id from a 32-bit counter and
record the connection under it; `Forward_Close` decodes its request and answers
without touching the table. The two opens differ only in the width of the network
connection parameters, so they are one definition over that width.
-/

namespace GoeipProofs.Connmgr

open GoeipProofs.Wire GoeipProofs.Router

/-- `ServiceForwardClose` -/
def serviceForwardClose : UInt8 := 0x4E
/-- `ServiceForwardOpen` -/
def serviceForwardOpen : UInt8 := 0x54
/-- `ServiceLargeForwardOpen` -/
def serviceLargeForwardOpen : UInt8 := 0x5B

/-- `ForwardOpenRequest`, and `LargeForwardOpenRequest` with the network connection
parameters a `DWORD` instead of a `WORD`. -/
structure ForwardOpenRequest where
  priorityTimeTick : UInt8
  timeoutTicks : UInt8
  otConnectionID : UInt32
  toConnectionID : UInt32
  connectionSerialNumber : UInt16
  vendorID : UInt16
  originatorSerialNumber : UInt32
  connectionTimeoutMultiplier : UInt8
  reserved : Bytes
  otRPI : UInt32
  otNetworkConnectionParams : Nat
  toRPI : UInt32
  toNetworkConnectionParams : Nat
  transportTypeTrigger : UInt8
  connectionPathSize : UInt8
  connectionPath : Bytes
  deriving DecidableEq, Repr

/-- `ForwardOpenResponse`, the layout `LargeForwardOpenResponse` shares; the application
reply is always empty. -/
structure ForwardOpenResponse where
  otConnectionID : UInt32
  toConnectionID : UInt32
  connectionSerialNumber : UInt16
  vendorID : UInt16
  originatorSerialNumber : UInt32
  otAPI : UInt32
  toAPI : UInt32
  applicationReplySize : UInt8
  reserved : UInt8
  deriving DecidableEq, Repr

/-- `ForwardCloseRequest` -/
structure ForwardCloseRequest where
  priorityTimeTick : UInt8
  timeoutTicks : UInt8
  connectionSerialNumber : UInt16
  vendorID : UInt16
  originatorSerialNumber : UInt32
  connectionPathSize : UInt8
  reserved : UInt8
  connectionPath : Bytes
  deriving DecidableEq, Repr

/-- `ForwardCloseResponse`; the application reply is always empty. -/
structure ForwardCloseResponse where
  connectionSerialNumber : UInt16
  vendorID : UInt16
  originatorSerialNumber : UInt32
  applicationReplySize : UInt8
  reserved : UInt8
  deriving DecidableEq, Repr

/-- The request decode of `HandleForwardOpen` (`paramsWidth = 2`) and
`HandleLargeForwardOpen` (`paramsWidth = 4`): `binary.Read` of every field, then
`bytes.Reader.Read` of the connection path. -/
def decodeForwardOpen (paramsWidth : Nat) (reqData : Bytes) :
    Except GoError ForwardOpenRequest := do
  let (priorityTimeTick, r) ← readUint8 reqData
  let (timeoutTicks, r) ← readUint8 r
  let (otConnectionID, r) ← readUint32 r
  let (toConnectionID, r) ← readUint32 r
  let (connectionSerialNumber, r) ← readUint16 r
  let (vendorID, r) ← readUint16 r
  let (originatorSerialNumber, r) ← readUint32 r
  let (connectionTimeoutMultiplier, r) ← readUint8 r
  let (reserved, r) ← readFull 3 r
  let (otRPI, r) ← readUint32 r
  let (otParams, r) ← readFull paramsWidth r
  let (toRPI, r) ← readUint32 r
  let (toParams, r) ← readFull paramsWidth r
  let (transportTypeTrigger, r) ← readUint8 r
  let (connectionPathSize, r) ← readUint8 r
  let (connectionPath, _) ← readInto (connectionPathSize.toNat * 2) r
  pure ⟨priorityTimeTick, timeoutTicks, otConnectionID, toConnectionID, connectionSerialNumber,
    vendorID, originatorSerialNumber, connectionTimeoutMultiplier, reserved, otRPI,
    leValue otParams, toRPI, leValue toParams, transportTypeTrigger, connectionPathSize,
    connectionPath⟩

/-- The request decode of `HandleForwardClose`. -/
def decodeForwardClose (reqData : Bytes) : Except GoError ForwardCloseRequest := do
  let (priorityTimeTick, r) ← readUint8 reqData
  let (timeoutTicks, r) ← readUint8 r
  let (connectionSerialNumber, r) ← readUint16 r
  let (vendorID, r) ← readUint16 r
  let (originatorSerialNumber, r) ← readUint32 r
  let (connectionPathSize, r) ← readUint8 r
  let (reserved, r) ← readUint8 r
  let (connectionPath, _) ← readInto (connectionPathSize.toNat * 2) r
  pure ⟨priorityTimeTick, timeoutTicks, connectionSerialNumber, vendorID,
    originatorSerialNumber, connectionPathSize, reserved, connectionPath⟩

/-- The reply of both opens: `binary.Write` of every field. -/
def ForwardOpenResponse.encode (resp : ForwardOpenResponse) : Bytes :=
  putUint32 resp.otConnectionID ++ putUint32 resp.toConnectionID ++
    putUint16 resp.connectionSerialNumber ++ putUint16 resp.vendorID ++
    putUint32 resp.originatorSerialNumber ++ putUint32 resp.otAPI ++ putUint32 resp.toAPI ++
    [resp.applicationReplySize, resp.reserved]

/-- The reply of `HandleForwardClose`. -/
def ForwardCloseResponse.encode (resp : ForwardCloseResponse) : Bytes :=
  putUint16 resp.connectionSerialNumber ++ putUint16 resp.vendorID ++
    putUint32 resp.originatorSerialNumber ++ [resp.applicationReplySize, resp.reserved]

/-- `encodeForwardOpen` of the scanner (`cmd/scanner`): `binary.Write` of every field of
a standard request, then the path. -/
def encodeForwardOpen (req : ForwardOpenRequest) : Bytes :=
  [req.priorityTimeTick, req.timeoutTicks] ++ putUint32 req.otConnectionID ++
    putUint32 req.toConnectionID ++ putUint16 req.connectionSerialNumber ++
    putUint16 req.vendorID ++ putUint32 req.originatorSerialNumber ++
    [req.connectionTimeoutMultiplier] ++ req.reserved ++ putUint32 req.otRPI ++
    leBytes 2 req.otNetworkConnectionParams ++ putUint32 req.toRPI ++
    leBytes 2 req.toNetworkConnectionParams ++ [req.transportTypeTrigger, req.connectionPathSize] ++
    req.connectionPath

/-- The request `cmd/scanner` sends: RPI 100 ms both ways, connection points 150 (O->T)
and 100 (T->O) of class 4. -/
def scannerForwardOpen : ForwardOpenRequest :=
  ⟨0x0A, 249, 0x10000001, 0, 1234, 0x1337, 5678, 1, [0, 0, 0], 100000, 0x4224, 100000, 0x4224,
    0x01, 3, [0x20, 0x04, 0x24, 150, 0x2C, 100]⟩

/-- The target reads back every standard request the scanner encodes with a non-empty
path of the declared size. -/
theorem decodeForwardOpen_encode {req : ForwardOpenRequest} (hres : req.reserved.length = 3)
    (hot : req.otNetworkConnectionParams < 65536) (hto : req.toNetworkConnectionParams < 65536)
    (hpath : req.connectionPath.length = req.connectionPathSize.toNat * 2)
    (hne : req.connectionPath ≠ []) :
    decodeForwardOpen 2 (encodeForwardOpen req) = .ok req := by
  have hread := readInto_append [] hpath (by simpa using hne)
  rw [List.append_nil] at hread
  simp only [decodeForwardOpen, encodeForwardOpen, List.append_assoc, List.cons_append,
    List.nil_append, readUint8_cons, ok_bind, readUint32_putUint32_append,
    readUint16_putUint16_append, readFull_append _ hres, readFull_append _ (length_leBytes 2 _),
    hread, leValue_leBytes,
    Nat.mod_eq_of_lt (show req.otNetworkConnectionParams < 256 ^ 2 from hot),
    Nat.mod_eq_of_lt (show req.toNetworkConnectionParams < 256 ^ 2 from hto)]
  rfl

theorem decodeForwardOpen_encode_scanner :
    scannerForwardOpen.reserved.length = 3 ∧
    scannerForwardOpen.otNetworkConnectionParams < 65536 ∧
    scannerForwardOpen.toNetworkConnectionParams < 65536 ∧
    scannerForwardOpen.connectionPath.length = scannerForwardOpen.connectionPathSize.toNat * 2 ∧
    scannerForwardOpen.connectionPath ≠ [] ∧
    decodeForwardOpen 2 (encodeForwardOpen scannerForwardOpen) = .ok scannerForwardOpen :=
  ⟨rfl, by decide, by decide, rfl, by decide,
    (decodeForwardOpen_encode rfl (by decide) (by decide) rfl (by decide) :
      decodeForwardOpen 2 (encodeForwardOpen scannerForwardOpen) = .ok scannerForwardOpen)⟩

theorem decodeForwardOpen_isOk_iff (w : Nat) (d : Bytes) :
    (∃ req, decodeForwardOpen w d = .ok req) ↔ 32 + 2 * w < d.length := by
  simp only [decodeForwardOpen, readUint8, readUint16, readUint32, bind_assoc, pure_bind,
    bind_eq_ok, readFull_eq_ok_iff, and_assoc, exists_and_left, exists_eq_left, List.drop_drop,
    List.length_drop]
  simp only [pure, Except.pure, Except.ok.injEq, exists_comm, exists_and_left, exists_eq',
    and_true, readInto_isOk_iff, ne_eq, List.drop_eq_nil_iff]
  omega

theorem onlyEOF_decodeForwardOpen (w : Nat) (d : Bytes) : OnlyEOF (decodeForwardOpen w d) := by
  unfold decodeForwardOpen readUint8 readUint16 readUint32
  repeat' first
    | exact onlyEOF_readFull _ _
    | exact onlyEOF_readInto _ _
    | exact onlyEOF_pure _
    | apply onlyEOF_bind
    | rintro ⟨_, _⟩

/-- `Connection` -/
structure Connection where
  otConnectionID : UInt32
  toConnectionID : UInt32
  deriving DecidableEq, Repr

/-- `ConnectionManager`: the table by T->O id and the id counter. -/
structure ConnectionManager where
  connections : UInt32 → Option Connection
  nextConnID : UInt32

/-- `NewConnectionManager` -/
def newConnectionManager : ConnectionManager := ⟨fun _ => none, 0x80000000⟩

namespace ConnectionManager

/-- `HandleForwardOpen` and `HandleLargeForwardOpen`: increment the counter, record the
connection under the new id and answer with it. -/
def handleForwardOpenWith (paramsWidth : Nat) (cm : ConnectionManager) (reqData : Bytes) :
    Except GoError Bytes × ConnectionManager :=
  match decodeForwardOpen paramsWidth reqData with
  | .error e => (.error e, cm)
  | .ok req =>
      let myConnID := cm.nextConnID + 1
      let cm : ConnectionManager :=
        ⟨Function.update cm.connections myConnID (some ⟨req.otConnectionID, myConnID⟩),
          myConnID⟩
      (.ok (ForwardOpenResponse.encode ⟨req.otConnectionID, myConnID, req.connectionSerialNumber,
        req.vendorID, req.originatorSerialNumber, req.otRPI, req.toRPI, 0, 0⟩), cm)

/-- `ConnectionManager.HandleForwardOpen` -/
def handleForwardOpen (cm : ConnectionManager) (reqData : Bytes) :
    Except GoError Bytes × ConnectionManager :=
  handleForwardOpenWith 2 cm reqData

/-- `ConnectionManager.HandleLargeForwardOpen` -/
def handleLargeForwardOpen (cm : ConnectionManager) (reqData : Bytes) :
    Except GoError Bytes × ConnectionManager :=
  handleForwardOpenWith 4 cm reqData

/-- `ConnectionManager.HandleForwardClose`: the table is not consulted. -/
def handleForwardClose (reqData : Bytes) : Except GoError Bytes :=
  (decodeForwardClose reqData).map fun req =>
    ForwardCloseResponse.encode ⟨req.connectionSerialNumber, req.vendorID,
      req.originatorSerialNumber, 0, 0⟩

/-- `ConnectionManager.HandleRequest` -/
def handleRequest (cm : ConnectionManager) (service : UInt8) (_path data : Bytes) :
    Except GoError Bytes × ConnectionManager :=
  if service = serviceForwardOpen then cm.handleForwardOpen data
  else if service = serviceLargeForwardOpen then cm.handleLargeForwardOpen data
  else if service = serviceForwardClose then (handleForwardClose data, cm)
  else (.error (cipError statusServiceNotSupported), cm)

/-- The results of a sequence of requests `(service, data)`, and the manager after
them. -/
def run (cm : ConnectionManager) : List (UInt8 × Bytes) →
    List (Except GoError Bytes) × ConnectionManager
  | [] => ([], cm)
  | (service, data) :: reqs =>
      let (result, cm) := cm.handleRequest service [] data
      let (results, cm) := cm.run reqs
      (result :: results, cm)

end ConnectionManager

namespace ConnectionManager

variable (cm : ConnectionManager)

theorem handleForwardOpenWith_of_ok {paramsWidth : Nat} {reqData : Bytes}
    {req : ForwardOpenRequest} (h : decodeForwardOpen paramsWidth reqData = .ok req) :
    cm.handleForwardOpenWith paramsWidth reqData =
      (.ok (ForwardOpenResponse.encode ⟨req.otConnectionID, cm.nextConnID + 1,
        req.connectionSerialNumber, req.vendorID, req.originatorSerialNumber, req.otRPI, req.toRPI,
        0, 0⟩),
        ⟨Function.update cm.connections (cm.nextConnID + 1)
          (some ⟨req.otConnectionID, cm.nextConnID + 1⟩), cm.nextConnID + 1⟩) := by
  simp [handleForwardOpenWith, h]

theorem handleForwardOpenWith_of_error {paramsWidth : Nat} {reqData : Bytes} {e : GoError}
    (h : decodeForwardOpen paramsWidth reqData = .error e) :
    cm.handleForwardOpenWith paramsWidth reqData = (.error e, cm) := by
  simp [handleForwardOpenWith, h]

theorem handleRequest_cases (service : UInt8) (path data : Bytes) :
    (cm.handleRequest service path data).2 = cm ∨
      ∃ otConnectionID, (cm.handleRequest service path data).2 =
        ⟨Function.update cm.connections (cm.nextConnID + 1)
          (some ⟨otConnectionID, cm.nextConnID + 1⟩), cm.nextConnID + 1⟩ := by
  have hopen : ∀ w, (cm.handleForwardOpenWith w data).2 = cm ∨
      ∃ otConnectionID, (cm.handleForwardOpenWith w data).2 =
        ⟨Function.update cm.connections (cm.nextConnID + 1)
          (some ⟨otConnectionID, cm.nextConnID + 1⟩), cm.nextConnID + 1⟩ := by
    intro w
    cases h : decodeForwardOpen w data with
    | error e => exact Or.inl (by rw [handleForwardOpenWith_of_error cm h])
    | ok req => exact Or.inr ⟨req.otConnectionID, by rw [handleForwardOpenWith_of_ok cm h]⟩
  unfold handleRequest
  split_ifs
  · exact hopen 2
  · exact hopen 4
  · exact Or.inl rfl
  · exact Or.inl rfl

theorem isSome_handleRequest {j : UInt32} (hj : (cm.connections j).isSome) (service : UInt8)
    (path data : Bytes) : ((cm.handleRequest service path data).2.connections j).isSome := by
  rcases cm.handleRequest_cases service path data with h | ⟨ot, h⟩ <;> rw [h]
  · exact hj
  · by_cases hji : j = cm.nextConnID + 1
    · subst hji
      simp
    · simpa [Function.update_noteq hji] using hj

theorem isSome_run {j : UInt32} : ∀ {cm : ConnectionManager} (reqs : List (UInt8 × Bytes)),
    (cm.connections j).isSome → ((cm.run reqs).2.connections j).isSome
  | _, [], hj => hj
  | cm, (service, data) :: reqs, hj => isSome_run reqs (cm.isSome_handleRequest hj service [] data)

theorem run_cons_snd (service : UInt8) (data : Bytes) (reqs : List (UInt8 × Bytes)) :
    (cm.run ((service, data) :: reqs)).2 = ((cm.handleRequest service [] data).2.run reqs).2 :=
  rfl

theorem handleRequest_forwardOpen (data : Bytes) :
    cm.handleRequest serviceForwardOpen [] data = cm.handleForwardOpenWith 2 data :=
  rfl

theorem run_forwardOpens {data : Bytes} {req : ForwardOpenRequest}
    (h : decodeForwardOpen 2 data = .ok req) :
    ∀ (n : Nat) (cm : ConnectionManager),
      (cm.run (List.replicate n (serviceForwardOpen, data))).2.nextConnID.toNat =
        (cm.nextConnID.toNat + n) % 4294967296
  | 0, cm => by simp [run, Nat.mod_eq_of_lt (uint32_toNat_lt _)]
  | n + 1, cm => by
      rw [List.replicate_succ, run, handleRequest_forwardOpen, handleForwardOpenWith_of_ok cm h]
      dsimp only
      rw [run_forwardOpens h n, uint32_toNat_add, show (1 : UInt32).toNat = 1 from rfl]
      omega

/-- The ids the next `m` successful opens would allocate are all unrecorded. -/
def FreshIDs (m : Nat) : Prop :=
  ∀ k, 1 ≤ k → k ≤ m → cm.connections (cm.nextConnID + UInt32.ofNat k) = none

/-- Each request of a run that allocates an id allocates one no recorded connection has. -/
def OpensFresh : ConnectionManager → List (UInt8 × Bytes) → Prop
  | _, [] => True
  | cm, (service, data) :: reqs =>
      ((cm.handleRequest service [] data).2.nextConnID ≠ cm.nextConnID →
        cm.connections (cm.nextConnID + 1) = none) ∧
      OpensFresh (cm.handleRequest service [] data).2 reqs

theorem freshIDs_handleRequest {m : Nat} (hm : m < 4294967296) (h : cm.FreshIDs (m + 1))
    (service : UInt8) (path data : Bytes) : (cm.handleRequest service path data).2.FreshIDs m := by
  rcases cm.handleRequest_cases service path data with hc | ⟨ot, hc⟩ <;> rw [hc]
  · exact fun k hk hkm => h k hk (by omega)
  · intro k hk hkm
    have hne : cm.nextConnID + 1 + UInt32.ofNat k ≠ cm.nextConnID + 1 := by
      intro heq
      have := congrArg UInt32.toNat heq
      simp only [uint32_toNat_add, uint32_toNat_ofNat, show (1 : UInt32).toNat = 1 from rfl] at this
      omega
    have hk' : cm.nextConnID + 1 + UInt32.ofNat k = cm.nextConnID + UInt32.ofNat (k + 1) := by
      apply UInt32.toNat.inj
      simp only [uint32_toNat_add, uint32_toNat_ofNat, show (1 : UInt32).toNat = 1 from rfl]
      omega
    simp only [Function.update_noteq hne, hk']
    exact h (k + 1) (by omega) (by omega)

theorem opensFresh_of_freshIDs :
    ∀ (reqs : List (UInt8 × Bytes)) {cm : ConnectionManager}, reqs.length ≤ 4294967296 →
      cm.FreshIDs reqs.length → OpensFresh cm reqs
  | [], _, _, _ => trivial
  | (service, data) :: reqs, cm, hlen, h => by
      simp only [List.length_cons] at hlen h
      refine ⟨fun _ => ?_, opensFresh_of_freshIDs reqs (by omega)
        (cm.freshIDs_handleRequest (by omega) h service [] data)⟩
      simpa using h 1 le_rfl (by omega)

end ConnectionManager

/-- On a new manager, each of the first 2^32 requests that allocates a T->O id allocates
one that no recorded connection has. -/
theorem newConnectionManager_opensFresh {reqs : List (UInt8 × Bytes)}
    (h : reqs.length ≤ 4294967296) : ConnectionManager.OpensFresh newConnectionManager reqs :=
  ConnectionManager.opensFresh_of_freshIDs reqs h fun _ _ _ => rfl

theorem newConnectionManager_opensFresh_scanner :
    [(serviceForwardOpen, encodeForwardOpen scannerForwardOpen),
        (serviceForwardOpen, encodeForwardOpen scannerForwardOpen)].length ≤ 4294967296 ∧
      ConnectionManager.OpensFresh newConnectionManager
        [(serviceForwardOpen, encodeForwardOpen scannerForwardOpen),
          (serviceForwardOpen, encodeForwardOpen scannerForwardOpen)] :=
  ⟨by decide, newConnectionManager_opensFresh (by decide)⟩

/-- A `Forward_Close` with the triad of the open connection leaves it in the table; and
after 2^32 opens the counter is back where it started, so the next open allocates
`0x80000001` again although a connection is recorded under it. -/
theorem connmgr_close_and_wrap :
    (newConnectionManager.run [(serviceForwardOpen, encodeForwardOpen scannerForwardOpen),
        (serviceForwardClose, [0x0A, 249] ++ putUint16 1234 ++ putUint16 0x1337 ++
          putUint32 5678 ++ [3, 0] ++ [0x20, 0x04, 0x24, 150, 0x2C, 100])]).1 =
      [.ok (ForwardOpenResponse.encode
          ⟨0x10000001, 0x80000001, 1234, 0x1337, 5678, 100000, 100000, 0, 0⟩),
        .ok (ForwardCloseResponse.encode ⟨1234, 0x1337, 5678, 0, 0⟩)] ∧
    (newConnectionManager.run [(serviceForwardOpen, encodeForwardOpen scannerForwardOpen),
        (serviceForwardClose, [0x0A, 249] ++ putUint16 1234 ++ putUint16 0x1337 ++
          putUint32 5678 ++ [3, 0] ++ [0x20, 0x04, 0x24, 150, 0x2C, 100])]).2.connections
        0x80000001 = some ⟨0x10000001, 0x80000001⟩ ∧
    ((newConnectionManager.run
        (List.replicate 4294967296
          (serviceForwardOpen, encodeForwardOpen scannerForwardOpen))).2.connections
        0x80000001).isSome ∧
    ((newConnectionManager.run
        (List.replicate 4294967296
          (serviceForwardOpen, encodeForwardOpen scannerForwardOpen))).2.handleRequest
        serviceForwardOpen [] (encodeForwardOpen scannerForwardOpen)).1 =
      .ok (ForwardOpenResponse.encode
        ⟨0x10000001, 0x80000001, 1234, 0x1337, 5678, 100000, 100000, 0, 0⟩) := by
  have hd : decodeForwardOpen 2 (encodeForwardOpen scannerForwardOpen) = .ok scannerForwardOpen :=
    rfl
  refine ⟨rfl, rfl, ?_, ?_⟩
  · have hfirst : ((newConnectionManager.handleRequest serviceForwardOpen []
        (encodeForwardOpen scannerForwardOpen)).2.connections 0x80000001).isSome := by
      rw [ConnectionManager.handleRequest_forwardOpen,
        ConnectionManager.handleForwardOpenWith_of_ok _ hd]
      rfl
    have hrep :
        List.replicate 4294967296 (serviceForwardOpen, encodeForwardOpen scannerForwardOpen) =
        (serviceForwardOpen, encodeForwardOpen scannerForwardOpen) ::
          List.replicate 4294967295 (serviceForwardOpen, encodeForwardOpen scannerForwardOpen) :=
      List.replicate_succ _ _
    rw [hrep, ConnectionManager.run_cons_snd]
    exact ConnectionManager.isSome_run _ hfirst
  · have hnext := ConnectionManager.run_forwardOpens hd 4294967296 newConnectionManager
    rw [ConnectionManager.handleRequest_forwardOpen,
      ConnectionManager.handleForwardOpenWith_of_ok _ hd]
    have h1 : (newConnectionManager.run (List.replicate 4294967296
        (serviceForwardOpen, encodeForwardOpen scannerForwardOpen))).2.nextConnID + 1 =
          0x80000001 := by
      apply UInt32.toNat.inj
      rw [uint32_toNat_add, hnext]
      rfl
    rw [h1]
    rfl

/-- The Connection Manager as a router object. -/
def ConnectionManager.asObject : Object ConnectionManager :=
  ⟨fun service path data cm => cm.handleRequest service path data⟩

/-- The adapter's router with the Connection Manager registered. -/
def connmgrRouter : MessageRouter ConnectionManager :=
  newMessageRouter.registerObject classConnectionMgr ConnectionManager.asObject

theorem connmgrRouter_dispatch (cm : ConnectionManager) (service : UInt8) (q d : Bytes) :
    connmgrRouter.dispatch ⟨service, 0x20 :: 0x06 :: q, d⟩ cm =
      (.ok (responseOf service (cm.handleRequest service q d).1),
        (cm.handleRequest service q d).2) :=
  dispatch_of_registered connmgrRouter _ cm
    (show classSegment (0x20 :: 0x06 :: q) = some (0x06, q) from rfl) (Function.update_same _ _ _)

namespace ConnectionManager

variable (cm : ConnectionManager)

theorem handleForwardOpenWith_isOk_iff (w : Nat) (d : Bytes) :
    (∃ reply, (cm.handleForwardOpenWith w d).1 = .ok reply) ↔ 32 + 2 * w < d.length := by
  rw [← decodeForwardOpen_isOk_iff]
  cases h : decodeForwardOpen w d with
  | error e => simp [handleForwardOpenWith_of_error cm h]
  | ok req => simp [handleForwardOpenWith_of_ok cm h]

theorem dispatch_forwardOpenWith_of_short {service : UInt8} {w : Nat} (q : Bytes) {d : Bytes}
    (hs : ∀ q, cm.handleRequest service q d = cm.handleForwardOpenWith w d)
    (h : d.length ≤ 32 + 2 * w) :
    connmgrRouter.dispatch ⟨service, 0x20 :: 0x06 :: q, d⟩ cm =
      (.ok ⟨service ||| 0x80, 0, statusServiceNotSupported, 0, [], []⟩, cm) := by
  cases hd : decodeForwardOpen w d with
  | ok req => exact absurd ((decodeForwardOpen_isOk_iff w d).mp ⟨req, hd⟩) (by omega)
  | error e =>
      rw [connmgrRouter_dispatch, hs, handleForwardOpenWith_of_error cm hd]
      rcases onlyEOF_decodeForwardOpen w d e hd with rfl | rfl <;> rfl

end ConnectionManager

theorem forwardOpen_accepts_by_fixed_length (cm : ConnectionManager) (q d : Bytes) :
    ((∃ reply, (cm.handleRequest serviceForwardOpen q d).1 = .ok reply) ↔ 37 ≤ d.length) ∧
    ((∃ reply, (cm.handleRequest serviceLargeForwardOpen q d).1 = .ok reply) ↔
      41 ≤ d.length) ∧
    (d.length < 37 → connmgrRouter.dispatch ⟨serviceForwardOpen, 0x20 :: 0x06 :: q, d⟩ cm =
      (.ok ⟨0xD4, 0, statusServiceNotSupported, 0, [], []⟩, cm)) ∧
    (d.length < 41 → connmgrRouter.dispatch ⟨serviceLargeForwardOpen, 0x20 :: 0x06 :: q, d⟩ cm =
      (.ok ⟨0xDB, 0, statusServiceNotSupported, 0, [], []⟩, cm)) :=
  ⟨cm.handleForwardOpenWith_isOk_iff 2 d, cm.handleForwardOpenWith_isOk_iff 4 d,
    fun h => cm.dispatch_forwardOpenWith_of_short q (fun _ => rfl) (by omega),
    fun h => cm.dispatch_forwardOpenWith_of_short q (fun _ => rfl) (by omega)⟩

end GoeipProofs.Connmgr
