import GoeipProofs.Message

/-!
The message router (`pkg/cip/router.go`): objects indexed by class id, and
`Dispatch`, which reads the leading class segment of a request path, hands the
rest of the path to the object and folds the object's failures into a CIP
general status.
-/

namespace GoeipProofs.Router

open GoeipProofs.Wire GoeipProofs.Message

/-- `StatusSuccess` -/
def statusSuccess : UInt8 := 0x00
/-- `StatusPathSegmentError` -/
def statusPathSegmentError : UInt8 := 0x04
/-- `StatusPathDestinationUnknown` -/
def statusPathDestinationUnknown : UInt8 := 0x05
/-- `StatusServiceNotSupported` -/
def statusServiceNotSupported : UInt8 := 0x08
/-- `StatusInvalidAttributeValue` -/
def statusInvalidAttributeValue : UInt8 := 0x09
/-- `StatusAttributeNotSupported` -/
def statusAttributeNotSupported : UInt8 := 0x14
/-- `StatusObjectDoesNotExist` -/
def statusObjectDoesNotExist : UInt8 := 0x16

/-- `ClassAssembly` -/
def classAssembly : UInt16 := 0x04
/-- `ClassConnectionMgr` -/
def classConnectionMgr : UInt16 := 0x06

/-- A `cip.Error` with a general status and no extended status. -/
def cipError (status : UInt8) : GoError := .cip ⟨status, []⟩

/-- A registered object (`cip.Object`): its `HandleRequest`, acting on the state `σ`
the router's objects keep. -/
structure Object (σ : Type) where
  handleRequest : UInt8 → Bytes → Bytes → σ → Except GoError Bytes × σ

/-- `MessageRouter`: the class-id map. -/
structure MessageRouter (σ : Type) where
  objects : UInt16 → Option (Object σ)

variable {σ : Type}

/-- `NewMessageRouter`: no object registered. -/
def newMessageRouter : MessageRouter σ := ⟨fun _ => none⟩

/-- `MessageRouter.RegisterObject` -/
def MessageRouter.registerObject (mr : MessageRouter σ) (classID : UInt16) (obj : Object σ) :
    MessageRouter σ :=
  ⟨Function.update mr.objects classID (some obj)⟩

/-- The leading class segment `Dispatch` reads: `0x20 <id>` or `0x21 <pad> <id LE>`,
with the rest of the path; `none` when the path does not start with a complete one. -/
def classSegment (path : Bytes) : Option (UInt16 × Bytes) :=
  match path with
  | [] => none
  | segType :: rest =>
      if segType = 0x20 then
        match rest with
        | [] => none
        | classID :: remainingPath => some (classID.toUInt16, remainingPath)
      else if segType = 0x21 then
        if path.length < 4 then none else some (uint16 (path.drop 2), path.drop 4)
      else none

/-- The response `Dispatch` builds from an object's outcome: a `cip.Error` gives its
status and extended status, any other error `ServiceNotSupported`. -/
def responseOf (service : UInt8) : Except GoError Bytes → MessageRouterResponse
  | .error (.cip e) =>
      ⟨service ||| 0x80, 0, e.status, UInt8.ofNat e.extStatus.length, e.extStatus, []⟩
  | .error _ => ⟨service ||| 0x80, 0, statusServiceNotSupported, 0, [], []⟩
  | .ok respData => ⟨service ||| 0x80, 0, statusSuccess, 0, [], respData⟩

/-- `MessageRouter.Dispatch` -/
def MessageRouter.dispatch (mr : MessageRouter σ) (req : MessageRouterRequest) (s : σ) :
    Except GoError MessageRouterResponse × σ :=
  match classSegment req.requestPath with
  | none => (.error (.cip ⟨statusPathSegmentError, []⟩), s)
  | some (classID, remainingPath) =>
      match mr.objects classID with
      | none => (.ok ⟨req.service ||| 0x80, 0, statusObjectDoesNotExist, 0, [], []⟩, s)
      | some obj =>
          let (result, s') := obj.handleRequest req.service remainingPath req.requestData s
          (.ok (responseOf req.service result), s')

section Dispatch

variable (mr : MessageRouter σ) (req : MessageRouterRequest) (s : σ)

theorem dispatch_of_classSegment_none (h : classSegment req.requestPath = none) :
    mr.dispatch req s = (.error (.cip ⟨statusPathSegmentError, []⟩), s) := by
  simp [MessageRouter.dispatch, h]

theorem dispatch_of_unregistered {classID : UInt16} {rest : Bytes}
    (h : classSegment req.requestPath = some (classID, rest)) (hc : mr.objects classID = none) :
    mr.dispatch req s =
      (.ok ⟨req.service ||| 0x80, 0, statusObjectDoesNotExist, 0, [], []⟩, s) := by
  simp [MessageRouter.dispatch, h, hc]

theorem dispatch_of_registered {classID : UInt16} {rest : Bytes} {obj : Object σ}
    (h : classSegment req.requestPath = some (classID, rest)) (hc : mr.objects classID = some obj) :
    mr.dispatch req s =
      (.ok (responseOf req.service (obj.handleRequest req.service rest req.requestData s).1),
        (obj.handleRequest req.service rest req.requestData s).2) := by
  simp [MessageRouter.dispatch, h, hc]

theorem responseOf_service (service : UInt8) (result : Except GoError Bytes) :
    (responseOf service result).service = service ||| 0x80 := by
  rcases result with (_ | _) | _ <;> rfl

theorem responseOf_extStatusSize (service : UInt8) (result : Except GoError Bytes) :
    (responseOf service result).extStatusSize =
      UInt8.ofNat (responseOf service result).extStatus.length := by
  rcases result with (_ | _) | _ <;> rfl

theorem dispatch_ok_response {resp : MessageRouterResponse} {s' : σ}
    (h : mr.dispatch req s = (.ok resp, s')) :
    resp.service = req.service ||| 0x80 ∧
      resp.extStatusSize = UInt8.ofNat resp.extStatus.length := by
  unfold MessageRouter.dispatch at h
  split at h
  · simp at h
  · split at h
    · simp only [Prod.mk.injEq, Except.ok.injEq] at h
      simp [← h.1]
    · simp only [Prod.mk.injEq, Except.ok.injEq] at h
      rw [← h.1]
      exact ⟨responseOf_service _ _, responseOf_extStatusSize _ _⟩

end Dispatch

end GoeipProofs.Router
