import GoeipProofs.Wire

/-!
Message-router requests and responses (`pkg/cip` message codec): the request
encoder the originator uses, and the response decoder it reads replies with.
-/

namespace GoeipProofs.Message

open GoeipProofs.Wire

/-- `Path.LenWords`: the path length in 16-bit words, rounded up, as a byte. -/
def lenWords (p : Bytes) : UInt8 := UInt8.ofNat ((p.length + 1) / 2)

theorem lenWords_toNat_mul_two {p : Bytes} (hEven : p.length % 2 = 0) (hLe : p.length ≤ 510) :
    (lenWords p).toNat * 2 = p.length := by
  simp only [lenWords, uint8_toNat_ofNat]
  omega

/-- `MessageRouterRequest` -/
structure MessageRouterRequest where
  service : UInt8
  requestPath : Bytes
  requestData : Bytes
  deriving DecidableEq, Repr

/-- `MessageRouterRequest.Encode`: service, path size in words, path, data. -/
def MessageRouterRequest.encode (r : MessageRouterRequest) : Bytes :=
  [r.service, lenWords r.requestPath] ++ r.requestPath ++
    (if r.requestData.length > 0 then r.requestData else [])

/-- `MessageRouterResponse` -/
structure MessageRouterResponse where
  service : UInt8
  reserved : UInt8
  generalStatus : UInt8
  extStatusSize : UInt8
  extStatus : List UInt16
  responseData : Bytes
  deriving DecidableEq, Repr

/-- `MessageRouterResponse.Error` of a reply whose status is not success: its statuses as a
`cip.Error`. -/
def MessageRouterResponse.error (resp : MessageRouterResponse) : GoError :=
  .cip ⟨resp.generalStatus, resp.extStatus⟩

/-- The extended-status loop of `DecodeMessageRouterResponse`: `count` words. -/
def readExtStatus : Nat → Bytes → Except GoError (List UInt16 × Bytes)
  | 0, r => .ok ([], r)
  | count + 1, r => do
      let (word, r) ← readUint16 r
      let (words, r) ← readExtStatus count r
      pure (word :: words, r)

/-- The trailing bytes read as response data: `buf.Read` into a buffer of exactly the
remaining length, skipped when nothing remains. -/
def readRemaining (r : Bytes) : Except GoError Bytes :=
  if r.length > 0 then (readInto r.length r).map Prod.fst else .ok []

/-- `DecodeMessageRouterResponse` -/
def decodeMessageRouterResponse (data : Bytes) : Except GoError MessageRouterResponse := do
  let (service, r) ← readUint8 data
  let (reserved, r) ← readUint8 r
  let (generalStatus, r) ← readUint8 r
  let (extStatusSize, r) ← readUint8 r
  let (extStatus, r) ← readExtStatus extStatusSize.toNat r
  let responseData ← readRemaining r
  pure ⟨service, reserved, generalStatus, extStatusSize, extStatus, responseData⟩

@[simp] theorem readRemaining_eq (r : Bytes) : readRemaining r = .ok r := by
  unfold readRemaining
  split
  · rename_i h
    have := readInto_append [] rfl (by simpa [List.length_pos] using h : r ++ [] ≠ [])
    simp only [List.append_nil] at this
    simp [this, Except.map]
  · simp_all

theorem readExtStatus_encode (words : List UInt16) (rest : Bytes) :
    readExtStatus words.length (words.flatMap putUint16 ++ rest) = .ok (words, rest) := by
  induction words with
  | nil => rfl
  | cons w words ih => simp [readExtStatus, List.append_assoc, ih]

end GoeipProofs.Message
