import GoeipProofs.Client
import GoeipProofs.Logix
import GoeipProofs.Server

/-!
The tag reads of `pkg/client` (`Client.ReadTag`, `ReadTagInto`, `ReadTimer`) and the Read Tag
request of `pkg/cip` they send. As for `ListTags`, the session's `SendCIPRequest` is a
parameter acting on a session state; the target side is the server's message-router request
parser and the EPATH parser.
-/

namespace GoeipProofs.TagReads

open GoeipProofs.Wire GoeipProofs.Message GoeipProofs.Router GoeipProofs.Path
open GoeipProofs.Logix GoeipProofs.Client

/-- `ServiceReadTag` -/
def serviceReadTag : UInt8 := 0x4C

/-- `NewReadTagRequest`: the element count as its low and its high byte. -/
def newReadTagRequest (tagPath : Bytes) (elements : UInt16) : MessageRouterRequest :=
  ⟨serviceReadTag, tagPath, [elements.toUInt8, (elements >>> 8).toUInt8]⟩

/-- `fmt.Errorf("response too short to contain type code")` -/
def errResponseTooShort : GoError := .errorf "response too short to contain type code" []

section Reads

variable {σ : Type} (send : σ → MessageRouterRequest → Except GoError MessageRouterResponse × σ)

/-- `Client.ReadTag` on the session state `s`, with `send` its `SendCIPRequest`: one element of
the tag named by a symbolic segment; the reply data, type code included. -/
def readTag (s : σ) (tagName : Bytes) : Except GoError Bytes × σ :=
  let p := addSymbolicSegment newPath tagName
  let req := newReadTagRequest p 1
  match send s req with
  | (.error err, s) => (.error err, s)
  | (.ok resp, s) =>
      if resp.generalStatus ≠ statusSuccess then (.error resp.error, s)
      else (.ok resp.responseData, s)

/-- `Client.ReadTagInto`, with `unmarshal` the `cip.Unmarshal` into the destination: the data
past the two bytes of the type code. -/
def readTagInto {α : Type} (unmarshal : Bytes → Except GoError α) (s : σ) (tagName : Bytes) :
    Except GoError α × σ :=
  match readTag send s tagName with
  | (.error err, s) => (.error err, s)
  | (.ok data, s) =>
      if data.length < 2 then (.error errResponseTooShort, s) else (unmarshal (data.drop 2), s)

/-- `Client.ReadTimer`: `ReadTagInto`'s body, with `DecodeTimer`. -/
def readTimer (s : σ) (tagName : Bytes) : Except GoError Timer × σ :=
  readTagInto send decodeTimer s tagName

end Reads

/-- The one request `ReadTag` sends for a tag name of fewer than 256 bytes reaches the target as
it was built: the server's request parser reads back the Read Tag service and one element, and
the EPATH parser splits the path into exactly the symbolic segment of the name. -/
theorem readTag_request_reaches_target
    (answer : MessageRouterRequest → Except GoError MessageRouterResponse)
    (sent : List MessageRouterRequest) {tagName : Bytes} (h : tagName.length < 256) :
    ∃ req, (readTag (recordingSession answer) sent tagName).2 = sent ++ [req] ∧
      Server.decodeMessageRouterRequest req.encode = .ok req ∧
      req.service = serviceReadTag ∧ req.requestData = [1, 0] ∧
      parseSegments 1 req.requestPath = some [.symbolic tagName] := by
  have hpath : addSymbolicSegment newPath tagName = (Segment.symbolic tagName).encode := by
    rw [addSymbolicSegment_eq, newPath, List.nil_append]
  have hlen := length_encode (.symbolic tagName)
  have hle : (Segment.symbolic tagName).encode.length ≤ 510 := by
    simp only [Segment.encode]
    split <;> simp <;> omega
  refine ⟨newReadTagRequest (addSymbolicSegment newPath tagName) 1, ?_, ?_, rfl, rfl, ?_⟩
  · simp only [readTag, recordingSession]
    split <;> (try split) <;> simp_all
  · exact Server.decodeMessageRouterRequest_encode ⟨hpath ▸ hlen.1, hpath ▸ hlen.2, hpath ▸ hle⟩
  · have := @parseSegments_flatMap_encode [.symbolic tagName] (by simpa [Segment.Valid]) 1 le_rfl
    simpa [newReadTagRequest, hpath] using this

def counterTag : Bytes := [0x43, 0x6F, 0x75, 0x6E, 0x74, 0x65, 0x72]

theorem readTag_request_reaches_target_counterTag :
    counterTag.length < 256 ∧
      ∃ req, (readTag (recordingSession fun _ => .error .eof) [] counterTag).2 = [] ++ [req] ∧
        Server.decodeMessageRouterRequest req.encode = .ok req ∧
        req.service = serviceReadTag ∧ req.requestData = [1, 0] ∧
        parseSegments 1 req.requestPath = some [.symbolic counterTag] :=
  ⟨by decide, readTag_request_reaches_target _ [] (by decide)⟩

end GoeipProofs.TagReads
