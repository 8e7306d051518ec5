import GoeipProofs.Router

/-!
The Assembly object (`pkg/cip/encode.go`): instances keyed by id, each holding the byte
slice it was registered with. A slice is a window of a backing array, and the arrays'
contents are part of the state, since `RegisterAssembly` keeps the caller's slice and
`SetAttributeSingle` copies into it: instances whose slices overlap share bytes. Against
a store of bytes per instance the object is a refinement as long as no two slices share
a byte.
-/

namespace GoeipProofs.Assembly

open GoeipProofs.Wire GoeipProofs.Router

/-- `ServiceGetAttributeSingle` -/
def serviceGetAttributeSingle : UInt8 := 0x0E
/-- `ServiceSetAttributeSingle` -/
def serviceSetAttributeSingle : UInt8 := 0x10

/-- A byte slice: `length` bytes from `offset` on in the backing array `array`. -/
structure SliceRef where
  array : Nat
  offset : Nat
  length : Nat
  deriving DecidableEq, Repr

/-- Two slices share no byte. -/
def SliceRef.Disjoint (s t : SliceRef) : Prop :=
  s.array ≠ t.array ∨ s.offset + s.length ≤ t.offset ∨ t.offset + t.length ≤ s.offset

instance (s t : SliceRef) : Decidable (s.Disjoint t) := inferInstanceAs (Decidable (_ ∨ _))

theorem SliceRef.Disjoint.symm {s t : SliceRef} (h : s.Disjoint t) : t.Disjoint s := by
  unfold SliceRef.Disjoint at *
  omega

/-- The contents of every backing array, by array and index. -/
abbrev Memory := Nat → Nat → UInt8

namespace Memory

/-- The bytes a slice shows. -/
def read (mem : Memory) (s : SliceRef) : Bytes :=
  (List.range s.length).map fun k => mem s.array (s.offset + k)

/-- `copy(s, src)`: the first `min(len(s), len(src))` bytes of `src` over the slice. -/
def copy (mem : Memory) (s : SliceRef) (src : Bytes) : Memory :=
  fun a k => if a = s.array ∧ s.offset ≤ k ∧ k < s.offset + min s.length src.length then
    src.getD (k - s.offset) 0 else mem a k

@[simp] theorem length_read (mem : Memory) (s : SliceRef) : (mem.read s).length = s.length := by
  simp [read]

theorem read_copy_self (mem : Memory) {s : SliceRef} {src : Bytes} (h : src.length = s.length) :
    (mem.copy s src).read s = src := by
  apply List.ext_getElem (by simp [h])
  intro k hk _
  simp only [length_read] at hk
  simp only [read, copy, List.getElem_map, List.getElem_range, h, min_self]
  rw [if_pos ⟨trivial, by omega, by omega⟩, Nat.add_sub_cancel_left]
  simp [List.getD_eq_getElem?_getD, List.getElem?_eq_getElem (by omega : k < src.length)]

theorem read_copy_of_disjoint (mem : Memory) {s t : SliceRef} (h : s.Disjoint t) (src : Bytes) :
    (mem.copy s src).read t = mem.read t := by
  unfold read copy
  refine List.map_congr_left fun k hk => if_neg ?_
  unfold SliceRef.Disjoint at h
  have := List.mem_range.mp hk
  omega

end Memory

/-- `AssemblyInstance` -/
structure AssemblyInstance where
  id : UInt32
  data : SliceRef
  deriving DecidableEq, Repr

/-- `AssemblyObject`: the instance map, and the memory the instances' slices show. -/
structure AssemblyObject where
  instances : UInt32 → Option AssemblyInstance
  mem : Memory

/-- `NewAssemblyObject`, over the caller's memory. -/
def newAssemblyObject (mem : Memory) : AssemblyObject := ⟨fun _ => none, mem⟩

namespace AssemblyObject

/-- `AssemblyObject.RegisterAssembly`: the new instance keeps the caller's slice. -/
def registerAssembly (ao : AssemblyObject) (instanceID : UInt32) (data : SliceRef) :
    AssemblyObject :=
  { ao with instances := Function.update ao.instances instanceID (some ⟨instanceID, data⟩) }

/-- `AssemblyObject.GetAttributeSingle`: a copy of the data, for attribute 3 only. -/
def getAttributeSingle (ao : AssemblyObject) (instanceID : UInt32) (attrID : UInt16) :
    Except GoError Bytes :=
  match ao.instances instanceID with
  | none => .error (cipError statusObjectDoesNotExist)
  | some inst =>
      if attrID = 3 then .ok (ao.mem.read inst.data)
      else if attrID = 4 then .error (cipError statusAttributeNotSupported)
      else .error (cipError statusAttributeNotSupported)

/-- `AssemblyObject.SetAttributeSingle`: `copy` into the instance's slice, for attribute 3
and data of exactly its length. -/
def setAttributeSingle (ao : AssemblyObject) (instanceID : UInt32) (attrID : UInt16)
    (data : Bytes) : Except GoError Unit × AssemblyObject :=
  match ao.instances instanceID with
  | none => (.error (cipError statusObjectDoesNotExist), ao)
  | some inst =>
      if attrID = 3 then
        if data.length ≠ inst.data.length then
          (.error (cipError statusInvalidAttributeValue), ao)
        else (.ok (), { ao with mem := ao.mem.copy inst.data data })
      else (.error (cipError statusAttributeNotSupported), ao)

end AssemblyObject

/-- The instance segment `HandleRequest` reads: `0x24 <id>` or `0x25 <pad> <id LE>`, with
the rest of the path. -/
def instanceSegment (pathBytes : Bytes) : Except GoError (UInt32 × Bytes) :=
  match pathBytes with
  | [] => .error (cipError statusPathSegmentError)
  | segType :: rest =>
      if segType = 0x24 then
        match rest with
        | [] => .error (cipError statusPathSegmentError)
        | instanceID :: remainingPath => .ok (instanceID.toUInt32, remainingPath)
      else if segType = 0x25 then
        if pathBytes.length < 4 then .error (cipError statusPathSegmentError)
        else .ok ((uint16 (pathBytes.drop 2)).toUInt32, pathBytes.drop 4)
      else .error (cipError statusPathSegmentError)

/-- The attribute id after the instance: `0x30 <id>` or `0x31 <pad> <id LE>`, and 0 when
the path ends or goes on with another segment. -/
def attributeSegment (remainingPath : Bytes) : Except GoError UInt16 :=
  match remainingPath with
  | [] => .ok 0
  | segType :: rest =>
      if segType = 0x30 then
        match rest with
        | [] => .error (cipError statusPathSegmentError)
        | attrID :: _ => .ok attrID.toUInt16
      else if segType = 0x31 then
        if remainingPath.length < 4 then .error (cipError statusPathSegmentError)
        else .ok (uint16 (remainingPath.drop 2))
      else .ok 0

/-- The instance and attribute a request path names. -/
def requestTarget (path : Bytes) : Except GoError (UInt32 × UInt16) := do
  let (instanceID, remainingPath) ← instanceSegment path
  let attrID ← attributeSegment remainingPath
  pure (instanceID, attrID)

/-- The body of `HandleRequest`, over the object's `GetAttributeSingle` and
`SetAttributeSingle`. -/
def handleRequestWith {α : Type} (get : UInt32 → UInt16 → Except GoError Bytes)
    (set : UInt32 → UInt16 → Bytes → Except GoError Unit × α) (s : α) (service : UInt8)
    (path data : Bytes) : Except GoError Bytes × α :=
  match requestTarget path with
  | .error e => (.error e, s)
  | .ok (instanceID, attrID) =>
      if service = serviceGetAttributeSingle then
        if attrID = 0 then (.error (cipError statusPathSegmentError), s)
        else (get instanceID attrID, s)
      else if service = serviceSetAttributeSingle then
        if attrID = 0 then (.error (cipError statusPathSegmentError), s)
        else
          let (result, s) := set instanceID attrID data
          (result.map fun _ => [], s)
      else (.error (cipError statusServiceNotSupported), s)

/-- `AssemblyObject.HandleRequest` -/
def AssemblyObject.handleRequest (ao : AssemblyObject) (service : UInt8) (path data : Bytes) :
    Except GoError Bytes × AssemblyObject :=
  handleRequestWith ao.getAttributeSingle ao.setAttributeSingle ao service path data

/-- The Assembly object as a router object. -/
def AssemblyObject.asObject : Object AssemblyObject :=
  ⟨fun service path data ao => ao.handleRequest service path data⟩

/-- One call on the object. -/
inductive Call
  | registerAssembly (instanceID : UInt32) (data : SliceRef)
  | getAttributeSingle (instanceID : UInt32) (attrID : UInt16)
  | setAttributeSingle (instanceID : UInt32) (attrID : UInt16) (data : Bytes)
  | handleRequest (service : UInt8) (path data : Bytes)
  deriving DecidableEq, Repr

/-- The slice a call hands to the object. -/
def Call.slice? : Call → Option SliceRef
  | .registerAssembly _ data => some data
  | _ => none

namespace AssemblyObject

/-- A call's result, with `ok []` for a call that returns no data, and the object after
it. -/
def call (ao : AssemblyObject) : Call → Except GoError Bytes × AssemblyObject
  | .registerAssembly instanceID data => (.ok [], ao.registerAssembly instanceID data)
  | .getAttributeSingle instanceID attrID => (ao.getAttributeSingle instanceID attrID, ao)
  | .setAttributeSingle instanceID attrID data =>
      let (result, ao) := ao.setAttributeSingle instanceID attrID data
      (result.map fun _ => [], ao)
  | .handleRequest service path data => ao.handleRequest service path data

/-- The results of a sequence of calls, and the object after them. -/
def run (ao : AssemblyObject) : List Call → List (Except GoError Bytes) × AssemblyObject
  | [] => ([], ao)
  | c :: cs =>
      let (result, ao) := ao.call c
      let (results, ao) := ao.run cs
      (result :: results, ao)

end AssemblyObject

/-- What the object is for: the bytes of every registered instance. -/
abbrev Store := UInt32 → Option Bytes

namespace Store

/-- Reading attribute 3 of an instance. -/
def getAttributeSingle (m : Store) (instanceID : UInt32) (attrID : UInt16) :
    Except GoError Bytes :=
  match m instanceID with
  | none => .error (cipError statusObjectDoesNotExist)
  | some d => if attrID = 3 then .ok d else .error (cipError statusAttributeNotSupported)

/-- Replacing the bytes of an instance by as many new ones. -/
def setAttributeSingle (m : Store) (instanceID : UInt32) (attrID : UInt16) (data : Bytes) :
    Except GoError Unit × Store :=
  match m instanceID with
  | none => (.error (cipError statusObjectDoesNotExist), m)
  | some d =>
      if attrID = 3 then
        if data.length ≠ d.length then (.error (cipError statusInvalidAttributeValue), m)
        else (.ok (), Function.update m instanceID (some data))
      else (.error (cipError statusAttributeNotSupported), m)

/-- One call on the store; a registration stores what `contents` gives its slice. -/
def call (contents : SliceRef → Bytes) (m : Store) : Call → Except GoError Bytes × Store
  | .registerAssembly instanceID data =>
      (.ok [], Function.update m instanceID (some (contents data)))
  | .getAttributeSingle instanceID attrID => (m.getAttributeSingle instanceID attrID, m)
  | .setAttributeSingle instanceID attrID data =>
      let (result, m) := m.setAttributeSingle instanceID attrID data
      (result.map fun _ => [], m)
  | .handleRequest service path data =>
      handleRequestWith m.getAttributeSingle m.setAttributeSingle m service path data

/-- The results of a sequence of calls on the store, and the store after them. -/
def run (contents : SliceRef → Bytes) (m : Store) :
    List Call → List (Except GoError Bytes) × Store
  | [] => ([], m)
  | c :: cs =>
      let (result, m) := call contents m c
      let (results, m) := run contents m cs
      (result :: results, m)

end Store

namespace AssemblyObject

/-- The bytes each instance holds. -/
def view (ao : AssemblyObject) : Store :=
  fun i => (ao.instances i).map fun inst => ao.mem.read inst.data

/-- No two instances' slices share a byte. -/
def Unshared (ao : AssemblyObject) : Prop :=
  ∀ i j a b, ao.instances i = some a → ao.instances j = some b → i ≠ j → a.data.Disjoint b.data

/-- Some instance's slice shares a byte with `b`. -/
def Overlaps (ao : AssemblyObject) (b : SliceRef) : Prop :=
  ∃ i inst, ao.instances i = some inst ∧ ¬ inst.data.Disjoint b

theorem disjoint_of_not_overlaps {ao : AssemblyObject} {b : SliceRef} (hb : ¬ ao.Overlaps b)
    {i : UInt32} {inst : AssemblyInstance} (hi : ao.instances i = some inst) :
    inst.data.Disjoint b :=
  not_not.mp fun h => hb ⟨i, inst, hi, h⟩

theorem getAttributeSingle_eq_view (ao : AssemblyObject) (instanceID : UInt32) (attrID : UInt16) :
    ao.getAttributeSingle instanceID attrID = ao.view.getAttributeSingle instanceID attrID := by
  unfold getAttributeSingle Store.getAttributeSingle view
  cases ao.instances instanceID with
  | none => rfl
  | some inst => by_cases h3 : attrID = 3 <;> by_cases h4 : attrID = 4 <;> simp [h3, h4]

theorem view_registerAssembly (ao : AssemblyObject) (instanceID : UInt32) (data : SliceRef) :
    (ao.registerAssembly instanceID data).view =
      Function.update ao.view instanceID (some (ao.mem.read data)) := by
  funext j
  by_cases hj : j = instanceID
  · subst hj
    simp [view, registerAssembly]
  · simp [view, registerAssembly, Function.update_noteq hj]

theorem instances_setAttributeSingle (ao : AssemblyObject) (instanceID : UInt32)
    (attrID : UInt16) (data : Bytes) :
    (ao.setAttributeSingle instanceID attrID data).2.instances = ao.instances := by
  unfold setAttributeSingle
  split
  · rfl
  · split_ifs <;> rfl

theorem read_setAttributeSingle_of_not_overlaps {ao : AssemblyObject} {b : SliceRef}
    (hb : ¬ ao.Overlaps b) (instanceID : UInt32) (attrID : UInt16) (data : Bytes) :
    (ao.setAttributeSingle instanceID attrID data).2.mem.read b = ao.mem.read b := by
  unfold setAttributeSingle
  split
  · rfl
  · rename_i inst hinst
    split_ifs
    · rfl
    · exact Memory.read_copy_of_disjoint _ (disjoint_of_not_overlaps hb hinst) data
    · rfl

theorem setAttributeSingle_view {ao : AssemblyObject} (hu : ao.Unshared) (instanceID : UInt32)
    (attrID : UInt16) (data : Bytes) :
    Prod.map id view (ao.setAttributeSingle instanceID attrID data) =
      ao.view.setAttributeSingle instanceID attrID data := by
  unfold setAttributeSingle Store.setAttributeSingle
  cases hinst : ao.instances instanceID with
  | none => simp [view, hinst]
  | some inst =>
      simp only [view, hinst, Option.map_some', Memory.length_read]
      split_ifs with _ hlen
      · rfl
      · simp only [Prod.map, id]
        congr 1
        funext j
        by_cases hj : j = instanceID
        · subst hj
          simp [view, hinst, Memory.read_copy_self _ (not_not.mp hlen)]
        · rw [Function.update_noteq hj]
          cases hb : ao.instances j with
          | none => simp [view, hb]
          | some b =>
              simp [view, hb,
                Memory.read_copy_of_disjoint _ (hu instanceID j inst b hinst hb (Ne.symm hj))]
      · rfl

end AssemblyObject

theorem handleRequestWith_sim {α β : Type} (f : α → β)
    (get : UInt32 → UInt16 → Except GoError Bytes)
    {set₁ : UInt32 → UInt16 → Bytes → Except GoError Unit × α}
    {set₂ : UInt32 → UInt16 → Bytes → Except GoError Unit × β}
    (hset : ∀ i a d, Prod.map id f (set₁ i a d) = set₂ i a d) (s : α) (service : UInt8)
    (path data : Bytes) :
    Prod.map id f (handleRequestWith get set₁ s service path data) =
      handleRequestWith get set₂ (f s) service path data := by
  unfold handleRequestWith
  split
  · rfl
  · rename_i instanceID attrID _
    split_ifs <;> try rfl
    rw [← hset instanceID attrID data]
    rfl

theorem handleRequestWith_invariant {α : Type} (P : α → Prop)
    (get : UInt32 → UInt16 → Except GoError Bytes)
    {set : UInt32 → UInt16 → Bytes → Except GoError Unit × α}
    (hset : ∀ i a d, P (set i a d).2)
    {s : α} (hs : P s) (service : UInt8) (path data : Bytes) :
    P (handleRequestWith get set s service path data).2 := by
  unfold handleRequestWith
  split
  · exact hs
  · split_ifs <;> first | exact hs | exact hset _ _ _

/-- The slices a sequence of calls registers. -/
def slices (calls : List Call) : List SliceRef := calls.filterMap Call.slice?

namespace AssemblyObject

variable {ao : AssemblyObject}

theorem run_cons (c : Call) (cs : List Call) :
    ao.run (c :: cs) = ((ao.call c).1 :: ((ao.call c).2.run cs).1, ((ao.call c).2.run cs).2) :=
  rfl

theorem unshared_of_instances_eq {ao' : AssemblyObject} (h : ao'.instances = ao.instances)
    (hu : ao.Unshared) : ao'.Unshared := by
  unfold Unshared
  rw [h]
  exact hu

/-- Every call but a registration keeps the instance map, so the slice, and with it the
length, of every instance's data. -/
theorem instances_call {c : Call} (hc : c.slice? = none) :
    (ao.call c).2.instances = ao.instances := by
  cases c with
  | registerAssembly => simp [Call.slice?] at hc
  | getAttributeSingle => rfl
  | setAttributeSingle i a d => exact instances_setAttributeSingle ao i a d
  | handleRequest service path data =>
      exact handleRequestWith_invariant (fun ao' : AssemblyObject => ao'.instances = ao.instances)
        _ (instances_setAttributeSingle ao) rfl service path data

theorem overlaps_of_call {c : Call} {b : SliceRef} (h : (ao.call c).2.Overlaps b) :
    ao.Overlaps b ∨ ∃ b', c.slice? = some b' ∧ ¬ b'.Disjoint b := by
  cases hc : c.slice? with
  | none =>
      left
      rwa [Overlaps, instances_call hc] at h
  | some b' =>
      cases c with
      | registerAssembly instanceID data =>
          obtain ⟨j, inst, hj, hov⟩ := h
          simp only [Call.slice?, Option.some.injEq] at hc
          by_cases hji : j = instanceID
          · subst hji hc
            simp only [call, registerAssembly, Function.update_same, Option.some.injEq] at hj
            subst hj
            exact Or.inr ⟨_, rfl, hov⟩
          · left
            refine ⟨j, inst, ?_, hov⟩
            simpa [call, registerAssembly, Function.update_noteq hji] using hj
      | _ => simp [Call.slice?] at hc

theorem read_call_of_not_overlaps {b : SliceRef} (hb : ¬ ao.Overlaps b) (c : Call) :
    (ao.call c).2.mem.read b = ao.mem.read b := by
  cases c with
  | registerAssembly => rfl
  | getAttributeSingle => rfl
  | setAttributeSingle i a d => exact read_setAttributeSingle_of_not_overlaps hb i a d
  | handleRequest service path data =>
      exact handleRequestWith_invariant (fun ao' : AssemblyObject => ao'.mem.read b = ao.mem.read b)
        _ (read_setAttributeSingle_of_not_overlaps hb) rfl service path data

theorem unshared_call (hu : ao.Unshared) {c : Call}
    (hfresh : ∀ b, c.slice? = some b → ¬ ao.Overlaps b) : (ao.call c).2.Unshared := by
  cases hc : c.slice? with
  | none => exact unshared_of_instances_eq (instances_call hc) hu
  | some b =>
      have hb := hfresh b hc
      cases c with
      | registerAssembly instanceID data =>
          simp only [Call.slice?, Option.some.injEq] at hc
          subst hc
          intro i j x y hx hy hij
          simp only [call, registerAssembly] at hx hy
          by_cases hi : i = instanceID
          · subst hi
            rw [Function.update_noteq (Ne.symm hij)] at hy
            simp only [Function.update_same, Option.some.injEq] at hx
            subst hx
            exact (disjoint_of_not_overlaps hb hy).symm
          · rw [Function.update_noteq hi] at hx
            by_cases hj : j = instanceID
            · subst hj
              simp only [Function.update_same, Option.some.injEq] at hy
              subst hy
              exact disjoint_of_not_overlaps hb hx
            · rw [Function.update_noteq hj] at hy
              exact hu i j x y hx hy hij
      | _ => simp [Call.slice?] at hc

theorem call_view (hu : ao.Unshared) (contents : SliceRef → Bytes) {c : Call}
    (hreg : ∀ b, c.slice? = some b → contents b = ao.mem.read b) :
    Prod.map id view (ao.call c) = Store.call contents ao.view c := by
  have hget : ao.getAttributeSingle = ao.view.getAttributeSingle := by
    funext i a
    exact getAttributeSingle_eq_view ao i a
  cases c with
  | registerAssembly instanceID data =>
      simp [call, Store.call, view_registerAssembly, hreg data rfl]
  | getAttributeSingle instanceID attrID =>
      simp [call, Store.call, getAttributeSingle_eq_view]
  | setAttributeSingle instanceID attrID data =>
      have h := setAttributeSingle_view hu instanceID attrID data
      simp only [call, Store.call, ← h]
      rfl
  | handleRequest service path data =>
      simp only [call, Store.call, handleRequest, ← hget]
      exact handleRequestWith_sim view _ (setAttributeSingle_view hu) ao service path data

/-- The Assembly object is a store of bytes per instance as long as no two slices share a
byte: a run of calls from an object whose slices are pairwise disjoint, in which the slices
handed to `RegisterAssembly` are pairwise disjoint and share no byte with a slice held
before, gives the store's results and contents, a registration storing what `contents`
gives its slice, which is what the slice holds at the start. -/
theorem run_view (contents : SliceRef → Bytes) :
    ∀ {ao : AssemblyObject} {calls : List Call}, ao.Unshared →
      (slices calls).Pairwise SliceRef.Disjoint →
      (∀ b ∈ slices calls, ¬ ao.Overlaps b ∧ ao.mem.read b = contents b) →
      Prod.map id view (ao.run calls) = Store.run contents ao.view calls
  | _, [], _, _, _ => rfl
  | ao, c :: cs, hu, hdisj, hfresh => by
      have hslices : slices (c :: cs) = c.slice?.toList ++ slices cs := by
        cases h : c.slice? <;> simp [slices, List.filterMap_cons, h]
      rw [hslices, List.pairwise_append] at hdisj
      have hstep := call_view hu contents (c := c) fun b hb =>
        ((hfresh b (by simp [hslices, hb])).2).symm
      have hrest : ∀ b ∈ slices cs,
          ¬ (ao.call c).2.Overlaps b ∧ (ao.call c).2.mem.read b = contents b := by
        intro b hb
        have hold := hfresh b (by simp [hslices, hb])
        refine ⟨fun h => ?_, by rw [read_call_of_not_overlaps hold.1, hold.2]⟩
        rcases overlaps_of_call h with h | ⟨b', hb', hov⟩
        · exact hold.1 h
        · exact hov (hdisj.2.2 b' (by simp [hb']) b hb)
      have ih := run_view contents
        (unshared_call hu fun b hb => (hfresh b (by simp [hslices, hb])).1) hdisj.2.1 hrest
      rw [run_cons, Store.run, ← hstep]
      simp only [Prod.map, id] at ih ⊢
      rw [← ih]

theorem setAttributeSingle_ok_iff (instanceID : UInt32) (attrID : UInt16) (data : Bytes) :
    (ao.setAttributeSingle instanceID attrID data).1 = .ok () ↔
      ∃ old, ao.view instanceID = some old ∧ attrID = 3 ∧ data.length = old.length := by
  unfold setAttributeSingle view
  cases ao.instances instanceID with
  | none => simp [cipError]
  | some inst =>
      by_cases h3 : attrID = 3 <;> by_cases hl : data.length = inst.data.length <;>
        simp [h3, hl, cipError]

/-- A failing `SetAttributeSingle` leaves the object as it was, with `ObjectDoesNotExist`
for an unknown instance, else `AttributeNotSupported` for an attribute other than 3,
else `InvalidAttributeValue`. -/
theorem setAttributeSingle_of_ne_ok {instanceID : UInt32} {attrID : UInt16} {data : Bytes}
    (h : (ao.setAttributeSingle instanceID attrID data).1 ≠ .ok ()) :
    (ao.setAttributeSingle instanceID attrID data).2 = ao ∧
      (ao.setAttributeSingle instanceID attrID data).1 = .error (cipError
        (match ao.view instanceID with
          | none => statusObjectDoesNotExist
          | some _ => if attrID = 3 then statusInvalidAttributeValue
            else statusAttributeNotSupported)) := by
  unfold setAttributeSingle view at *
  revert h
  cases ao.instances instanceID with
  | none => exact fun _ => ⟨rfl, rfl⟩
  | some inst =>
      by_cases h3 : attrID = 3 <;> by_cases hl : data.length = inst.data.length <;>
        simp [h3, hl]

end AssemblyObject

/-- Instances 1 and 2 registered with `buf[0:4]` and `buf[2:6]` of one zeroed six-byte
array: after four ones are written to instance 1, instance 2 reads `[1, 1, 0, 0]`, where
a store of bytes per instance still holds the four zeros it was registered with. -/
theorem assembly_shared_slice :
    ((newAssemblyObject fun _ _ => 0).run
        [.registerAssembly 1 ⟨0, 0, 4⟩, .registerAssembly 2 ⟨0, 2, 4⟩,
          .setAttributeSingle 1 3 [1, 1, 1, 1], .getAttributeSingle 2 3]).1 =
        [.ok [], .ok [], .ok [], .ok [1, 1, 0, 0]] ∧
    (Store.run (Memory.read fun _ _ => 0) (fun _ => none)
        [.registerAssembly 1 ⟨0, 0, 4⟩, .registerAssembly 2 ⟨0, 2, 4⟩,
          .setAttributeSingle 1 3 [1, 1, 1, 1], .getAttributeSingle 2 3]).1 =
        [.ok [], .ok [], .ok [], .ok [0, 0, 0, 0]] := by
  constructor <;> rfl

end GoeipProofs.Assembly
