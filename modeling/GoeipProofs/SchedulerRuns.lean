import GoeipProofs.Scheduler

/-!
Whole runs of the implicit runtime as its goroutines share it. The connection map holds
pointers to `IOConnection` objects. `processTick` copies the producers' pointers under
`RLock`, releases it, and then visits its copy one pointer at a time, so `AddConnection`,
`RemoveConnection` and the watchdog's `checkTimeouts` may run between the copy and any
send. A run records every snapshot, every send (with the object it went out from) and every
change of a map entry.
-/

namespace GoeipProofs.SchedulerRuns

open GoeipProofs.Wire GoeipProofs.Assembly GoeipProofs.Implicit GoeipProofs.Scheduler

/-- A `*IOConnection`, by the allocation that made the object. -/
abbrev ConnPtr := Nat

/-- The runtime as its goroutines share it: the objects allocated so far, the map of pointers,
the Assembly object, and the pointers of `processTick`'s snapshot its loop has not visited. -/
structure Shared where
  heap : ConnPtr → IOConnection
  next : ConnPtr
  connections : UInt32 → Option ConnPtr
  assemblyObj : AssemblyObject
  conns : List ConnPtr

/-- What a run records. -/
inductive Event
  /-- `processTick` copied the producers of the map -/
  | snapshot
  /-- the object at `conn` was sent as connection `id`, checked at `now` and stamped `stamp`,
  with sequence count `seq` and RPI `rpi` -/
  | sent (conn : ConnPtr) (id : UInt32) (now stamp : Time) (seq : UInt16) (rpi : Duration)
  /-- the map entries of `ids` were replaced or deleted -/
  | changed (ids : List UInt32)
  deriving DecidableEq, Repr

/-- The ids whose map entries the event changed. -/
def Event.changes : Event → List UInt32
  | .changed ids => ids
  | _ => []

/-- The ids the event is about: the connection it sent, or the entries it changed. -/
def Event.ids : Event → List UInt32
  | .sent _ id .. => [id]
  | e => e.changes

theorem Event.not_mem_changes {e : Event} {id : UInt32} (h : id ∉ e.ids) : id ∉ e.changes := by
  cases e <;> simp_all [Event.ids, Event.changes]

namespace Shared

/-- `NewRuntime(ao)`, with no object allocated and no tick under way. -/
def new (ao : AssemblyObject) : Shared := ⟨fun _ => default, 0, fun _ => none, ao, []⟩

/-- The runtime of `Runtime`'s model: the objects the map points to. -/
def view (s : Shared) : Runtime := ⟨fun id => (s.connections id).map s.heap, s.assemblyObj⟩

/-- `Runtime.AddConnection` at time `now` with a new object `conn`, as the callers allocate. -/
def addConnection (s : Shared) (now : Time) (conn : IOConnection) : Shared :=
  { s with
    heap := Function.update s.heap s.next { conn with lastReceive := now }
    next := s.next + 1
    connections := Function.update s.connections conn.connectionID (some s.next) }

/-- `Runtime.RemoveConnection` -/
def removeConnection (s : Shared) (connID : UInt32) : Shared :=
  { s with connections := Function.update s.connections connID none }

/-- Whether `checkTimeouts` at `now` deletes the entry of `id`. -/
def expired (s : Shared) (now : Time) (id : UInt32) : Bool :=
  (s.connections id).any fun p =>
    (s.heap p).isConsumer &&
      decide (timeSub now (s.heap p).lastReceive > Runtime.timeoutOf (s.heap p))

/-- `Runtime.checkTimeouts` at time `now`. -/
def checkTimeouts (s : Shared) (now : Time) : Shared :=
  { s with connections := fun id => if s.expired now id then none else s.connections id }

/-- The loop of `processTick` under `RLock`: the producers of the map, in the order `order` in
which the iteration visits its ids. -/
def producers (s : Shared) (order : List UInt32) : List ConnPtr :=
  order.filterMap fun id => (s.connections id).filter fun p => (s.heap p).isProducer

/-- `processTick`'s copy of the producers. -/
def snapshot (s : Shared) (order : List UInt32) : Shared := { s with conns := s.producers order }

/-- One pass of `processTick`'s send loop, over the object at `p`: `now` is the time of
`time.Since`, `stamp` the later `time.Now()` stored as `LastSend`. The datagram it writes and
the send it records, if the object's RPI has elapsed and it has an assembly. -/
def visit (s : Shared) (now stamp : Time) (p : ConnPtr) :
    Except Panic (Option (UDPAddr × Bytes) × Option Event × Shared) :=
  let conn := s.heap p
  if timeSub now conn.lastSend < conn.rpi then .ok (none, none, s)
  else if conn.assembly = none then .ok (none, none, s)
  else do
    let (datagram, conn) ← sendPacket s.assemblyObj.mem conn
    let conn := { conn with lastSend := stamp }
    pure (datagram, some (.sent p conn.connectionID now stamp conn.sequenceCount conn.rpi),
      { s with heap := Function.update s.heap p conn })

/-- An order in which Go's iteration over the connection map may visit its ids: each id once,
and every id of the map. -/
def ValidOrder (s : Shared) (order : List UInt32) : Prop :=
  order.Nodup ∧ ∀ id, (s.connections id).isSome → id ∈ order

/-- The map points to objects allocated so far, each under its own `ConnectionID`, and the
snapshot holds allocated pointers. -/
structure WF (s : Shared) : Prop where
  key : ∀ id p, s.connections id = some p → (s.heap p).connectionID = id ∧ p < s.next
  conns_lt : ∀ p ∈ s.conns, p < s.next

/-- Every pointer of the snapshot whose object is connection `id` is the map's entry for `id`. -/
def Pending (id : UInt32) (s : Shared) : Prop :=
  ∀ p ∈ s.conns, (s.heap p).connectionID = id → s.connections id = some p

end Shared

open Shared

/-- One step of the runtime's goroutines, with what it records. -/
inductive Step : Shared → Option Event → Shared → Prop
  /-- `processTick` copies the producers, once its previous loop is done -/
  | snapshot {s : Shared} {order : List UInt32} : s.ValidOrder order → s.conns = [] →
      Step s (some .snapshot) (s.snapshot order)
  /-- `processTick`'s loop visits the next pointer of its copy without panicking -/
  | visit {s s' : Shared} {p : ConnPtr} {ps : List ConnPtr} {now stamp : Time}
      {datagram : Option (UDPAddr × Bytes)} {e : Option Event} : s.conns = p :: ps →
      ({ s with conns := ps } : Shared).visit now stamp p = .ok (datagram, e, s') → Step s e s'
  | addConnection {s : Shared} (now : Time) (conn : IOConnection) :
      Step s (some (.changed [conn.connectionID])) (s.addConnection now conn)
  | removeConnection {s : Shared} (connID : UInt32) :
      Step s (some (.changed [connID])) (s.removeConnection connID)
  | checkTimeouts {s : Shared} (now : Time) {order : List UInt32} : s.ValidOrder order →
      Step s (some (.changed (order.filter (s.expired now)))) (s.checkTimeouts now)

/-- `Run s₀ log s`: from `s₀`, steps recording `log` reach `s` without a panic. -/
inductive Run (s₀ : Shared) : List Event → Shared → Prop
  | nil : Run s₀ [] s₀
  | step {log : List Event} {s s' : Shared} {e : Option Event} :
      Run s₀ log s → Step s e s' → Run s₀ (log ++ e.toList) s'

section Visit

variable {s s' : Shared} {now stamp : Time} {p : ConnPtr}

theorem visit_eq : s.visit now stamp p =
    if (s.heap p).rpi ≤ timeSub now (s.heap p).lastSend ∧ (s.heap p).assembly.isSome then
      if (s.heap p).fits then
        .ok ((s.heap p).datagram s.assemblyObj.mem,
          some (.sent p (s.heap p).connectionID now stamp ((s.heap p).sequenceCount + 1)
            (s.heap p).rpi),
          { s with
            heap := Function.update s.heap p
              { s.heap p with sequenceCount := (s.heap p).sequenceCount + 1, lastSend := stamp } })
      else .error .sliceBounds
    else .ok (none, none, s) := by
  simp only [visit]
  by_cases hdue : (s.heap p).rpi ≤ timeSub now (s.heap p).lastSend
  · rw [if_neg (not_lt.mpr hdue)]
    by_cases hnone : (s.heap p).assembly = none
    · simp [hnone]
    · obtain ⟨inst, hinst⟩ := Option.ne_none_iff_exists'.mp hnone
      rw [if_neg hnone, if_pos ⟨hdue, by simp [hinst]⟩, sendPacket_of_assembly _ _ hinst]
      split_ifs <;> rfl
  · rw [if_pos (lt_of_not_le hdue), if_neg fun h => hdue h.1]

theorem visit_ok {datagram : Option (UDPAddr × Bytes)} {e : Option Event}
    (h : s.visit now stamp p = .ok (datagram, e, s')) :
    e = none ∧ s' = s ∨
      (s.heap p).rpi ≤ timeSub now (s.heap p).lastSend ∧
      e = some (.sent p (s.heap p).connectionID now stamp ((s.heap p).sequenceCount + 1)
        (s.heap p).rpi) ∧
      s' = { s with
        heap := Function.update s.heap p
          { s.heap p with sequenceCount := (s.heap p).sequenceCount + 1, lastSend := stamp } } := by
  rw [visit_eq] at h
  by_cases hdue : (s.heap p).rpi ≤ timeSub now (s.heap p).lastSend ∧ (s.heap p).assembly.isSome
  · rw [if_pos hdue] at h
    split_ifs at h
    cases h
    exact .inr ⟨hdue.1, rfl, rfl⟩
  · rw [if_neg hdue] at h
    cases h
    exact .inl ⟨rfl, rfl⟩

theorem visit_of_due (hdue : (s.heap p).rpi ≤ timeSub now (s.heap p).lastSend)
    (hasm : (s.heap p).assembly.isSome) (hfit : (s.heap p).fits) :
    s.visit now stamp p =
      .ok ((s.heap p).datagram s.assemblyObj.mem,
        some (.sent p (s.heap p).connectionID now stamp ((s.heap p).sequenceCount + 1)
          (s.heap p).rpi),
        { s with
          heap := Function.update s.heap p
            { s.heap p with
              sequenceCount := (s.heap p).sequenceCount + 1, lastSend := stamp } }) := by
  rw [visit_eq, if_pos ⟨hdue, hasm⟩, if_pos hfit]

end Visit

theorem Shared.wf_update_heap {s : Shared} (hs : s.WF) {p : ConnPtr} {conn : IOConnection}
    (hid : conn.connectionID = (s.heap p).connectionID) :
    ({ s with heap := Function.update s.heap p conn } : Shared).WF := by
  refine ⟨fun id q hq => ?_, hs.conns_lt⟩
  obtain ⟨hk, hlt⟩ := hs.key id q hq
  by_cases hqp : q = p
  · subst hqp
    simpa [hid] using And.intro hk hlt
  · simpa [Function.update_noteq hqp] using And.intro hk hlt

namespace Step

variable {s s' : Shared} {e : Option Event}

theorem next_le (h : Step s e s') : s.next ≤ s'.next := by
  cases h with
  | visit _ hv => rcases visit_ok hv with ⟨-, rfl⟩ | ⟨-, -, rfl⟩ <;> exact le_rfl
  | addConnection => exact Nat.le_succ _
  | _ => exact le_rfl

theorem connectionID_heap (h : Step s e s') {p : ConnPtr} (hp : p < s.next) :
    (s'.heap p).connectionID = (s.heap p).connectionID := by
  cases h with
  | @visit _ q _ _ _ _ _ _ hv =>
      rcases visit_ok hv with ⟨-, rfl⟩ | ⟨-, -, rfl⟩
      · rfl
      · by_cases hq : p = q
        · subst hq
          simp
        · simp [Function.update_noteq hq]
  | addConnection => simp [Shared.addConnection, Function.update_noteq hp.ne]
  | _ => rfl

theorem connections_eq (h : Step s e s') {id : UInt32} (hid : ∀ x ∈ e, id ∉ x.changes) :
    s'.connections id = s.connections id := by
  cases h with
  | visit _ hv => rcases visit_ok hv with ⟨-, rfl⟩ | ⟨-, -, rfl⟩ <;> rfl
  | addConnection now conn =>
      have hne : id ≠ conn.connectionID := by simpa [Event.changes] using hid _ rfl
      simp [Shared.addConnection, Function.update_noteq hne]
  | removeConnection connID =>
      have hne : id ≠ connID := by simpa [Event.changes] using hid _ rfl
      simp [Shared.removeConnection, Function.update_noteq hne]
  | checkTimeouts now hv =>
      have hnot := hid _ rfl
      simp only [Event.changes, List.mem_filter, not_and] at hnot
      simp only [Shared.checkTimeouts]
      split_ifs with hexp
      · have hsome : (s.connections id).isSome := by
          unfold expired at hexp
          cases hc : s.connections id <;> simp_all
        exact absurd hexp (hnot (hv.2 id hsome))
      · rfl
  | snapshot => rfl

theorem pending_snapshot {order : List UInt32} (hs : s.WF) (id : UInt32) :
    Pending id (s.snapshot order) := by
  intro p hp hid
  obtain ⟨id', -, hid'⟩ := List.mem_filterMap.mp (show p ∈ s.producers order from hp)
  obtain ⟨hc, -⟩ := Option.filter_eq_some.mp hid'
  exact (hs.key id' p hc).1.symm.trans hid ▸ hc

theorem pending_of_snapshot (h : Step s (some .snapshot) s') (hs : s.WF) (id : UInt32) :
    Pending id s' := by
  cases h with
  | snapshot => exact pending_snapshot hs id
  | visit _ hv => rcases visit_ok hv with ⟨he, -⟩ | ⟨-, he, -⟩ <;> cases he

theorem wf (h : Step s e s') (hs : s.WF) : s'.WF := by
  cases h with
  | snapshot =>
      refine ⟨hs.key, fun p hp => ?_⟩
      obtain ⟨id, -, hid⟩ := List.mem_filterMap.mp (show p ∈ s.producers _ from hp)
      exact (hs.key id p (Option.filter_eq_some.mp hid).1).2
  | @visit _ q ps _ _ _ _ hc hv =>
      have hps : ∀ p ∈ ps, p < s.next := fun p hp => hs.conns_lt p (by simp [hc, hp])
      rcases visit_ok hv with ⟨-, rfl⟩ | ⟨-, -, rfl⟩
      · exact ⟨hs.key, hps⟩
      · exact Shared.wf_update_heap (s := { s with conns := ps }) ⟨hs.key, hps⟩ rfl
  | addConnection now conn =>
      refine ⟨fun id p hp => ?_, fun p hp => Nat.lt_succ_of_lt (hs.conns_lt p hp)⟩
      simp only [Shared.addConnection, Function.update_apply] at hp ⊢
      split_ifs at hp with hid
      · cases hp
        simp [hid]
      · obtain ⟨hk, hlt⟩ := hs.key id p hp
        simp [hlt.ne, hk, Nat.lt_succ_of_lt hlt]
  | removeConnection connID =>
      refine ⟨fun id p hp => hs.key id p ?_, hs.conns_lt⟩
      simp only [Shared.removeConnection, Function.update_apply] at hp
      split_ifs at hp
      exact hp
  | checkTimeouts now _ =>
      refine ⟨fun id p hp => hs.key id p ?_, hs.conns_lt⟩
      simp only [Shared.checkTimeouts] at hp
      split_ifs at hp
      exact hp

theorem pending (h : Step s e s') (hs : s.WF) {id : UInt32} (hid : ∀ x ∈ e, id ∉ x.changes)
    (hp : Pending id s) : Pending id s' := by
  have hmap := h.connections_eq hid
  cases h with
  | snapshot => exact pending_snapshot hs id
  | @visit _ q ps _ _ _ _ hc hv =>
      intro p hmem hpid
      have hps : p ∈ s.conns := by rcases visit_ok hv with ⟨-, rfl⟩ | ⟨-, -, rfl⟩ <;> simp_all
      rw [hmap]
      exact hp p hps ((connectionID_heap (.visit hc hv) (hs.conns_lt p hps)).symm.trans hpid)
  | addConnection now conn =>
      intro p hmem hpid
      have hlt := hs.conns_lt p hmem
      rw [hmap]
      exact hp p hmem (by simpa [Shared.addConnection, Function.update_noteq hlt.ne] using hpid)
  | removeConnection | checkTimeouts =>
      intro p hmem hpid
      rw [hmap]
      exact hp p hmem hpid

theorem heap_eq (h : Step s e s') {id : UInt32} (hid : ∀ x ∈ e, id ∉ x.ids) {p : ConnPtr}
    (hp : p < s.next) (hpid : (s.heap p).connectionID = id) : s'.heap p = s.heap p := by
  cases h with
  | @visit _ q _ _ _ _ _ _ hv =>
      rcases visit_ok hv with ⟨-, rfl⟩ | ⟨-, he, rfl⟩
      · rfl
      · have hne : p ≠ q := by
          rintro rfl
          exact hid _ he (by simp [Event.ids, hpid])
        simp [Function.update_noteq hne]
  | addConnection => simp [Shared.addConnection, Function.update_noteq hp.ne]
  | _ => rfl

theorem sent_inv {q : ConnPtr} {id : UInt32} {now stamp : Time} {seq : UInt16} {rpi : Duration}
    (h : Step s (some (.sent q id now stamp seq rpi)) s') :
    (∃ ps, s.conns = q :: ps) ∧ (s.heap q).connectionID = id ∧ rpi = (s.heap q).rpi ∧
      rpi ≤ timeSub now (s.heap q).lastSend ∧ seq = (s.heap q).sequenceCount + 1 ∧
      s'.heap q = { s.heap q with sequenceCount := seq, lastSend := stamp } := by
  cases h with
  | @visit _ p ps _ _ _ _ hc hv =>
      rcases visit_ok hv with ⟨he, -⟩ | ⟨hrpi, he, rfl⟩
      · cases he
      · simp only [Option.some.injEq, Event.sent.injEq] at he
        obtain ⟨rfl, rfl, rfl, rfl, rfl, rfl⟩ := he
        exact ⟨⟨ps, hc⟩, rfl, rfl, hrpi, rfl, by simp⟩

end Step

namespace Run

variable {s₀ s : Shared} {log : List Event}

theorem append {A B : List Event} {m : Shared} (hA : Run s₀ A m) (hB : Run m B s) :
    Run s₀ (A ++ B) s := by
  induction hB with
  | nil => simpa using hA
  | step _ hst ih => simpa [List.append_assoc] using ih.step hst

theorem split {A B : List Event} (h : Run s₀ (A ++ B) s) : ∃ m, Run s₀ A m ∧ Run m B s := by
  generalize hlog : A ++ B = log at h
  induction h generalizing B with
  | nil =>
      obtain ⟨rfl, rfl⟩ := List.append_eq_nil.mp hlog
      exact ⟨s₀, .nil, .nil⟩
  | @step log m s' e hrun hst ih =>
      cases e with
      | none =>
          obtain ⟨m', hA, hB⟩ := ih (by simpa using hlog)
          exact ⟨m', hA, by simpa using hB.step hst⟩
      | some x =>
          rcases List.eq_nil_or_concat B with rfl | ⟨B', y, rfl⟩
          · rw [List.append_nil] at hlog
            subst hlog
            exact ⟨s', hrun.step hst, .nil⟩
          · rw [List.concat_eq_append, ← List.append_assoc, Option.toList_some] at hlog
            obtain ⟨hAB, hyx⟩ := List.append_inj' hlog rfl
            cases hyx
            obtain ⟨m', hA, hB⟩ := ih hAB
            exact ⟨m', hA, by simpa [List.concat_eq_append] using hB.step hst⟩

theorem cons_inv {x : Event} {B : List Event} (h : Run s₀ (x :: B) s) :
    ∃ m₁ m₂, Run s₀ [] m₁ ∧ Step m₁ (some x) m₂ ∧ Run m₂ B s := by
  obtain ⟨m, hx, hB⟩ := split (A := [x]) h
  suffices ∀ {l}, Run s₀ l m → l = [x] →
      ∃ m₁ m₂, Run s₀ [] m₁ ∧ Step m₁ (some x) m₂ ∧ Run m₂ [] m by
    obtain ⟨m₁, m₂, h₁, h₂, h₃⟩ := this hx rfl
    exact ⟨m₁, m₂, h₁, h₂, by simpa using h₃.append hB⟩
  intro l hl
  clear hB hx
  induction hl with
  | nil => exact fun h => by cases h
  | @step log m₁ m₂ e hrun hst ih =>
      intro hlog
      cases e with
      | none =>
          obtain ⟨m₃, m₄, h₁, h₂, h₃⟩ := ih (by simpa using hlog)
          exact ⟨m₃, m₄, h₁, h₂, by simpa using h₃.step hst⟩
      | some y =>
          obtain rfl : log = [] :=
            List.eq_nil_of_length_eq_zero (by simpa using congrArg List.length hlog)
          obtain rfl : y = x := by simpa using hlog
          exact ⟨m₁, m₂, hrun, hst, .nil⟩

theorem wf (h : Run s₀ log s) (hs : s₀.WF) : s.WF := by
  induction h with
  | nil => exact hs
  | step _ hst ih => exact hst.wf ih

theorem next_le (h : Run s₀ log s) : s₀.next ≤ s.next := by
  induction h with
  | nil => exact le_rfl
  | step _ hst ih => exact ih.trans hst.next_le

theorem connections_eq {id : UInt32} (h : Run s₀ log s) (hid : ∀ x ∈ log, id ∉ x.changes) :
    s.connections id = s₀.connections id := by
  induction h with
  | nil => rfl
  | step _ hst ih =>
      simp only [List.mem_append, Option.mem_toList] at hid
      exact (hst.connections_eq fun x hx => hid x (.inr hx)).trans (ih fun x hx => hid x (.inl hx))

theorem pending {id : UInt32} (h : Run s₀ log s) (hs : s₀.WF) (hid : ∀ x ∈ log, id ∉ x.changes)
    (hp : Pending id s₀) : Pending id s := by
  induction h with
  | nil => exact hp
  | step hrun hst ih =>
      simp only [List.mem_append, Option.mem_toList] at hid
      exact hst.pending (hrun.wf hs) (fun x hx => hid x (.inr hx)) (ih fun x hx => hid x (.inl hx))

theorem heap_eq {id : UInt32} (h : Run s₀ log s) (hid : ∀ x ∈ log, id ∉ x.ids) {p : ConnPtr}
    (hp : p < s₀.next) (hpid : (s₀.heap p).connectionID = id) : s.heap p = s₀.heap p := by
  induction h with
  | nil => rfl
  | step hrun hst ih =>
      simp only [List.mem_append, Option.mem_toList] at hid
      have ih := ih fun x hx => hid x (.inl hx)
      rw [hst.heap_eq (fun x hx => hid x (.inr hx)) (lt_of_lt_of_le hp hrun.next_le) (ih ▸ hpid),
        ih]

end Run

namespace Shared

variable {s : Shared}

theorem view_addConnection (hs : s.WF) (now : Time) (conn : IOConnection) :
    (s.addConnection now conn).view = s.view.addConnection now conn := by
  simp only [view, addConnection, Runtime.addConnection, Runtime.mk.injEq, and_true]
  funext id
  by_cases hid : id = conn.connectionID
  · subst hid
    simp
  · rw [Function.update_noteq hid, Function.update_noteq hid]
    cases hc : s.connections id with
    | none => rfl
    | some p => simp [Function.update_noteq (hs.key id p hc).2.ne]

theorem view_removeConnection (connID : UInt32) :
    (s.removeConnection connID).view = s.view.removeConnection connID := by
  simp only [view, removeConnection, Runtime.removeConnection, Runtime.mk.injEq, and_true]
  funext id
  by_cases hid : id = connID
  · subst hid
    simp
  · simp [Function.update_noteq hid]

theorem view_checkTimeouts (now : Time) :
    (s.checkTimeouts now).view = s.view.checkTimeouts now := by
  simp only [view, checkTimeouts, Runtime.checkTimeouts, Runtime.mk.injEq, and_true]
  funext id
  cases hc : s.connections id with
  | none => simp [expired, hc]
  | some p => by_cases h : (s.heap p).isConsumer ∧
      Runtime.timeoutOf (s.heap p) < timeSub now (s.heap p).lastReceive <;> simp [expired, hc, h]

theorem view_update_heap (hs : s.WF) {id : UInt32} {p : ConnPtr} (hc : s.connections id = some p)
    (conn : IOConnection) :
    ({ s with heap := Function.update s.heap p conn } : Shared).view =
      { s.view with connections := Function.update s.view.connections id (some conn) } := by
  simp only [view, Runtime.mk.injEq, and_true]
  funext x
  by_cases hx : x = id
  · subst hx
    simp [hc]
  · rw [Function.update_noteq hx]
    cases hq : s.connections x with
    | none => rfl
    | some q =>
        have hne : q ≠ p := fun h => hx ((hs.key x q hq).1.symm.trans (h ▸ (hs.key id p hc).1))
        simp [Function.update_noteq hne]

theorem producers_update_heap {p : ConnPtr} {conn : IOConnection}
    (hprod : conn.isProducer = (s.heap p).isProducer) (order : List UInt32) :
    ({ s with heap := Function.update s.heap p conn } : Shared).producers order =
      s.producers order := by
  have h : (fun q => (Function.update s.heap p conn q).isProducer) =
      fun q => (s.heap q).isProducer := by
    funext q
    by_cases hq : q = p
    · subst hq
      simpa using hprod
    · simp [Function.update_noteq hq]
  simp only [producers, h]

end Shared

/-- `processTick`'s loop over the pointers `ps` at time `now`, with no other step between its
passes. -/
def Shared.visitAll (now : Time) : List ConnPtr → Shared →
    Except Panic (List (UDPAddr × Bytes) × Shared)
  | [], s => .ok ([], s)
  | p :: ps, s => do
      let (datagram, _, s) ← s.visit now now p
      let (datagrams, s) ← visitAll now ps s
      pure (datagram.toList ++ datagrams, s)

theorem visitAll_producers {now : Time} (ids : List UInt32) (hnd : ids.Nodup) :
    ∀ {s : Shared}, s.WF →
      (Shared.visitAll now (s.producers ids) s).map (Prod.map id Shared.view) =
        sendDue now (ids.filter fun id => (s.view.connections id).any IOConnection.isProducer)
          s.view := by
  induction ids with
  | nil => intro s _; rfl
  | cons k ks ih =>
      intro s hs
      obtain ⟨hk, hnd⟩ := List.nodup_cons.mp hnd
      have hskip : s.producers (k :: ks) = s.producers ks →
          (s.view.connections k).any IOConnection.isProducer = false →
          (Shared.visitAll now (s.producers (k :: ks)) s).map (Prod.map id Shared.view) =
            sendDue now ((k :: ks).filter fun id => (s.view.connections id).any
              IOConnection.isProducer) s.view := fun h₁ h₂ => by
        rw [h₁, List.filter_cons_of_neg (by simp [h₂]), ih hnd hs]
      cases hc : s.connections k with
      | none => exact hskip (by simp [Shared.producers, hc]) (by simp [Shared.view, hc])
      | some p =>
          by_cases hp : (s.heap p).isProducer
          · have hview : s.view.connections k = some (s.heap p) := by simp [Shared.view, hc]
            rw [show s.producers (k :: ks) = p :: s.producers ks by
                simp [Shared.producers, List.filterMap_cons, hc, Option.filter, hp],
              List.filter_cons_of_pos (by simp [hview, hp]), sendDue_cons_of_some hview]
            simp only [Shared.visitAll, visit_eq]
            split_ifs
            · -- the send: the rest of the loop runs on the stamped object
              let conn := { s.heap p with
                sequenceCount := (s.heap p).sequenceCount + 1, lastSend := now }
              have hfilter : (ks.filter fun id =>
                  (Function.update s.view.connections k (some conn) id).any
                    IOConnection.isProducer) =
                  ks.filter fun id => (s.view.connections id).any IOConnection.isProducer :=
                List.filter_congr fun x hx => by
                  rw [Function.update_noteq fun h : x = k => hk (h ▸ hx)]
              have ih := ih hnd (@Shared.wf_update_heap s hs p conn rfl)
              rw [@Shared.producers_update_heap s p conn rfl, Shared.view_update_heap hs hc,
                hfilter] at ih
              rw [ok_bind, ← ih]
              cases Shared.visitAll now (s.producers ks) _ <;> rfl
            · rfl
            · rw [ok_bind, ← ih hnd hs]
              cases Shared.visitAll now (s.producers ks) s <;> rfl
          · exact hskip (by simp [Shared.producers, hc, hp]) (by simp [Shared.view, hc, hp])

theorem visitAll_snapshot {s : Shared} (hs : s.WF) (now : Time) {order : List UInt32}
    (horder : order.Nodup) :
    (Shared.visitAll now (s.snapshot order).conns s).map (Prod.map id Shared.view) =
      processTick now order s.view :=
  visitAll_producers order horder hs

theorem Shared.wf_new (ao : AssemblyObject) : (Shared.new ao).WF :=
  ⟨fun _ _ h => (by cases h), fun _ h => (by cases h)⟩

theorem Shared.validOrder_single {s : Shared} {k : UInt32}
    (h : ∀ id, id ≠ k → s.connections id = none) : s.ValidOrder [k] :=
  ⟨List.nodup_singleton k, fun id hs => by
    by_contra hk
    simp [h id (by simpa using hk)] at hs⟩

def pacedObject : AssemblyObject := newAssemblyObject fun _ _ => 7

def pacedProducer : IOConnection :=
  { connectionID := 0x2001, rpi := 10, sequenceCount := 0, runIdleHeader := false,
    remoteAddr := none, assembly := some ⟨0x64, ⟨0, 0, 1⟩⟩, lastReceive := 0, lastSend := 0,
    timeoutMult := 0, isProducer := true, isConsumer := false }

def replacedLog : List Event :=
  [.changed [0x2001], .snapshot, .changed [0x2001], .changed [0x2001],
    .sent 0 0x2001 10 10 1 10, .snapshot, .sent 1 0x2001 20 20 1 5]

/-- Producer scheduling over whole runs. The shared runtime refines `Runtime`'s model: adding,
removing and expiring connections act on the objects the map points to as `Runtime`'s do, and a
tick whose passes run with no other step between them computes `processTick`. From a
well-formed state, two consecutive sends of a connection id, with no change of its map entry
between a snapshot before the first and the second, go out from one object, under the same
RPI `R`, the second checked at least `R` after the first was stamped, with consecutive
sequence counts. The snapshot cannot be left out of that window: a removal and a re-addition
of the id between a snapshot and its send make two consecutive sends of the id, with no event
about it between them, go out under different RPIs. -/
theorem run_consecutive_sends :
    (∀ {s : Shared}, s.WF → ∀ (now : Time) (conn : IOConnection) (connID : UInt32)
        {order : List UInt32}, order.Nodup →
      (s.addConnection now conn).view = s.view.addConnection now conn ∧
      (s.removeConnection connID).view = s.view.removeConnection connID ∧
      (s.checkTimeouts now).view = s.view.checkTimeouts now ∧
      (Shared.visitAll now (s.snapshot order).conns s).map (Prod.map id Shared.view) =
        processTick now order s.view) ∧
    (∀ {s₀ s : Shared} {log pre mid₁ mid₂ post : List Event} {p₁ p₂ : ConnPtr} {id : UInt32}
      {now₁ stamp₁ now₂ stamp₂ : Time} {seq₁ seq₂ : UInt16} {rpi₁ rpi₂ : Duration},
      s₀.WF → Run s₀ log s →
      log = pre ++ .snapshot :: mid₁ ++ .sent p₁ id now₁ stamp₁ seq₁ rpi₁ :: mid₂ ++
        .sent p₂ id now₂ stamp₂ seq₂ rpi₂ :: post →
      (∀ e ∈ mid₁, id ∉ e.changes) → (∀ e ∈ mid₂, id ∉ e.ids) →
      p₂ = p₁ ∧ rpi₂ = rpi₁ ∧ rpi₁ ≤ timeSub now₂ stamp₁ ∧ seq₂ = seq₁ + 1) ∧
    ∃ s, Run (Shared.new pacedObject) replacedLog s := by
  refine ⟨fun hs now conn connID _ horder => ⟨view_addConnection hs now conn,
    view_removeConnection connID, view_checkTimeouts now, visitAll_snapshot hs now horder⟩,
    fun {s₀ s log pre mid₁ mid₂ post p₁ p₂ id now₁ stamp₁ now₂ stamp₂ seq₁ seq₂ rpi₁ rpi₂}
      hwf h hlog hmid₁ hmid₂ => ?_, ?_⟩
  · subst hlog
    obtain ⟨sX, hX, hE₂⟩ := h.split
    obtain ⟨sY, hY, hE₁⟩ := hX.split
    obtain ⟨sA, hA, hS⟩ := hY.split
    obtain ⟨sA₁, sB, hA₁, hsnap, hmid₁run⟩ := hS.cons_inv
    obtain ⟨sC, sD, hC, hsend₁, hmid₂run⟩ := hE₁.cons_inv
    obtain ⟨sE, _, hE, hsend₂, -⟩ := hE₂.cons_inv
    have hnot : ∀ x ∈ some (Event.sent p₁ id now₁ stamp₁ seq₁ rpi₁), id ∉ x.changes := by
      simp [Event.changes]
    have hwfA₁ : sA₁.WF := (hA.append hA₁).wf hwf
    have hwfC : sC.WF := (hmid₁run.append hC).wf (hsnap.wf hwfA₁)
    have hrun₂ := hmid₂run.append hE
    -- the snapshot leaves in its copy only the entry of each id, and up to the second send
    -- nothing changes the entry of `id`
    have hpendC : Pending id sC :=
      (hmid₁run.append hC).pending (hsnap.wf hwfA₁) (by simpa using hmid₁)
      (hsnap.pending_of_snapshot hwfA₁ id)
    have hpendE : Pending id sE := hrun₂.pending (hsend₁.wf hwfC)
      (by simpa using fun x hx => Event.not_mem_changes (hmid₂ x hx))
      (hsend₁.pending hwfC hnot hpendC)
    obtain ⟨⟨ps₁, hc₁⟩, hid₁, hrpi₁, -, rfl, hheap₁⟩ := hsend₁.sent_inv
    obtain ⟨⟨ps₂, hc₂⟩, hid₂, hrpi₂, hcheck, rfl, -⟩ := hsend₂.sent_inv
    have hmapE : sE.connections id = some p₁ := by
      rw [hrun₂.connections_eq (by simpa using fun x hx => Event.not_mem_changes (hmid₂ x hx)),
        hsend₁.connections_eq hnot, hpendC p₁ (by simp [hc₁]) hid₁]
    obtain rfl : p₂ = p₁ := Option.some.inj ((hpendE p₂ (by simp [hc₂]) hid₂).symm.trans hmapE)
    have hheapE : sE.heap p₂ = sD.heap p₂ :=
      hrun₂.heap_eq (by simpa using hmid₂)
        (lt_of_lt_of_le (hwfC.conns_lt p₂ (by simp [hc₁])) hsend₁.next_le)
        (by rw [hheap₁]; exact hid₁)
    rw [hheapE, hheap₁] at hrpi₂ hcheck ⊢
    exact ⟨rfl, hrpi₂.trans hrpi₁.symm, hrpi₁ ▸ hrpi₂ ▸ hcheck, rfl⟩
  · have h₁ := (Run.nil : Run (Shared.new pacedObject) [] _).step (.addConnection 0 pacedProducer)
    have h₂ := h₁.step (.snapshot (validOrder_single (k := 0x2001) fun id h => (by
      simp [Shared.addConnection, Shared.new, pacedProducer, Function.update_apply, h])) rfl)
    have h₃ := (h₂.step (.removeConnection 0x2001)).step
      (.addConnection 0 { pacedProducer with rpi := 5 })
    have h₄ := h₃.step (.visit rfl (@visit_of_due _ 10 10 0 (by decide) rfl rfl))
    have h₅ := h₄.step (.snapshot (validOrder_single (k := 0x2001) fun id h => (by
      simp [Shared.addConnection, Shared.new, Shared.removeConnection, Shared.snapshot,
        pacedProducer, Function.update_apply, h])) rfl)
    have h₆ := h₅.step (.visit rfl (@visit_of_due _ 20 20 1 (by decide) rfl rfl))
    exact ⟨_, h₆⟩

theorem run_consecutive_sends_paced :
    (Shared.visitAll 10 (((Shared.new pacedObject).addConnection 0 pacedProducer).snapshot
        [0x2001]).conns ((Shared.new pacedObject).addConnection 0 pacedProducer)).map
        (Prod.map id Shared.view) =
      processTick 10 [0x2001] ((Shared.new pacedObject).addConnection 0 pacedProducer).view ∧
    (0 : ConnPtr) = 0 ∧ (10 : Duration) = 10 ∧ (10 : Duration) ≤ timeSub 20 10 ∧
      (2 : UInt16) = 1 + 1 := by
  have hkeys : ∀ id, id ≠ 0x2001 →
      ((Shared.new pacedObject).addConnection 0 pacedProducer).connections id = none :=
    fun id h => by simp [Shared.addConnection, Shared.new, pacedProducer, Function.update_apply, h]
  have hadd := Step.addConnection (s := Shared.new pacedObject) 0 pacedProducer
  have h₁ := ((Run.nil : Run (Shared.new pacedObject) [] _).step hadd).step
    (.snapshot (validOrder_single hkeys) rfl)
  have h₂ := (h₁.step (.visit rfl (@visit_of_due _ 10 10 0 (by decide) rfl rfl))).step
    (.snapshot (validOrder_single (k := 0x2001) fun id h => (by
      simp [Shared.addConnection, Shared.new, Shared.snapshot, pacedProducer,
        Function.update_apply, h])) rfl)
  have h₃ := h₂.step (.visit rfl (@visit_of_due _ 20 20 0 (by decide) rfl rfl))
  exact ⟨(run_consecutive_sends.1 (hadd.wf (Shared.wf_new pacedObject)) 10 pacedProducer 0x2001
      (List.nodup_singleton _)).2.2.2,
    run_consecutive_sends.2.1 (Shared.wf_new pacedObject) h₃
      (show _ = [Event.changed [0x2001]] ++ Event.snapshot :: [] ++
        Event.sent 0 0x2001 10 10 1 10 :: [Event.snapshot] ++ Event.sent 0 0x2001 20 20 2 10 :: []
        from rfl) (by simp) (by decide)⟩

end GoeipProofs.SchedulerRuns
