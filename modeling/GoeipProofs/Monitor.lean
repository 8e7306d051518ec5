import GoeipProofs.Implicit

/-!
The tag monitor of `pkg/client` (`TagMonitor`): subscriptions that poll a tag on a ticker and
send each result on the buffered event channel, while any goroutines call `AddTag`,
`TagSubscription.Stop` and `Close`. Each operation on a channel, each section under the mutex,
each call on the `sync.WaitGroup` and each entry into a `sync.Once` is one atomic step; a
goroutine blocked on a channel, on a `Once` another goroutine runs, or on `wg.Wait` takes no
step until it can. The environment answers every `ReadTag` and `Refresh`, fires the tickers,
and makes each choice of a `select` with more than one ready case. A run records what is sent on
and received from the event channel and what the calls return; a panic of the Go runtime (a
send on or a close of a closed channel, a negative WaitGroup counter) ends it.
-/

namespace GoeipProofs.Monitor

open GoeipProofs.Wire GoeipProofs.Implicit

/-- `ErrMonitorClosed` -/
def errMonitorClosed : GoError := .errorf "tag monitor is closed" []

/-- A `sync.Once`: not run yet, running (other callers of `Do` wait), or done. -/
inductive OnceState
  | idle
  | running
  | done
  deriving DecidableEq, Repr

/-- `tagConfig`; the handler and the refreshable are kept as whether they are set. -/
structure TagConfig where
  frequency : Duration
  handler : Bool
  refreshable : Bool
  immediate : Bool
  deriving DecidableEq, Repr

/-- `defaultTagConfig`: every 500 ms, with an initial read. -/
def defaultTagConfig : TagConfig := ⟨500000000, false, false, true⟩

/-- A `TagOption`: `WithFrequency`, `WithRefreshable` and `WithHandler` (with whether the value
passed is nil), and `WithInitialRead`. -/
inductive TagOption
  | frequency (freq : Duration)
  | refreshable (isNil : Bool)
  | handler (isNil : Bool)
  | initialRead (enabled : Bool)
  deriving DecidableEq, Repr

/-- A `TagOption` applied to the configuration. -/
def TagOption.apply (cfg : TagConfig) : TagOption → Except GoError TagConfig
  | .frequency freq =>
      if freq ≤ 0 then .error (.errorf "frequency must be positive" [])
      else .ok { cfg with frequency := freq }
  | .refreshable isNil =>
      if isNil then .error (.errorf "refreshable cannot be nil" [])
      else .ok { cfg with refreshable := true }
  | .handler isNil =>
      if isNil then .error (.errorf "handler cannot be nil" [])
      else .ok { cfg with handler := true }
  | .initialRead enabled => .ok { cfg with immediate := enabled }

/-- The options of `AddTag` applied in order to the default; the first error is returned. -/
def applyOptions (opts : List TagOption) : Except GoError TagConfig :=
  opts.foldlM TagOption.apply defaultTagConfig

/-- A `MonitorOption`: `WithMonitorLogger`, `WithMonitorReader` (with whether the reader is nil),
`WithEventBuffer`. -/
inductive MonitorOption
  | logger
  | reader (isNil : Bool)
  | eventBuffer (size : Int)
  deriving DecidableEq, Repr

/-- `monitorConfig`, the reader kept as whether it is set. -/
structure MonitorConfig where
  hasReader : Bool
  eventBuffer : Int
  deriving DecidableEq, Repr

/-- A `MonitorOption` applied to the configuration. -/
def MonitorOption.apply (cfg : MonitorConfig) : MonitorOption → MonitorConfig
  | .logger => cfg
  | .reader isNil => { cfg with hasReader := !isNil }
  | .eventBuffer size => { cfg with eventBuffer := if size ≤ 0 then 1 else size }

/-- `TagSnapshot`; the timestamp (`time.Now()`) is left out. -/
structure TagSnapshot where
  name : String
  type : UInt16
  payload : Bytes
  deriving DecidableEq, Repr

/-- `TagEvent` -/
structure TagEvent where
  subscriptionID : Int
  snapshot : TagSnapshot
  err : Option GoError
  changed : Bool
  deriving DecidableEq, Repr

/-- The event `poll` builds from the answer of `ReadTag` and, with a refreshable, of `Refresh`
(whether the state changed, and its error). -/
def pollEvent (id : Int) (name : String) (cfg : TagConfig) (read : Except GoError Bytes)
    (refresh : Bool × Option GoError) : TagEvent :=
  match read with
  | .error err => ⟨id, ⟨name, 0, []⟩, some err, false⟩
  | .ok data =>
      if data.length < 2 then
        ⟨id, ⟨name, 0, []⟩,
          some (.errorf ("tag monitor: response for " ++ name ++ " too short") []), false⟩
      else
        let snapshot : TagSnapshot := ⟨name, uint16 (data.take 2), data.drop 2⟩
        if cfg.refreshable then ⟨id, snapshot, refresh.2, refresh.1⟩
        else ⟨id, snapshot, none, true⟩

/-- Where a subscription stands: first the goroutine of `AddTag` that registered it, then the
goroutine that runs `sub.run()` and `m.wg.Done()`. -/
inductive SubPc
  /-- registered; `AddTag` has not called `m.wg.Add(1)` yet -/
  | registered
  /-- `m.wg.Add(1)` done; the goroutine is not started yet -/
  | added
  /-- `run` has started -/
  | start
  /-- in the `select` of `run`'s loop -/
  | loop
  /-- in `poll`, before `ReadTag` -/
  | read
  /-- in `emit`, before its first `select`, with the event -/
  | emitCheck (ev : TagEvent)
  /-- in `emit`'s second `select`, with the event -/
  | emitSend (ev : TagEvent)
  /-- returning from `run`: the deferred `close(s.doneCh)` -/
  | closeDone
  /-- `run` returned: `m.wg.Done()` -/
  | wgDone
  /-- the goroutine has ended -/
  | finished
  deriving DecidableEq, Repr

/-- A `tagSubscription` with its goroutine, and the `sync.Once` of the `TagSubscription` handle
`AddTag` returns for it. -/
structure Sub where
  id : Int
  name : String
  cfg : TagConfig
  stopClosed : Bool
  doneClosed : Bool
  stopOnce : OnceState
  handleOnce : OnceState
  pc : SubPc
  deriving DecidableEq, Repr

/-- `newTagSubscription` -/
def newTagSubscription (id : Int) (name : String) (cfg : TagConfig) : Sub :=
  ⟨id, name, cfg, false, false, .idle, .idle, .registered⟩

/-- Where a call of `sub.stop()` stands. -/
inductive StopPc
  /-- entering `s.stopOnce.Do` -/
  | call
  /-- in the `Do`, after `close(s.stopCh)`: `<-s.doneCh` -/
  | waitDone
  /-- another goroutine runs the `Do`; waiting for it to return -/
  | waitOnce
  deriving DecidableEq, Repr

/-- Where a goroutine that called `Close` stands. -/
inductive CloserPc
  /-- entering `m.closeMx.Do` -/
  | start
  /-- another goroutine runs the `Do`; waiting for it to return -/
  | waitOnce
  /-- `close(m.stopCh)` -/
  | closeStopCh
  /-- the locked section that takes the subscriptions -/
  | collect
  /-- `sub.stop()` of subscription `k`, the ones in `rest` still to stop -/
  | stopping (k : Nat) (pc : StopPc) (rest : List Nat)
  /-- `m.wg.Wait()` -/
  | wgWait
  /-- `close(m.events)` -/
  | closeEvents
  /-- `Close` has returned -/
  | finished
  deriving DecidableEq, Repr

/-- Where a goroutine that called `Stop` on the handle of a subscription stands. -/
inductive StopperPc
  /-- entering `s.once.Do` -/
  | start
  /-- another goroutine runs the `Do`; waiting for it to return -/
  | waitOnce
  /-- the locked section of `removeSubscription` -/
  | remove
  /-- `sub.stop()` of the subscription `removeSubscription` took, subscription `k` -/
  | stopping (k : Nat) (pc : StopPc)
  /-- `Stop` has returned -/
  | finished
  deriving DecidableEq, Repr

/-- A goroutine in `Stop`, with the subscription whose handle it was called on. -/
structure Stopper where
  handle : Nat
  pc : StopperPc
  deriving DecidableEq, Repr

/-- What a run records. -/
inductive Note
  /-- subscription `k` sent `ev` on the event channel -/
  | sent (k : Nat) (ev : TagEvent)
  /-- a receive from `Wait()` returned `ev`, or the closed channel's zero value (`none`) -/
  | received (ev : Option TagEvent)
  /-- `AddTag` returned the handle's id, or an error -/
  | addTagReturned (r : Except GoError Int)
  /-- `Close` returned -/
  | closeReturned
  /-- `Stop` on the handle of subscription `k` returned, having stopped the subscription
  `removeSubscription` took from the map, if it found one -/
  | stopReturned (k : Nat) (removed : Option Nat)
  deriving DecidableEq, Repr

/-- The monitor's fields, its channels, its `WaitGroup` and `closeMx`, every subscription made
(by the order of `AddTag`), and the goroutines in `Close` and in `Stop`. -/
structure TagMonitor where
  capacity : Nat
  closed : Bool
  nextID : Int
  subs : List (Int × Nat)
  stopClosed : Bool
  events : List TagEvent
  eventsClosed : Bool
  wg : Nat
  closeOnce : OnceState
  tagSubs : List Sub
  closers : List CloserPc
  stoppers : List Stopper
  log : List Note
  panicked : Option Panic
  deriving DecidableEq, Repr

/-- `NewTagMonitor`, for a client or none, with its options. -/
def newTagMonitor (hasClient : Bool) (opts : List MonitorOption) : Except GoError TagMonitor :=
  let cfg := opts.foldl MonitorOption.apply ⟨hasClient, 64⟩
  if cfg.hasReader then
    .ok ⟨cfg.eventBuffer.toNat, false, 0, [], false, [], false, 0, .idle, [], [], [], [], none⟩
  else .error (.errorf "tag monitor requires a client or custom reader" [])

namespace TagMonitor

/-- A run-time panic with its message. -/
def fail (m : TagMonitor) (msg : String) : TagMonitor :=
  { m with panicked := some (.message msg) }

/-- Subscription `k` replaced by `s`. -/
def setSub (m : TagMonitor) (k : Nat) (s : Sub) : TagMonitor :=
  { m with tagSubs := m.tagSubs.set k s }

/-- The goroutine of `Close` number `c` at `pc`. -/
def setCloser (m : TagMonitor) (c : Nat) (pc : CloserPc) : TagMonitor :=
  { m with closers := m.closers.set c pc }

/-- The goroutine of `Stop` number `j` at `pc`. -/
def setStopper (m : TagMonitor) (j : Nat) (pc : StopperPc) : TagMonitor :=
  { m with stoppers := m.stoppers.modify (fun st => { st with pc := pc }) j }

/-- `note` appended to the record. -/
def note (m : TagMonitor) (n : Note) : TagMonitor := { m with log := m.log ++ [n] }

end TagMonitor

/-- `AddTag`: the checks of the name and the options, then the locked section, which registers
the new subscription under the next id. -/
def addTag (m : TagMonitor) (name : String) (opts : List TagOption) : TagMonitor :=
  if name = "" then m.note (.addTagReturned (.error (.errorf "tag name is required" [])))
  else
    match applyOptions opts with
    | .error e => m.note (.addTagReturned (.error e))
    | .ok cfg =>
        if m.closed then m.note (.addTagReturned (.error errMonitorClosed))
        else
          let id := wrapInt64 (m.nextID + 1)
          { m with nextID := id, subs := (id, m.tagSubs.length) :: m.subs.filter (·.1 ≠ id),
                   tagSubs := m.tagSubs ++ [newTagSubscription id name cfg] }

/-- The choices of the environment for a subscription's step: whether the ticker fired, what
`ReadTag` and `Refresh` answer, and in `emit`'s `select` with both cases ready, whether the send
is taken. -/
structure SubChoice where
  tick : Bool
  read : Except GoError Bytes
  refresh : Bool × Option GoError
  send : Bool
  deriving DecidableEq, Repr

/-- One step of subscription `k`, which is `s`. -/
def subStep (m : TagMonitor) (k : Nat) (s : Sub) (ch : SubChoice) : TagMonitor :=
  match s.pc with
  | .registered => { m with wg := m.wg + 1 }.setSub k { s with pc := .added }
  | .added => (m.note (.addTagReturned (.ok s.id))).setSub k { s with pc := .start }
  | .start => m.setSub k { s with pc := if s.cfg.immediate then .read else .loop }
  | .loop =>
      if ch.tick then m.setSub k { s with pc := .read }
      else if s.stopClosed || m.stopClosed then m.setSub k { s with pc := .closeDone }
      else m
  | .read =>
      m.setSub k { s with pc := .emitCheck (pollEvent s.id s.name s.cfg ch.read ch.refresh) }
  | .emitCheck ev => m.setSub k { s with pc := if m.stopClosed then .loop else .emitSend ev }
  | .emitSend ev =>
      let sendReady := m.eventsClosed || decide (m.events.length < m.capacity)
      if m.stopClosed && !(sendReady && ch.send) then m.setSub k { s with pc := .loop }
      else if sendReady then
        if m.eventsClosed then m.fail "send on closed channel"
        else
          ({ m with events := m.events ++ [ev] }.note (.sent k ev)).setSub k { s with pc := .loop }
      else m
  | .closeDone =>
      if s.doneClosed then m.fail "close of closed channel"
      else m.setSub k { s with doneClosed := true, pc := .wgDone }
  | .wgDone =>
      if m.wg = 0 then m.fail "sync: negative WaitGroup counter"
      else { m with wg := m.wg - 1 }.setSub k { s with pc := .finished }
  | .finished => m

/-- One step of `sub.stop()` on subscription `k`, which is `s`: the state, and where the call
stands after it (`none` once it has returned). -/
def stopStep (m : TagMonitor) (k : Nat) (s : Sub) : StopPc → TagMonitor × Option StopPc
  | .call =>
      match s.stopOnce with
      | .idle =>
          if s.stopClosed then (m.fail "close of closed channel", none)
          else (m.setSub k { s with stopOnce := .running, stopClosed := true }, some .waitDone)
      | .running => (m, some .waitOnce)
      | .done => (m, none)
  | .waitDone =>
      if s.doneClosed then (m.setSub k { s with stopOnce := .done }, none) else (m, some .waitDone)
  | .waitOnce => if s.stopOnce = .done then (m, none) else (m, some .waitOnce)

/-- The next subscription `Close` stops, or `m.wg.Wait()` when none is left. -/
def stopNext : List Nat → CloserPc
  | [] => .wgWait
  | k :: rest => .stopping k .call rest

/-- One step of the goroutine of `Close` number `c`, at `pc`; `order` is the order in which the
locked section ranges over the map of subscriptions, any order of its entries. -/
def closerStep (m : TagMonitor) (c : Nat) (pc : CloserPc) (order : List Nat) : TagMonitor :=
  match pc with
  | .start =>
      match m.closeOnce with
      | .idle => { m with closeOnce := .running }.setCloser c .closeStopCh
      | .running => m.setCloser c .waitOnce
      | .done => (m.note .closeReturned).setCloser c .finished
  | .waitOnce =>
      if m.closeOnce = .done then (m.note .closeReturned).setCloser c .finished else m
  | .closeStopCh =>
      if m.stopClosed then m.fail "close of closed channel"
      else { m with stopClosed := true }.setCloser c .collect
  | .collect =>
      if order.Perm (m.subs.map Prod.snd) then
        { m with closed := true, subs := [] }.setCloser c (stopNext order)
      else m
  | .stopping k spc rest =>
      match m.tagSubs[k]? with
      | some s =>
          match stopStep m k s spc with
          | (m', some spc') => m'.setCloser c (.stopping k spc' rest)
          | (m', none) => m'.setCloser c (stopNext rest)
      | none => m
  | .wgWait => if m.wg = 0 then m.setCloser c .closeEvents else m
  | .closeEvents =>
      if m.eventsClosed then m.fail "close of closed channel"
      else ({ m with eventsClosed := true, closeOnce := .done }.note .closeReturned).setCloser c
        .finished
  | .finished => m

/-- `Stop` on the handle of subscription `h` returns: its `Once` is done. -/
def stopReturns (m : TagMonitor) (j h : Nat) (removed : Option Nat) : TagMonitor :=
  match m.tagSubs[h]? with
  | some s =>
      ((m.setSub h { s with handleOnce := .done }).note (.stopReturned h removed)).setStopper j
        .finished
  | none => m

/-- One step of the goroutine of `Stop` number `j`, which is `st`. -/
def stopperStep (m : TagMonitor) (j : Nat) (st : Stopper) : TagMonitor :=
  match m.tagSubs[st.handle]? with
  | none => m
  | some h =>
      match st.pc with
      | .start =>
          match h.handleOnce with
          | .idle => (m.setSub st.handle { h with handleOnce := .running }).setStopper j .remove
          | .running => m.setStopper j .waitOnce
          | .done => (m.note (.stopReturned st.handle none)).setStopper j .finished
      | .waitOnce =>
          if h.handleOnce = .done then
            (m.note (.stopReturned st.handle none)).setStopper j .finished
          else m
      | .remove =>
          match m.subs.lookup h.id with
          | some k =>
              { m with subs := m.subs.filter (·.1 ≠ h.id) }.setStopper j (.stopping k .call)
          | none => stopReturns m j st.handle none
      | .stopping k spc =>
          match m.tagSubs[k]? with
          | some s =>
              match stopStep m k s spc with
              | (m', some spc') => m'.setStopper j (.stopping k spc')
              | (m', none) => stopReturns m' j st.handle (some k)
          | none => m
      | .finished => m

/-- A receive from `Wait()`: the oldest event, or the zero value once the channel is closed and
empty; it blocks otherwise. -/
def receive (m : TagMonitor) : TagMonitor :=
  match m.events with
  | ev :: rest => { m with events := rest }.note (.received (some ev))
  | [] => if m.eventsClosed then m.note (.received none) else m

/-- One action of a schedule. -/
inductive Action
  /-- a goroutine calls `AddTag` -/
  | addTag (name : String) (opts : List TagOption)
  /-- subscription `k` takes its next step -/
  | sub (k : Nat) (ch : SubChoice)
  /-- a goroutine calls `Close` -/
  | close
  /-- the goroutine of `Close` number `c` takes its next step -/
  | closer (c : Nat) (order : List Nat)
  /-- a goroutine calls `Stop` on the handle `AddTag` returned for subscription `k` -/
  | stop (k : Nat)
  /-- the goroutine of `Stop` number `j` takes its next step -/
  | stopper (j : Nat)
  /-- the consumer receives from `Wait()` -/
  | receive
  deriving DecidableEq, Repr

/-- One action; after a panic nothing runs. A handle exists once `AddTag` has returned it. -/
def TagMonitor.step (m : TagMonitor) (a : Action) : TagMonitor :=
  if m.panicked.isSome then m
  else
    match a with
    | .addTag name opts => addTag m name opts
    | .sub k ch =>
        match m.tagSubs[k]? with
        | some s => subStep m k s ch
        | none => m
    | .close => { m with closers := m.closers ++ [.start] }
    | .closer c order =>
        match m.closers[c]? with
        | some pc => closerStep m c pc order
        | none => m
    | .stop k =>
        match m.tagSubs[k]? with
        | some s =>
            if s.pc = .registered ∨ s.pc = .added then m
            else { m with stoppers := m.stoppers ++ [⟨k, .start⟩] }
        | none => m
    | .stopper j =>
        match m.stoppers[j]? with
        | some st => stopperStep m j st
        | none => m
    | .receive => receive m

/-- A schedule, run action by action. -/
def run (m : TagMonitor) (actions : List Action) : TagMonitor := actions.foldl TagMonitor.step m

theorem countP_set {α : Type} (p : α → Bool) :
    ∀ (l : List α) {k : Nat} {a : α} (b : α), l[k]? = some a →
      (l.set k b).countP p + (if p a then 1 else 0) = l.countP p + (if p b then 1 else 0)
  | [], _, _, _, h => by simp at h
  | x :: l, 0, a, b, h => by
      obtain rfl : x = a := by simpa using h
      simp only [List.set_cons_zero, List.countP_cons]
      omega
  | x :: l, k + 1, a, b, h => by
      have := countP_set p l b (by simpa using h)
      simp only [List.set_cons_succ, List.countP_cons]
      omega

/-- Whether the WaitGroup counts the subscription: `Add` done, `Done` not yet. -/
def SubPc.counted : SubPc → Bool
  | .registered | .finished => false
  | _ => true

/-- Whether the subscription is in `emit`'s second `select`. -/
def SubPc.sending : SubPc → Bool
  | .emitSend _ => true
  | _ => false

/-- Whether the goroutine of `Close` runs the body of `closeMx.Do`. -/
def CloserPc.inBody : CloserPc → Bool
  | .closeStopCh | .collect | .stopping .. | .wgWait | .closeEvents => true
  | .start | .waitOnce | .finished => false

/-- Whether the goroutine of `Close` has closed `m.stopCh` and not yet returned. -/
def CloserPc.pastStopCh : CloserPc → Bool
  | .collect | .stopping .. | .wgWait | .closeEvents => true
  | .start | .waitOnce | .closeStopCh | .finished => false

/-- The channels of a subscription agree with its goroutine: `doneCh` is closed once `run`
has returned, `stopCh` stays open until `stopOnce` runs, and `stopOnce` is done only once
`doneCh` is closed. -/
structure Sub.Ok (s : Sub) : Prop where
  done : s.doneClosed = true ↔ (s.pc = .wgDone ∨ s.pc = .finished)
  stopOpen : s.stopOnce = .idle → s.stopClosed = false
  stopDone : s.stopOnce = .done → s.doneClosed = true

/-- The invariant of the tag monitor's synchronisation. -/
structure Safe (m : TagMonitor) : Prop where
  subsOk : ∀ s ∈ m.tagSubs, s.Ok
  wg : m.wg = m.tagSubs.countP (·.pc.counted)
  bodyOnce : ∀ (i : Nat) (p : CloserPc), m.closers[i]? = some p → p.inBody = true →
    m.closeOnce = .running ∧
      ∀ (j : Nat) (q : CloserPc), m.closers[j]? = some q → q.inBody = true → j = i
  idleOpen : m.closeOnce = .idle → m.stopClosed = false
  stopOpen : CloserPc.closeStopCh ∈ m.closers → m.stopClosed = false
  stopShut : ∀ c ∈ m.closers, c.pastStopCh → m.stopClosed = true
  quiet : (CloserPc.closeEvents ∈ m.closers ∨ m.closeOnce = .done) →
    ∀ s ∈ m.tagSubs, s.pc.sending = false
  eventsDone : m.eventsClosed = true ↔ m.closeOnce = .done
  doneShut : m.closeOnce = .done → m.stopClosed = true

theorem Safe.congr {m m' : TagMonitor} (h : Safe m) (h1 : m'.tagSubs = m.tagSubs)
    (h2 : m'.wg = m.wg) (h3 : m'.closers = m.closers) (h4 : m'.closeOnce = m.closeOnce)
    (h5 : m'.stopClosed = m.stopClosed) (h6 : m'.eventsClosed = m.eventsClosed) : Safe m' := by
  obtain ⟨a, b, c, d, e, f, g, i, j⟩ := h
  refine ⟨?_, ?_, ?_, ?_, ?_, ?_, ?_, ?_, ?_⟩ <;> simp only [h1, h2, h3, h4, h5, h6] <;>
    assumption

theorem Safe.setSub_wg {m : TagMonitor} (h : Safe m) {k : Nat} {s : Sub}
    (hk : m.tagSubs[k]? = some s) (s' : Sub) (hok : s'.Ok)
    (hsend : s'.pc.sending = true → s.pc.sending = true ∨ m.stopClosed = false) (w : Nat)
    (hw : w + (if s.pc.counted then 1 else 0) = m.wg + (if s'.pc.counted then 1 else 0)) :
    Safe ({ m with wg := w }.setSub k s') := by
  have hmem : ∀ t ∈ m.tagSubs.set k s', t ∈ m.tagSubs ∨ t = s' := fun t ht =>
    List.mem_or_eq_of_mem_set ht
  refine ⟨fun t ht => ?_, ?_, h.bodyOnce, h.idleOpen, h.stopOpen, h.stopShut, fun hc t ht => ?_,
    h.eventsDone, h.doneShut⟩
  · rcases hmem t ht with ht | rfl
    exacts [h.subsOk t ht, hok]
  · have := countP_set (·.pc.counted) m.tagSubs s' hk
    simp only [TagMonitor.setSub] at this ⊢
    rw [h.wg] at hw
    omega
  · rcases hmem t ht with ht | rfl
    · exact h.quiet hc t ht
    · cases hs : t.pc.sending
      · rfl
      · have hs0 := h.quiet hc s (List.getElem?_mem hk)
        have hshut : m.stopClosed = true := by
          rcases hc with hc | hc
          exacts [h.stopShut _ hc rfl, h.doneShut hc]
        rcases hsend hs with h' | h' <;> simp_all

theorem Safe.setSub {m : TagMonitor} (h : Safe m) {k : Nat} {s : Sub}
    (hk : m.tagSubs[k]? = some s) (s' : Sub) (hok : s'.Ok)
    (hsend : s'.pc.sending = true → s.pc.sending = true ∨ m.stopClosed = false)
    (hc : s'.pc.counted = s.pc.counted) : Safe (m.setSub k s') :=
  h.setSub_wg hk s' hok hsend m.wg (by rw [hc])

theorem Safe.setStopper {m : TagMonitor} (h : Safe m) (j : Nat) (pc : StopperPc) :
    Safe (m.setStopper j pc) := h.congr rfl rfl rfl rfl rfl rfl

theorem Safe.note {m : TagMonitor} (h : Safe m) (n : Note) : Safe (m.note n) :=
  h.congr rfl rfl rfl rfl rfl rfl

theorem Sub.Ok.move {s : Sub} (hs : s.Ok) (hpc : s.pc ≠ .wgDone ∧ s.pc ≠ .finished)
    {pc : SubPc}
    (hnew : pc ≠ .wgDone ∧ pc ≠ .finished) : ({ s with pc := pc } : Sub).Ok := by
  refine ⟨?_, hs.stopOpen, hs.stopDone⟩
  have : s.doneClosed = false := by
    cases hd : s.doneClosed
    · rfl
    · exact absurd (hs.done.mp hd) fun h => h.elim hpc.1 hpc.2
  simp only [this, Bool.false_eq_true, false_iff]
  exact fun h => h.elim hnew.1 hnew.2

theorem safe_subStep {m : TagMonitor} (h : Safe m) (hp : m.panicked = none) {k : Nat} {s : Sub}
    (hk : m.tagSubs[k]? = some s) (ch : SubChoice) :
    Safe (subStep m k s ch) ∧ (subStep m k s ch).panicked = none := by
  have hs := h.subsOk s (List.getElem?_mem hk)
  unfold subStep
  cases hpc : s.pc with
  | registered =>
      exact ⟨h.setSub_wg hk _ (hs.move (by simp [hpc]) (by simp)) (by simp [SubPc.sending])
        (m.wg + 1) (by simp [hpc, SubPc.counted]), hp⟩
  | added =>
      exact ⟨(h.note _).setSub hk _
        (hs.move (by simp [hpc]) (by simp)) (by simp [SubPc.sending])
        (by simp [hpc, SubPc.counted]), hp⟩
  | start =>
      exact ⟨h.setSub hk _ (hs.move (by simp [hpc]) (by split <;> simp))
        (by split <;> simp [SubPc.sending])
        (by cases s.cfg.immediate <;> simp [hpc, SubPc.counted]), hp⟩
  | loop =>
      simp only [hpc]
      split
      · exact ⟨h.setSub hk _ (hs.move (by simp [hpc]) (by simp)) (by simp [SubPc.sending])
          (by simp [hpc, SubPc.counted]), hp⟩
      · split
        · exact ⟨h.setSub hk _ (hs.move (by simp [hpc]) (by simp)) (by simp [SubPc.sending])
            (by simp [hpc, SubPc.counted]), hp⟩
        · exact ⟨h, hp⟩
  | read =>
      exact ⟨h.setSub hk _ (hs.move (by simp [hpc]) (by simp)) (by simp [SubPc.sending])
        (by simp [hpc, SubPc.counted]), hp⟩
  | emitCheck ev =>
      simp only [hpc]
      refine ⟨h.setSub hk _ (hs.move (by simp [hpc]) (by split <;> simp)) (fun hsend => ?_)
        (by cases m.stopClosed <;> simp [hpc, SubPc.counted]), hp⟩
      split at hsend
      · simp [SubPc.sending] at hsend
      · exact .inr (Bool.eq_false_iff.mpr ‹_›)
  | emitSend ev =>
      simp only [hpc]
      have hloop : ({ s with pc := .loop } : Sub).Ok := hs.move (by simp [hpc]) (by simp)
      split
      · exact ⟨h.setSub hk _ hloop (by simp [SubPc.sending]) (by simp [hpc, SubPc.counted]),
          hp⟩
      · split
        · split
          · have := h.quiet (.inr (h.eventsDone.mp ‹_›)) s (List.getElem?_mem hk)
            simp [hpc, SubPc.sending] at this
          · exact ⟨(h.congr rfl rfl rfl rfl rfl rfl :
              Safe ({ m with events := m.events ++ [ev] }.note (.sent k ev))).setSub hk _ hloop
              (by simp [SubPc.sending]) (by simp [hpc, SubPc.counted]), hp⟩
        · exact ⟨h, hp⟩
  | closeDone =>
      simp only [hpc]
      have hd : s.doneClosed = false := by
        cases hd : s.doneClosed
        · rfl
        · simpa [hpc] using hs.done.mp hd
      simp only [hd, Bool.false_eq_true, if_false]
      exact ⟨h.setSub hk { s with doneClosed := true, pc := .wgDone }
        ⟨by simp, hs.stopOpen, fun _ => rfl⟩
        (by simp [SubPc.sending]) (by simp [hpc, SubPc.counted]), hp⟩
  | wgDone =>
      simp only [hpc]
      have hpos : 0 < m.wg := by
        rw [h.wg]
        exact List.countP_pos_iff.mpr ⟨s, List.getElem?_mem hk, by simp [hpc, SubPc.counted]⟩
      simp only [Nat.pos_iff_ne_zero.mp hpos, if_false]
      exact ⟨h.setSub_wg hk { s with pc := .finished }
        ⟨by simp [hs.done, hpc], hs.stopOpen, hs.stopDone⟩
        (by simp [SubPc.sending]) (m.wg - 1) (by simp [hpc, SubPc.counted]; omega), hp⟩
  | finished => exact ⟨h, hp⟩

theorem mem_set_cases {α : Type} {l : List α} {c : Nat} {q x : α} (hx : x ∈ l.set c q) :
    x = q ∨ ∃ j, j ≠ c ∧ l[j]? = some x := by
  obtain ⟨j, hj⟩ := List.mem_iff_getElem?.mp hx
  rw [List.getElem?_set] at hj
  split at hj
  · exact .inl (by split at hj <;> simp_all)
  · exact .inr ⟨j, Ne.symm ‹_›, hj⟩

theorem CloserPc.inBody_of_pastStopCh {p : CloserPc} (h : p.pastStopCh = true) :
    p.inBody = true := by
  cases p <;> simp_all [CloserPc.pastStopCh, CloserPc.inBody]

theorem stopStep_frame (m : TagMonitor) (k : Nat) (s : Sub) (spc : StopPc) :
    (stopStep m k s spc).1.closers = m.closers ∧ (stopStep m k s spc).1.stoppers = m.stoppers ∧
      (stopStep m k s spc).1.closeOnce = m.closeOnce ∧
      (stopStep m k s spc).1.stopClosed = m.stopClosed ∧
      (stopStep m k s spc).1.eventsClosed = m.eventsClosed := by
  unfold stopStep
  cases spc <;> simp only
  · split <;> (try split) <;> exact ⟨rfl, rfl, rfl, rfl, rfl⟩
  · split <;> exact ⟨rfl, rfl, rfl, rfl, rfl⟩
  · split <;> exact ⟨rfl, rfl, rfl, rfl, rfl⟩

theorem safe_stopStep {m : TagMonitor} (h : Safe m) (hp : m.panicked = none) {k : Nat} {s : Sub}
    (hk : m.tagSubs[k]? = some s) (spc : StopPc) :
    Safe (stopStep m k s spc).1 ∧ (stopStep m k s spc).1.panicked = none := by
  have hs := h.subsOk s (List.getElem?_mem hk)
  unfold stopStep
  cases spc with
  | call =>
      simp only
      split
      · rename_i hidle
        simp only [hs.stopOpen hidle, Bool.false_eq_true, if_false]
        exact ⟨h.setSub hk _ ⟨hs.done, by simp, by simp⟩ (fun h => .inl h) rfl, hp⟩
      · exact ⟨h, hp⟩
      · exact ⟨h, hp⟩
  | waitDone =>
      simp only
      split
      · exact ⟨h.setSub hk _ ⟨hs.done, by simp, fun _ => ‹_›⟩ (fun h => .inl h) rfl,
          hp⟩
      · exact ⟨h, hp⟩
  | waitOnce => simp only; split <;> exact ⟨h, hp⟩

theorem getElem?_set_of_ne {α : Type} {l : List α} {c j : Nat} {q : α} (h : j ≠ c) :
    (l.set c q)[j]? = l[j]? := List.getElem?_set_ne (Ne.symm h)

theorem Safe.setCloser_outside {m : TagMonitor} (h : Safe m) {c : Nat} {p : CloserPc}
    (hc : m.closers[c]? = some p) (q : CloserPc)
    (hq : q.inBody = false) : Safe (m.setCloser c q) := by
  have hq' : ∀ x, x.inBody = true → x ∈ m.closers.set c q → x ∈ m.closers :=
    fun x hx hmem => by
    rcases mem_set_cases hmem with rfl | ⟨j, -, hj⟩
    · simp_all
    · exact List.getElem?_mem hj
  have hidx : ∀ i x, (m.closers.set c q)[i]? = some x → x.inBody = true →
      i ≠ c ∧ m.closers[i]? = some x := fun i x hi hx => by
    by_cases hic : i = c
    · subst hic
      rw [List.getElem?_set_self (List.getElem?_eq_some_iff.mp hc).1] at hi
      cases hi; simp_all
    · exact ⟨hic, by rwa [getElem?_set_of_ne hic] at hi⟩
  refine ⟨h.subsOk, h.wg, fun i x hi hx => ?_, h.idleOpen,
    fun hmem => h.stopOpen (hq' _ rfl hmem),
    fun x hmem hx => h.stopShut x (hq' x (CloserPc.inBody_of_pastStopCh hx) hmem) hx,
    fun hc' => h.quiet (hc'.imp_left (hq' _ rfl)), h.eventsDone, h.doneShut⟩
  obtain ⟨-, hi'⟩ := hidx i x hi hx
  obtain ⟨hrun, huniq⟩ := h.bodyOnce i x hi' hx
  exact ⟨hrun, fun j y hj hy => huniq j y (hidx j y hj hy).2 hy⟩

section Unique

variable {l : List CloserPc} {c : Nat} {q : CloserPc}
  (huniq : ∀ (j : Nat) (y : CloserPc), l[j]? = some y → y.inBody = true → j = c)
include huniq

theorem index_eq_of_set {i : Nat} {x : CloserPc} (hi : (l.set c q)[i]? = some x)
    (hx : x.inBody = true) : i = c := by
  by_contra hne
  exact hne (huniq i x (by rwa [getElem?_set_of_ne hne] at hi) hx)

theorem eq_of_mem_set {x : CloserPc} (hx : x ∈ l.set c q) (hb : x.inBody = true) : x = q := by
  rcases mem_set_cases hx with rfl | ⟨j, hj, hjx⟩
  exacts [rfl, absurd (huniq j x hjx hb) hj]

theorem bodyOnce_set {o : OnceState} (hrun : o = .running) (i : Nat) (x : CloserPc)
    (hi : (l.set c q)[i]? = some x) (hx : x.inBody = true) :
    o = .running ∧
      ∀ (j : Nat) (y : CloserPc), (l.set c q)[j]? = some y → y.inBody = true → j = i :=
  ⟨hrun, fun _ _ hj hy => (index_eq_of_set huniq hj hy).trans (index_eq_of_set huniq hi hx).symm⟩

end Unique

theorem Safe.setCloser_past {m : TagMonitor} (h : Safe m) {c : Nat} {p : CloserPc}
    (hc : m.closers[c]? = some p) (hp : p.pastStopCh = true) (q : CloserPc)
    (hq : q.pastStopCh = true)
    (hqe : q = .closeEvents → ∀ s ∈ m.tagSubs, s.pc.sending = false) :
    Safe (m.setCloser c q) := by
  obtain ⟨hrun, huniq⟩ := h.bodyOnce c p hc (CloserPc.inBody_of_pastStopCh hp)
  refine ⟨h.subsOk, h.wg, bodyOnce_set huniq hrun, h.idleOpen, fun hmem => ?_,
    fun _ _ _ => h.stopShut p (List.getElem?_mem hc) hp, fun hc' => ?_, h.eventsDone,
    h.doneShut⟩
  · obtain rfl := eq_of_mem_set huniq hmem rfl
    cases hq
  · rcases hc' with hmem | hdone
    exacts [hqe (eq_of_mem_set huniq hmem rfl).symm, h.quiet (.inr hdone)]

theorem CloserPc.pastStopCh_stopNext (order : List Nat) : (stopNext order).pastStopCh = true := by
  cases order <;> rfl

theorem stopNext_ne_closeEvents (order : List Nat) : stopNext order ≠ .closeEvents := by
  cases order <;> simp [stopNext]

theorem safe_closerStep {m : TagMonitor} (h : Safe m) (hp : m.panicked = none) {c : Nat}
    {pc : CloserPc} (hc : m.closers[c]? = some pc) (order : List Nat) :
    Safe (closerStep m c pc order) ∧ (closerStep m c pc order).panicked = none := by
  have hmem := List.getElem?_mem hc
  have hlt := (List.getElem?_eq_some_iff.mp hc).1
  unfold closerStep
  cases pc with
  | start =>
      simp only
      split
      · rename_i hidle
        have huniq : ∀ (j : Nat) (y : CloserPc), m.closers[j]? = some y → y.inBody = true →
            j = c :=
          fun j y hj hy => by simpa [hidle] using (h.bodyOnce j y hj hy).1
        refine ⟨⟨h.subsOk, h.wg, bodyOnce_set huniq rfl, fun h' => (by cases h'),
          fun _ => h.idleOpen hidle, fun x hx hpast => ?_, fun hc' => ?_,
          ⟨fun he => by simpa [hidle] using h.eventsDone.mp he, fun h' => (by cases h')⟩,
          fun h' => (by cases h')⟩, hp⟩
        · obtain rfl := eq_of_mem_set huniq hx (CloserPc.inBody_of_pastStopCh hpast)
          cases hpast
        · rcases hc' with hmem | hdone
          · cases eq_of_mem_set huniq hmem rfl
          · cases hdone
      · exact ⟨h.setCloser_outside hc _ rfl, hp⟩
      · exact ⟨(h.note _).setCloser_outside hc _ rfl, hp⟩
  | waitOnce =>
      simp only
      split
      · exact ⟨(h.note _).setCloser_outside hc _ rfl, hp⟩
      · exact ⟨h, hp⟩
  | closeStopCh =>
      simp only [h.stopOpen hmem, Bool.false_eq_true, if_false]
      obtain ⟨hrun, huniq⟩ := h.bodyOnce c _ hc rfl
      refine ⟨⟨h.subsOk, h.wg, bodyOnce_set huniq hrun, fun h' => ?_,
        fun hx => ?_, fun _ _ _ => rfl, fun hc' => h.quiet (hc'.imp_left fun hx => ?_),
        h.eventsDone, fun _ => rfl⟩, hp⟩
      · simp [TagMonitor.setCloser, hrun] at h'
      · cases eq_of_mem_set huniq hx rfl
      · cases eq_of_mem_set huniq hx rfl
  | collect =>
      simp only
      split
      · exact ⟨(h.congr rfl rfl rfl rfl rfl rfl : Safe { m with closed := true, subs := [] })
          |>.setCloser_past hc rfl _ (CloserPc.pastStopCh_stopNext order)
            (fun h' => absurd h' (stopNext_ne_closeEvents order)), hp⟩
      · exact ⟨h, hp⟩
  | stopping k spc rest =>
      simp only
      split
      · rename_i s hk
        obtain ⟨hs', hp'⟩ := safe_stopStep h hp hk spc
        obtain ⟨hcl, -, -, -, -⟩ := stopStep_frame m k s spc
        have hc' : (stopStep m k s spc).1.closers[c]? = some (.stopping k spc rest) := by
          rw [hcl]; exact hc
        split
        · rename_i m' spc' heq
          rw [heq] at hs' hp' hc'
          exact ⟨hs'.setCloser_past hc' rfl _ rfl (by simp), hp'⟩
        · rename_i m' heq
          rw [heq] at hs' hp' hc'
          exact ⟨hs'.setCloser_past hc' rfl _ (CloserPc.pastStopCh_stopNext rest)
            (fun h' => absurd h' (stopNext_ne_closeEvents rest)), hp'⟩
      · exact ⟨h, hp⟩
  | wgWait =>
      simp only
      split
      · refine ⟨h.setCloser_past hc rfl _ rfl fun _ s hs => ?_, hp⟩
        have hz : m.tagSubs.countP (·.pc.counted) = 0 := h.wg ▸ ‹_›
        have := List.countP_eq_zero.mp hz s hs
        revert this
        cases s.pc <;> simp [SubPc.counted, SubPc.sending]
      · exact ⟨h, hp⟩
  | closeEvents =>
      obtain ⟨hrun, huniq⟩ := h.bodyOnce c _ hc rfl
      have hopen : m.eventsClosed = false := by
        cases he : m.eventsClosed
        · rfl
        · simpa [hrun] using h.eventsDone.mp he
      simp only [hopen, Bool.false_eq_true, if_false]
      have hshut := h.stopShut _ hmem rfl
      have hquiet := h.quiet (.inl hmem)
      have hnone : ∀ x ∈ m.closers.set c .finished, x.inBody = true → False :=
        fun x hx hb => by
          rcases mem_set_cases hx with rfl | ⟨j, hj, hjx⟩
          exacts [(by cases hb), hj (huniq j x hjx hb)]
      refine ⟨⟨h.subsOk, h.wg, fun i x hi hx => (hnone x (List.getElem?_mem hi) hx).elim,
        fun h' => (by cases h'), fun hx => (hnone _ hx rfl).elim, fun _ _ _ => hshut,
        fun _ => hquiet, ⟨fun _ => rfl, fun _ => rfl⟩, fun _ => hshut⟩, hp⟩
  | finished => exact ⟨h, hp⟩

theorem Safe.setHandleOnce {m : TagMonitor} (h : Safe m) {k : Nat} {s : Sub}
    (hk : m.tagSubs[k]? = some s) (o : OnceState) :
    Safe (m.setSub k { s with handleOnce := o }) := by
  have hs := h.subsOk s (List.getElem?_mem hk)
  exact h.setSub hk _ ⟨hs.done, hs.stopOpen, hs.stopDone⟩ (fun h => .inl h) rfl

theorem safe_stopReturns {m : TagMonitor} (h : Safe m) (hp : m.panicked = none) (j hd : Nat)
    (removed : Option Nat) : Safe (stopReturns m j hd removed) ∧
      (stopReturns m j hd removed).panicked = none := by
  unfold stopReturns
  split
  · exact ⟨((h.setHandleOnce ‹_› _).note _).setStopper _ _, hp⟩
  · exact ⟨h, hp⟩

theorem safe_stopperStep {m : TagMonitor} (h : Safe m) (hp : m.panicked = none) (j : Nat)
    (st : Stopper) : Safe (stopperStep m j st) ∧ (stopperStep m j st).panicked = none := by
  unfold stopperStep
  split
  · exact ⟨h, hp⟩
  · rename_i hd hhd
    cases st.pc with
    | start =>
        simp only
        split
        · exact ⟨(h.setHandleOnce hhd _).setStopper _ _, hp⟩
        · exact ⟨h.setStopper _ _, hp⟩
        · exact ⟨(h.note _).setStopper _ _, hp⟩
    | waitOnce =>
        simp only
        split
        · exact ⟨(h.note _).setStopper _ _, hp⟩
        · exact ⟨h, hp⟩
    | remove =>
        simp only
        split
        · exact ⟨(h.congr rfl rfl rfl rfl rfl rfl :
            Safe { m with subs := m.subs.filter (·.1 ≠ hd.id) }).setStopper _ _, hp⟩
        · exact safe_stopReturns h hp _ _ _
    | stopping k spc =>
        simp only
        split
        · rename_i s hk
          obtain ⟨hs', hp'⟩ := safe_stopStep h hp hk spc
          split
          · rename_i m' spc' heq
            rw [heq] at hs' hp'
            exact ⟨hs'.setStopper _ _, hp'⟩
          · rename_i m' heq
            rw [heq] at hs' hp'
            exact safe_stopReturns hs' hp' _ _ _
        · exact ⟨h, hp⟩
    | finished => exact ⟨h, hp⟩

theorem safe_addTag {m : TagMonitor} (h : Safe m) (hp : m.panicked = none) (name : String)
    (opts : List TagOption) :
    Safe (addTag m name opts) ∧ (addTag m name opts).panicked = none := by
  unfold addTag
  split
  · exact ⟨h.note _, hp⟩
  · split
    · exact ⟨h.note _, hp⟩
    · split
      · exact ⟨h.note _, hp⟩
      · refine ⟨⟨fun s hs => ?_, ?_, h.bodyOnce, h.idleOpen, h.stopOpen, h.stopShut,
          fun hc s hs => ?_, h.eventsDone, h.doneShut⟩, hp⟩
        · rcases List.mem_append.mp hs with hs | hs
          · exact h.subsOk s hs
          · simp only [List.mem_singleton] at hs
            subst hs
            exact ⟨by simp [newTagSubscription], fun _ => rfl, by simp [newTagSubscription]⟩
        · simp [List.countP_append, h.wg, newTagSubscription, SubPc.counted]
        · rcases List.mem_append.mp hs with hs | hs
          · exact h.quiet hc s hs
          · simp only [List.mem_singleton] at hs
            subst hs
            rfl

theorem safe_receive {m : TagMonitor} (h : Safe m) (hp : m.panicked = none) :
    Safe (receive m) ∧ (receive m).panicked = none := by
  unfold receive
  split
  · rename_i ev rest _
    exact ⟨(h.congr rfl rfl rfl rfl rfl rfl : Safe { m with events := rest }).note _, hp⟩
  · split
    · exact ⟨h.note _, hp⟩
    · exact ⟨h, hp⟩

theorem getElem?_concat_cases {α : Type} {l : List α} {a x : α} {i : Nat}
    (h : (l ++ [a])[i]? = some x) : l[i]? = some x ∨ x = a := by
  rw [List.getElem?_append] at h
  split at h
  · exact .inl h
  · rcases List.getElem?_eq_some_iff.mp h with ⟨hlt, rfl⟩
    exact .inr (by simp)

theorem safe_step {m : TagMonitor} (h : Safe m) (hp : m.panicked = none) (a : Action) :
    Safe (m.step a) ∧ (m.step a).panicked = none := by
  unfold TagMonitor.step
  simp only [hp, Option.isSome_none, Bool.false_eq_true, if_false]
  cases a with
  | addTag name opts => exact safe_addTag h hp name opts
  | sub k ch =>
      simp only
      split
      · exact safe_subStep h hp ‹_› ch
      · exact ⟨h, hp⟩
  | close =>
      simp only
      have hidx : ∀ (i : Nat) (x : CloserPc), (m.closers ++ [.start])[i]? = some x →
          x.inBody = true →
          m.closers[i]? = some x := fun i x hi hx => by
        rcases getElem?_concat_cases hi with hi | rfl
        exacts [hi, by cases hx]
      have hmem' : ∀ x ∈ m.closers ++ [.start], x.inBody = true → x ∈ m.closers :=
        fun x hx hb => by
          rcases List.mem_append.mp hx with hx | hx
          · exact hx
          · cases List.mem_singleton.mp hx; cases hb
      refine ⟨⟨h.subsOk, h.wg, fun i x hi hx => ?_, h.idleOpen,
        fun hmem => h.stopOpen (hmem' _ hmem rfl),
        fun x hx hpast => h.stopShut x (hmem' x hx (CloserPc.inBody_of_pastStopCh hpast)) hpast,
        fun hc => h.quiet (hc.imp_left fun hmem => hmem' _ hmem rfl), h.eventsDone,
        h.doneShut⟩, trivial⟩
      obtain ⟨hrun, huniq⟩ := h.bodyOnce i x (hidx i x hi hx) hx
      exact ⟨hrun, fun j y hj hy => huniq j y (hidx j y hj hy) hy⟩
  | closer c order =>
      simp only
      split
      · exact safe_closerStep h hp ‹_› order
      · exact ⟨h, hp⟩
  | stop k =>
      simp only
      split
      · split
        · exact ⟨h, hp⟩
        · exact ⟨h.congr rfl rfl rfl rfl rfl rfl, rfl⟩
      · exact ⟨h, hp⟩
  | stopper j =>
      simp only
      split
      · exact safe_stopperStep h hp j _
      · exact ⟨h, hp⟩
  | receive => exact safe_receive h hp

theorem safe_newTagMonitor {hasClient : Bool} {opts : List MonitorOption} {m : TagMonitor}
    (h : newTagMonitor hasClient opts = .ok m) : Safe m ∧ m.panicked = none := by
  simp only [newTagMonitor] at h
  split at h
  · cases h
    exact ⟨⟨by simp, by simp, by simp, fun _ => rfl, by simp, by simp, by simp, by simp,
      by simp⟩, rfl⟩
  · cases h

theorem safe_run {m : TagMonitor} (h : Safe m) (hp : m.panicked = none) :
    ∀ actions : List Action, Safe (run m actions) ∧ (run m actions).panicked = none
  | [] => ⟨h, hp⟩
  | a :: actions =>
      have h' := safe_step h hp a
      safe_run h'.1 h'.2 actions

/-- Under every interleaving of `AddTag`, `Stop`, `Close`, the subscriptions' goroutines and
receives from `Wait()`, whatever the reads, refreshes, tickers and `select` choices, the monitor
never panics: no send on the closed event channel, no second close of a channel, and no negative
WaitGroup counter. -/
theorem tagMonitor_never_panics {hasClient : Bool} {opts : List MonitorOption} {m : TagMonitor}
    (h : newTagMonitor hasClient opts = .ok m) (actions : List Action) :
    (run m actions).panicked = none :=
  (safe_run (safe_newTagMonitor h).1 (safe_newTagMonitor h).2 actions).2


def freshMonitor : TagMonitor :=
  ⟨64, false, 0, [], false, [], false, 0, .idle, [], [], [], [], none⟩

def quietTick : SubChoice := ⟨false, .error .eof, (false, none), true⟩

def closeWithSubscription : List Action :=
  [.addTag "Counter" [], .sub 0 quietTick, .sub 0 quietTick, .close, .closer 0 [],
    .closer 0 [], .closer 0 [0], .closer 0 [], .sub 0 quietTick, .sub 0 quietTick,
    .sub 0 quietTick, .sub 0 quietTick, .sub 0 quietTick, .closer 0 [], .sub 0 quietTick,
    .closer 0 [], .closer 0 []]

theorem tagMonitor_never_panics_closeWithSubscription :
    newTagMonitor true [] = .ok freshMonitor ∧
      (run freshMonitor closeWithSubscription).panicked = none :=
  ⟨rfl, tagMonitor_never_panics (rfl : newTagMonitor true [] = .ok freshMonitor) _⟩

/-- The event a note records as sent on the event channel. -/
def Note.sentEvent : Note → Option TagEvent
  | .sent _ ev => some ev
  | _ => none

/-- The event a note records as received from the event channel. -/
def Note.receivedEvent : Note → Option TagEvent
  | .received ev => ev
  | _ => none

/-- What a note appended by a step from `m` to `m'` says: an event was sent by a subscription in
`emit`'s send, the zero value was received from the closed and drained channel, `Close` returned
once `closeMx` is done, and `Stop` returned once the subscription it stopped has closed its
`doneCh`. -/
def NoteOk (m m' : TagMonitor) : Note → Prop
  | .sent k _ => ∃ s, m.tagSubs[k]? = some s ∧ s.pc.sending = true
  | .received none => m.events = [] ∧ m.eventsClosed = true
  | .closeReturned => m'.closeOnce = .done
  | .stopReturned _ (some k) => ∃ s, m'.tagSubs[k]? = some s ∧ s.doneClosed = true
  | .received (some _) | .addTagReturned _ | .stopReturned _ none => True

/-- Whether every closed `doneCh` of `m` is still closed in `m'`. -/
def DoneKept (m m' : TagMonitor) : Prop :=
  ∀ (k : Nat) (s : Sub), m.tagSubs[k]? = some s → s.doneClosed = true →
    ∃ s' : Sub, m'.tagSubs[k]? = some s' ∧ s'.doneClosed = true

/-- One step from `m` to `m'`: the record grows by notes `NoteOk` describes, the event buffer
gains the events they send and loses, from its head, those they receive, and what is closed or
done stays so. -/
structure Rel (m m' : TagMonitor) : Prop where
  log : ∃ notes, m'.log = m.log ++ notes ∧ (∀ n ∈ notes, NoteOk m m' n) ∧
    notes.filterMap Note.receivedEvent ++ m'.events = m.events ++ notes.filterMap Note.sentEvent
  doneKept : DoneKept m m'
  onceKept : m.closeOnce = .done → m'.closeOnce = .done

theorem DoneKept.refl {m m' : TagMonitor} (h : m'.tagSubs = m.tagSubs) : DoneKept m m' :=
  fun _ s hk hd => ⟨s, h ▸ hk, hd⟩

theorem DoneKept.setSub {m m' : TagMonitor} {k : Nat} {s s' : Sub} (hk : m.tagSubs[k]? = some s)
    (h : m'.tagSubs = m.tagSubs.set k s') (hd : s.doneClosed = true → s'.doneClosed = true) :
    DoneKept m m' := fun j t hj ht => by
  rw [h]
  by_cases hjk : j = k
  · subst hjk
    rw [hk] at hj
    cases hj
    exact ⟨s', by simp [List.getElem?_set_self (List.getElem?_eq_some_iff.mp hk).1], hd ht⟩
  · exact ⟨t, by rwa [List.getElem?_set_ne (Ne.symm hjk)], ht⟩

theorem DoneKept.trans {m₁ m₂ m₃ : TagMonitor} (h₁ : DoneKept m₁ m₂)
    (h₂ : DoneKept m₂ m₃) :
    DoneKept m₁ m₃ := fun k s hk hd =>
  let ⟨s', hk', hd'⟩ := h₁ k s hk hd
  h₂ k s' hk' hd'

theorem Rel.same {m m' : TagMonitor} (hl : m'.log = m.log) (he : m'.events = m.events)
    (hd : DoneKept m m') (ho : m.closeOnce = .done → m'.closeOnce = .done) : Rel m m' :=
  ⟨⟨[], by simp [hl], by simp, by simp [he]⟩, hd, ho⟩

theorem Rel.note {m m' : TagMonitor} {n : Note} (hl : m'.log = m.log ++ [n])
    (he : m'.events = m.events) (hd : DoneKept m m')
    (ho : m.closeOnce = .done → m'.closeOnce = .done) (hn : NoteOk m m' n)
    (hq : n.sentEvent = none ∧ n.receivedEvent = none) : Rel m m' :=
  ⟨⟨[n], hl, by simpa using hn, by simp [he, hq.1, hq.2]⟩, hd, ho⟩

theorem rel_subStep {m : TagMonitor} {k : Nat} {s : Sub} (hk : m.tagSubs[k]? = some s)
    (ch : SubChoice) : Rel m (subStep m k s ch) := by
  have keep : ∀ (m₁ : TagMonitor) (s' : Sub), m₁.tagSubs = m.tagSubs →
      (s.doneClosed = true → s'.doneClosed = true) → DoneKept m (m₁.setSub k s') :=
    fun m₁ s' h1 hd => DoneKept.setSub hk (by simp [TagMonitor.setSub, h1]) hd
  unfold subStep
  cases hpc : s.pc with
  | added => exact Rel.note rfl rfl (keep _ _ rfl id) id trivial ⟨rfl, rfl⟩
  | emitSend ev =>
      simp only [hpc]
      split
      · exact Rel.same rfl rfl (keep _ _ rfl id) id
      · split
        · split
          · exact Rel.same rfl rfl (.refl rfl) id
          · exact ⟨⟨[_], rfl, by simp [NoteOk, hk, hpc, SubPc.sending], rfl⟩, keep _ _ rfl id,
              id⟩
        · exact Rel.same rfl rfl (.refl rfl) id
  | closeDone =>
      simp only [hpc]
      split
      · exact Rel.same rfl rfl (.refl rfl) id
      · exact Rel.same rfl rfl (keep _ _ rfl fun _ => rfl) id
  | wgDone =>
      simp only [hpc]
      split
      · exact Rel.same rfl rfl (.refl rfl) id
      · exact Rel.same rfl rfl (keep _ _ rfl id) id
  | loop =>
      simp only [hpc]
      split
      · exact Rel.same rfl rfl (keep _ _ rfl id) id
      · split
        · exact Rel.same rfl rfl (keep _ _ rfl id) id
        · exact Rel.same rfl rfl (.refl rfl) id
  | finished => exact Rel.same rfl rfl (.refl rfl) id
  | _ => exact Rel.same rfl rfl (keep _ _ rfl id) id

theorem stopStep_rel {m : TagMonitor} (h : Safe m) {k : Nat} {s : Sub}
    (hk : m.tagSubs[k]? = some s) (spc : StopPc) :
    (stopStep m k s spc).1.log = m.log ∧ (stopStep m k s spc).1.events = m.events ∧
      (stopStep m k s spc).1.closeOnce = m.closeOnce ∧ DoneKept m (stopStep m k s spc).1 ∧
      ((stopStep m k s spc).2 = none →
        ∃ s', (stopStep m k s spc).1.tagSubs[k]? = some s' ∧ s'.doneClosed = true) := by
  have hs := h.subsOk s (List.getElem?_mem hk)
  have keep : ∀ s' : Sub, s'.doneClosed = s.doneClosed → DoneKept m (m.setSub k s') :=
    fun s' hd => DoneKept.setSub hk rfl (by rw [hd]; exact id)
  have hlt := (List.getElem?_eq_some_iff.mp hk).1
  unfold stopStep
  cases spc with
  | call =>
      simp only
      split
      · rename_i hidle
        simp only [hs.stopOpen hidle, Bool.false_eq_true, if_false]
        exact ⟨rfl, rfl, rfl, keep _ rfl, by simp⟩
      · exact ⟨rfl, rfl, rfl, DoneKept.refl rfl, by simp⟩
      · exact ⟨rfl, rfl, rfl, DoneKept.refl rfl, fun _ => ⟨s, hk, hs.stopDone ‹_›⟩⟩
  | waitDone =>
      simp only
      split
      · exact ⟨rfl, rfl, rfl, keep _ rfl,
          fun _ => ⟨{ s with stopOnce := .done }, by simp [TagMonitor.setSub, hlt], ‹_›⟩⟩
      · exact ⟨rfl, rfl, rfl, DoneKept.refl rfl, by simp⟩
  | waitOnce =>
      simp only
      split
      · exact ⟨rfl, rfl, rfl, DoneKept.refl rfl, fun _ => ⟨s, hk, hs.stopDone ‹_›⟩⟩
      · exact ⟨rfl, rfl, rfl, DoneKept.refl rfl, by simp⟩

theorem rel_stopReturns {m m₀ : TagMonitor} (j hd : Nat) (removed : Option Nat)
    (hdone : ∀ k, removed = some k → ∃ s, m.tagSubs[k]? = some s ∧ s.doneClosed = true)
    (hlog : m.log = m₀.log) (hev : m.events = m₀.events) (honce : m.closeOnce = m₀.closeOnce)
    (hkept : DoneKept m₀ m) : Rel m₀ (stopReturns m j hd removed) := by
  unfold stopReturns
  split
  · rename_i s hs
    have hk : DoneKept m (m.setSub hd { s with handleOnce := .done }) :=
      DoneKept.setSub hs rfl id
    refine Rel.note (show _ = m₀.log ++ [Note.stopReturned hd removed] by
      simp [TagMonitor.setStopper, TagMonitor.note, TagMonitor.setSub, hlog])
      hev (hkept.trans hk) (fun h => honce ▸ h) ?_ ⟨rfl, rfl⟩
    cases removed with
    | none => trivial
    | some k =>
        obtain ⟨s', hk', hd'⟩ := hdone k rfl
        exact hk k s' hk' hd'
  · exact Rel.same hlog hev hkept (honce ▸ ·)

theorem rel_closerStep {m : TagMonitor} (h : Safe m) (c : Nat) (pc : CloserPc)
    (order : List Nat) : Rel m (closerStep m c pc order) := by
  unfold closerStep
  cases pc with
  | start =>
      simp only
      split
      · exact Rel.same rfl rfl (.refl rfl) fun h' => by simp_all
      · exact Rel.same rfl rfl (.refl rfl) id
      · exact Rel.note rfl rfl (.refl rfl) id ‹_› ⟨rfl, rfl⟩
  | waitOnce =>
      simp only
      split
      · exact Rel.note rfl rfl (.refl rfl) id ‹_› ⟨rfl, rfl⟩
      · exact Rel.same rfl rfl (.refl rfl) id
  | closeStopCh => simp only; split <;> exact Rel.same rfl rfl (.refl rfl) id
  | collect => simp only; split <;> exact Rel.same rfl rfl (.refl rfl) id
  | stopping k spc rest =>
      simp only
      split
      · rename_i s hk
        obtain ⟨hl, he, ho, hd, -⟩ := stopStep_rel h hk spc
        split <;> rename_i heq <;> rw [heq] at hl he ho hd <;> exact Rel.same hl he hd (ho ▸ ·)
      · exact Rel.same rfl rfl (.refl rfl) id
  | wgWait => simp only; split <;> exact Rel.same rfl rfl (.refl rfl) id
  | closeEvents =>
      simp only
      split
      · exact Rel.same rfl rfl (.refl rfl) id
      · exact Rel.note rfl rfl (.refl rfl) (fun _ => rfl) rfl ⟨rfl, rfl⟩
  | finished => exact Rel.same rfl rfl (.refl rfl) id

theorem rel_stopperStep {m : TagMonitor} (h : Safe m) (j : Nat) (st : Stopper) :
    Rel m (stopperStep m j st) := by
  unfold stopperStep
  split
  · exact Rel.same rfl rfl (.refl rfl) id
  · rename_i hd hhd
    cases st.pc with
    | start =>
        simp only
        split
        · exact Rel.same rfl rfl (DoneKept.setSub hhd rfl id) id
        · exact Rel.same rfl rfl (.refl rfl) id
        · exact Rel.note rfl rfl (.refl rfl) id trivial ⟨rfl, rfl⟩
    | waitOnce =>
        simp only
        split
        · exact Rel.note rfl rfl (.refl rfl) id trivial ⟨rfl, rfl⟩
        · exact Rel.same rfl rfl (.refl rfl) id
    | remove =>
        simp only
        split
        · exact Rel.same rfl rfl (.refl rfl) id
        · exact rel_stopReturns _ _ _ (by simp) rfl rfl rfl (.refl rfl)
    | stopping k spc =>
        simp only
        split
        · rename_i s hk
          obtain ⟨hl, he, ho, hd, hn⟩ := stopStep_rel h hk spc
          split <;> rename_i heq <;> rw [heq] at hl he ho hd
          · exact Rel.same hl he hd (ho ▸ ·)
          · rw [heq] at hn
            exact rel_stopReturns _ _ _ (by simpa using hn rfl) hl he ho hd
        · exact Rel.same rfl rfl (.refl rfl) id
    | finished => exact Rel.same rfl rfl (.refl rfl) id

theorem rel_addTag (m : TagMonitor) (name : String) (opts : List TagOption) :
    Rel m (addTag m name opts) := by
  unfold addTag
  split
  · exact Rel.note rfl rfl (.refl rfl) id trivial ⟨rfl, rfl⟩
  · split
    · exact Rel.note rfl rfl (.refl rfl) id trivial ⟨rfl, rfl⟩
    · split
      · exact Rel.note rfl rfl (.refl rfl) id trivial ⟨rfl, rfl⟩
      · refine Rel.same rfl rfl (fun k s hk hd => ⟨s, ?_, hd⟩) id
        simp [List.getElem?_append_left (List.getElem?_eq_some_iff.mp hk).1, hk]

theorem rel_receive (m : TagMonitor) : Rel m (receive m) := by
  unfold receive
  split
  · rename_i ev rest he
    exact ⟨⟨[_], rfl, by simp [NoteOk], by simp [TagMonitor.note, he, Note.receivedEvent,
      Note.sentEvent]⟩, .refl rfl, id⟩
  · split
    · exact Rel.note rfl rfl (.refl rfl) id ⟨‹_›, ‹_›⟩ ⟨rfl, rfl⟩
    · exact Rel.same rfl rfl (.refl rfl) id

theorem rel_step {m : TagMonitor} (h : Safe m) (a : Action) : Rel m (m.step a) := by
  unfold TagMonitor.step
  split
  · exact Rel.same rfl rfl (.refl rfl) id
  · cases a with
    | addTag name opts => exact rel_addTag m name opts
    | sub k ch =>
        simp only
        split
        · exact rel_subStep ‹_› ch
        · exact Rel.same rfl rfl (.refl rfl) id
    | close => exact Rel.same rfl rfl (.refl rfl) id
    | closer c order =>
        simp only
        split
        · exact rel_closerStep h c _ order
        · exact Rel.same rfl rfl (.refl rfl) id
    | stop k =>
        simp only
        split
        · split <;> exact Rel.same rfl rfl (.refl rfl) id
        · exact Rel.same rfl rfl (.refl rfl) id
    | stopper j =>
        simp only
        split
        · exact rel_stopperStep h j _
        · exact Rel.same rfl rfl (.refl rfl) id
    | receive => exact rel_receive m

theorem NoteOk.sentEvent_eq_none {m m' : TagMonitor} {n : Note} (h : Safe m)
    (hd : m.closeOnce = .done) (hn : NoteOk m m' n) : n.sentEvent = none := by
  cases n with
  | sent k ev =>
      obtain ⟨s, hk, hsend⟩ := hn
      simp [h.quiet (.inr hd) s (List.getElem?_mem hk)] at hsend
  | _ => rfl

theorem Rel.drained {m m' : TagMonitor} (h : Safe m) (hr : Rel m m')
    (hd : m.closeOnce = .done) (he : m.events = []) :
    m'.closeOnce = .done ∧ m'.events = [] := by
  obtain ⟨⟨notes, -, hn, hb⟩, -, ho⟩ := hr
  have hs : notes.filterMap Note.sentEvent = [] :=
    List.filterMap_eq_nil_iff.mpr fun n hm => (hn n hm).sentEvent_eq_none h hd
  rw [he, hs] at hb
  exact ⟨ho hd, (List.append_eq_nil.mp hb).2⟩

theorem run_append (m : TagMonitor) (pre post : List Action) :
    run m (pre ++ post) = run (run m pre) post := List.foldl_append _ _ _ _

/-- What the record says of the state: the events received, then those still buffered, are
the events sent; once the zero value was received, the channel stays drained; `Close` has
returned only once `closeMx` is done; and a `Stop` that removed subscription `k` has returned
only once `k` has closed its `doneCh`. -/
structure Logged (m : TagMonitor) : Prop where
  fifo : m.log.filterMap Note.receivedEvent ++ m.events = m.log.filterMap Note.sentEvent
  drained : Note.received none ∈ m.log → m.closeOnce = .done ∧ m.events = []
  closed : Note.closeReturned ∈ m.log → m.closeOnce = .done
  stopped : ∀ (hd k : Nat), Note.stopReturned hd (some k) ∈ m.log →
    ∃ s, m.tagSubs[k]? = some s ∧ s.doneClosed = true

theorem Logged.rel {m m' : TagMonitor} (h : Logged m) (hs : Safe m) (hr : Rel m m') :
    Logged m' := by
  obtain ⟨notes, hl, hn, hb⟩ := hr.log
  refine ⟨?_, fun hc => ?_, fun hc => ?_, fun hd k hst => ?_⟩
  · rw [hl, List.filterMap_append, List.filterMap_append, List.append_assoc, hb,
      ← List.append_assoc, h.fifo]
  · rw [hl, List.mem_append] at hc
    rcases hc with hc | hc
    · exact hr.drained hs (h.drained hc).1 (h.drained hc).2
    · obtain ⟨he, hec⟩ := hn _ hc
      exact hr.drained hs (hs.eventsDone.mp hec) he
  · rw [hl, List.mem_append] at hc
    rcases hc with hc | hc
    exacts [hr.onceKept (h.closed hc), hn _ hc]
  · rw [hl, List.mem_append] at hst
    rcases hst with hst | hst
    · obtain ⟨s, hk, hdc⟩ := h.stopped hd k hst
      exact hr.doneKept k s hk hdc
    · exact hn _ hst

theorem logged_run {m : TagMonitor} (h : Safe m) (hp : m.panicked = none) (hl : Logged m) :
    ∀ actions : List Action, Logged (run m actions)
  | [] => hl
  | a :: actions =>
      have h' := safe_step h hp a
      logged_run h'.1 h'.2 (hl.rel h (rel_step h a)) actions

theorem safe_logged_newTagMonitor {hasClient : Bool} {opts : List MonitorOption}
    {m : TagMonitor} (h : newTagMonitor hasClient opts = .ok m) :
    Safe m ∧ m.panicked = none ∧ Logged m := by
  obtain ⟨hs, hp⟩ := safe_newTagMonitor h
  simp only [newTagMonitor] at h
  split at h
  · cases h
    exact ⟨hs, hp, ⟨rfl, by simp, by simp, by simp⟩⟩
  · cases h

section Avoids

variable {F : TagMonitor → Prop} {bad : Note → Prop}
  (hkeep : ∀ m a, Safe m → F m → F (m.step a))
  (hgood : ∀ m m' n, Safe m → F m → NoteOk m m' n → ¬bad n)
include hkeep hgood

theorem run_avoids : ∀ (actions : List Action) {m : TagMonitor}, Safe m → m.panicked = none →
    F m → F (run m actions) ∧
      ∃ notes, (run m actions).log = m.log ++ notes ∧ ∀ n ∈ notes, ¬bad n
  | [], _, _, _, hf => ⟨hf, [], by simp [run], by simp⟩
  | a :: actions, m, h, hp, hf => by
      obtain ⟨⟨n₁, hl₁, hn₁, -⟩, -, -⟩ := rel_step h a
      obtain ⟨h', hp'⟩ := safe_step h hp a
      obtain ⟨hf', n₂, hl₂, hn₂⟩ := run_avoids actions h' hp' (hkeep m a h hf)
      refine ⟨hf', n₁ ++ n₂, ?_, fun n hn => ?_⟩
      · show (run (m.step a) actions).log = _
        rw [hl₂, hl₁, List.append_assoc]
      · rcases List.mem_append.mp hn with hn | hn
        exacts [hgood m _ n h hf (hn₁ n hn), hn₂ n hn]

end Avoids

/-- Once `Close` has returned, the event channel is closed, and no subscription sends on it again,
whatever the monitor does next. -/
theorem close_ends_events {hasClient : Bool} {opts : List MonitorOption} {m : TagMonitor}
    (h : newTagMonitor hasClient opts = .ok m) (pre post : List Action)
    (hc : Note.closeReturned ∈ (run m pre).log) :
    (run m (pre ++ post)).eventsClosed = true ∧
      ∃ notes, (run m (pre ++ post)).log = (run m pre).log ++ notes ∧
        ∀ k ev, Note.sent k ev ∉ notes := by
  obtain ⟨h₀, hp₀, hl₀⟩ := safe_logged_newTagMonitor h
  obtain ⟨hs, hp⟩ := safe_run h₀ hp₀ pre
  obtain ⟨hdone, notes, hl, hn⟩ := @run_avoids (·.closeOnce = .done)
    (fun n => ∃ k ev, n = .sent k ev) (fun m a h => (rel_step h a).onceKept)
    (fun m _ n h hm hn ⟨k, ev, he⟩ => by
      subst he
      cases hn.sentEvent_eq_none h hm)
    post _ hs hp ((logged_run h₀ hp₀ hl₀ pre).closed hc)
  rw [run_append]
  exact ⟨(safe_run hs hp post).1.eventsDone.mpr hdone, notes, hl,
    fun k ev hm => hn _ hm ⟨k, ev, rfl⟩⟩

theorem close_ends_events_closeWithSubscription :
    newTagMonitor true [] = .ok freshMonitor ∧
      Note.closeReturned ∈ (run freshMonitor closeWithSubscription).log ∧
      (run freshMonitor (closeWithSubscription ++ [.addTag "Counter" [], .receive])).eventsClosed =
        true ∧
      ∃ notes,
        (run freshMonitor (closeWithSubscription ++ [.addTag "Counter" [], .receive])).log =
          (run freshMonitor closeWithSubscription).log ++ notes ∧
        ∀ k ev, Note.sent k ev ∉ notes :=
  ⟨rfl, by decide, close_ends_events (rfl : newTagMonitor true [] = .ok freshMonitor)
    closeWithSubscription _ (by decide)⟩

/-- Once a receive from `Wait()` has returned the closed channel's zero value, the consumer has
received every event the subscriptions sent, each once and in the order it was sent. -/
theorem wait_drains_every_event {hasClient : Bool} {opts : List MonitorOption} {m : TagMonitor}
    (h : newTagMonitor hasClient opts = .ok m) (actions : List Action)
    (hr : Note.received none ∈ (run m actions).log) :
    (run m actions).log.filterMap Note.receivedEvent =
      (run m actions).log.filterMap Note.sentEvent := by
  obtain ⟨h₀, hp₀, hl₀⟩ := safe_logged_newTagMonitor h
  have hl := logged_run h₀ hp₀ hl₀ actions
  simpa [(hl.drained hr).2] using hl.fifo

def sendCloseDrain : List Action :=
  [.addTag "Counter" [], .sub 0 quietTick, .sub 0 quietTick, .sub 0 quietTick, .sub 0 quietTick,
    .sub 0 quietTick, .sub 0 quietTick, .close, .closer 0 [], .closer 0 [], .closer 0 [0],
    .closer 0 [], .sub 0 quietTick, .sub 0 quietTick, .closer 0 [], .sub 0 quietTick,
    .closer 0 [], .closer 0 [], .receive, .receive]

set_option maxRecDepth 4000 in
theorem wait_drains_every_event_sendCloseDrain :
    newTagMonitor true [] = .ok freshMonitor ∧
      Note.received none ∈ (run freshMonitor sendCloseDrain).log ∧
      (run freshMonitor sendCloseDrain).log.filterMap Note.receivedEvent =
        (run freshMonitor sendCloseDrain).log.filterMap Note.sentEvent :=
  ⟨rfl, by decide, wait_drains_every_event (rfl : newTagMonitor true [] = .ok freshMonitor) _
    (by decide)⟩

theorem Sub.Ok.not_sending {s : Sub} (hs : s.Ok) (hd : s.doneClosed = true) :
    s.pc.sending = false := by
  rcases hs.done.mp hd with h | h <;> simp [h, SubPc.sending]

/-- Once a `Stop` that removed subscription `k` from the map has returned, the goroutine of `k`
has left `run`, and `k` sends no event again, whatever the monitor does next. -/
theorem stop_waits_for_subscription {hasClient : Bool} {opts : List MonitorOption}
    {m : TagMonitor} (h : newTagMonitor hasClient opts = .ok m) (pre post : List Action)
    {hd k : Nat} (hst : Note.stopReturned hd (some k) ∈ (run m pre).log) :
    (∃ s, (run m (pre ++ post)).tagSubs[k]? = some s ∧
      (s.pc = .wgDone ∨ s.pc = .finished)) ∧
      ∃ notes, (run m (pre ++ post)).log = (run m pre).log ++ notes ∧
        ∀ ev, Note.sent k ev ∉ notes := by
  obtain ⟨h₀, hp₀, hl₀⟩ := safe_logged_newTagMonitor h
  obtain ⟨hs, hp⟩ := safe_run h₀ hp₀ pre
  obtain ⟨⟨s, hk, hdc⟩, notes, hl, hn⟩ :=
    @run_avoids (fun m => ∃ s, m.tagSubs[k]? = some s ∧ s.doneClosed = true)
    (fun n => ∃ ev, n = .sent k ev)
    (fun m a h ⟨s, hk, hdc⟩ => (rel_step h a).doneKept k s hk hdc)
    (fun m _ n h ⟨s, hk, hdc⟩ hn ⟨ev, he⟩ => by
      subst he
      obtain ⟨s', hk', hsend⟩ := hn
      rw [hk] at hk'
      cases hk'
      simp [(h.subsOk s (List.getElem?_mem hk)).not_sending hdc] at hsend)
    post _ hs hp ((logged_run h₀ hp₀ hl₀ pre).stopped hd k hst)
  rw [run_append]
  exact ⟨⟨s, hk, ((safe_run hs hp post).1.subsOk s (List.getElem?_mem hk)).done.mp hdc⟩,
    notes, hl, fun ev hm => hn _ hm ⟨ev, rfl⟩⟩

def stopWhileSending : List Action :=
  [.addTag "Counter" [], .sub 0 quietTick, .sub 0 quietTick, .stop 0, .stopper 0, .stopper 0,
    .stopper 0, .sub 0 quietTick, .sub 0 quietTick, .sub 0 quietTick, .sub 0 quietTick,
    .sub 0 quietTick, .sub 0 quietTick, .stopper 0]

set_option maxRecDepth 4000 in
theorem stop_waits_for_subscription_stopWhileSending :
    newTagMonitor true [] = .ok freshMonitor ∧
      Note.stopReturned 0 (some 0) ∈ (run freshMonitor stopWhileSending).log ∧
      (∃ s, (run freshMonitor (stopWhileSending ++ [.sub 0 quietTick])).tagSubs[0]? = some s ∧
        (s.pc = .wgDone ∨ s.pc = .finished)) ∧
      ∃ notes, (run freshMonitor (stopWhileSending ++ [.sub 0 quietTick])).log =
        (run freshMonitor stopWhileSending).log ++ notes ∧ ∀ ev, Note.sent 0 ev ∉ notes :=
  ⟨rfl, by decide, @stop_waits_for_subscription true [] freshMonitor rfl stopWhileSending _ 0 0
    (by decide)⟩

end GoeipProofs.Monitor
