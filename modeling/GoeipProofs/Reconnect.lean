import GoeipProofs.Implicit

/-!
The reconnecting client of `pkg/client/reconnect.go`. Its `sync.RWMutex` guards the current
client and the closed flag; each locked section of `getClient`, `Close` and `executeWithRetry` is
one atomic step here, and so is each call of the operation on a client, which runs outside the
lock. A system is that shared state and the goroutines running `executeWithRetry` (for
`ReadTag` or `WriteTag`); a schedule interleaves their steps with calls of `Close` in any order,
and the environment answers each call of the factory, of an operation and of a client's
`Close`. A client is a pointer: every success of the factory makes a new one.
-/

namespace GoeipProofs.Reconnect

open GoeipProofs.Wire GoeipProofs.Implicit

/-- A `*Client`, by identity: the clients the factory makes are numbered from 0. -/
abbrev ClientRef := Nat

/-- The options `NewReconnectingClient` settles, with their defaults: `maxRetries`,
`autoConnect`, and whether a factory is set (`NewClient` unless `WithClientFactory(nil)`).
`retryDelay` only sets how long a goroutine sleeps, and the address and the logger are handed
to the factory. -/
structure Config where
  maxRetries : Int := 3
  autoConnect : Bool := true
  hasFactory : Bool := true
  deriving DecidableEq, Repr

/-- What happens to the clients, in order. -/
inductive Effect
  /-- the factory returned the new client `c` -/
  | created (c : ClientRef)
  /-- the factory failed with `e` -/
  | factoryFailed (e : GoError)
  /-- `Close` was called on the client `c` -/
  | clientClosed (c : ClientRef)
  /-- `ReconnectingClient.Close` ran -/
  | closeCalled
  deriving DecidableEq, Repr

/-- The effects that are calls of the factory. -/
def Effect.callsFactory : Effect → Bool
  | .created _ | .factoryFailed _ => true
  | .clientClosed _ | .closeCalled => false

/-- The fields of `ReconnectingClient` its mutex guards, with the number of clients the factory
has made and the effects so far. -/
structure Shared where
  client : Option ClientRef
  closed : Bool
  created : Nat
  log : List Effect
  deriving DecidableEq, Repr

/-- `fmt.Errorf("client is closed")` -/
def clientIsClosed : GoError := .errorf "client is closed" []

/-- `connect`, the factory answering `made`: the new client is stored, or the factory's error
returned. -/
def connect (cfg : Config) (made : Except GoError Unit) (s : Shared) :
    Except GoError Unit × Shared :=
  if cfg.hasFactory then
    match made with
    | .ok () =>
        (.ok (), { s with client := some s.created, created := s.created + 1,
                          log := s.log ++ [.created s.created] })
    | .error e => (.error e, { s with log := s.log ++ [.factoryFailed e] })
  else (.error (.errorf "no client factory configured" []), s)

/-- The read-locked section of `getClient`: the closed error, or the current client, where
`none` sends the goroutine on to the locked section. -/
def getClientFast (s : Shared) : Except GoError (Option ClientRef) :=
  if s.closed then .error clientIsClosed else .ok s.client

/-- The locked section of `getClient`: both checks again, then `connect`, whose new client,
numbered `s.created`, is the one returned. -/
def getClientSlow (cfg : Config) (made : Except GoError Unit) (s : Shared) :
    Except GoError ClientRef × Shared :=
  if s.closed then (.error clientIsClosed, s)
  else
    match s.client with
    | some c => (.ok c, s)
    | none =>
        match connect cfg made s with
        | (.error e, s') => (.error e, s')
        | (.ok (), s') => (.ok s.created, s')

/-- `Close`, the current client's own `Close` answering `closeErr`. -/
def close (closeErr : Except GoError Unit) (s : Shared) : Except GoError Unit × Shared :=
  let s : Shared := { s with closed := true, log := s.log ++ [.closeCalled] }
  match s.client with
  | some c => (closeErr, { s with client := none, log := s.log ++ [.clientClosed c] })
  | none => (.ok (), s)

/-- The locked section of `executeWithRetry` after the operation failed on `c`: the client is
closed and dropped only if it is still the current one. -/
def invalidate (c : ClientRef) (s : Shared) : Shared :=
  if s.client = some c then { s with client := none, log := s.log ++ [.clientClosed c] } else s

/-- The state `NewReconnectingClient` leaves: with `autoConnect`, after a first `connect` whose
failure is only logged. -/
def newReconnectingClient (cfg : Config) (made : Except GoError Unit) : Shared :=
  let s : Shared := ⟨none, false, 0, []⟩
  if cfg.autoConnect then (connect cfg made s).2 else s

/-- Where a goroutine running `executeWithRetry` stands. -/
inductive Pc
  /-- at the loop condition -/
  | loop
  /-- before the read-locked section of `getClient` -/
  | getClientFast
  /-- before the locked section of `getClient` -/
  | getClientSlow
  /-- before calling the operation on the client `c` -/
  | attempt (c : ClientRef)
  /-- before the locked section that invalidates `c` -/
  | invalidate (c : ClientRef)
  /-- returned `result` -/
  | done (result : Except GoError Bytes)
  deriving DecidableEq, Repr

/-- How one iteration of the loop ended. -/
inductive Attempt
  /-- `getClient` failed with `e` -/
  | noClient (e : GoError)
  /-- the operation ran on the client `c` and returned `r` -/
  | ran (c : ClientRef) (r : Except GoError Bytes)
  deriving DecidableEq, Repr

/-- The error an iteration ended with, if it failed. -/
def Attempt.error : Attempt → Option GoError
  | .noClient e => some e
  | .ran _ (.error e) => some e
  | .ran _ (.ok _) => none

/-- The locals of `executeWithRetry` (`i`, `lastErr`), where it stands, and the iterations it
has finished. -/
structure Frame where
  i : Int
  lastErr : Option GoError
  pc : Pc
  history : List Attempt
  deriving DecidableEq, Repr

/-- A goroutine that has just called `executeWithRetry`. -/
def Frame.start : Frame := ⟨0, none, .loop, []⟩

/-- `fmt.Errorf("max retries exceeded: %w", lastErr)`; a nil `lastErr` prints as
`%!w(<nil>)`. -/
def maxRetriesExceeded : Option GoError → GoError
  | some e => .wrap "max retries exceeded: %w" e
  | none => .errorf "max retries exceeded: %!w(<nil>)" []

/-- `continue` after `getClient` failed with `e`: `lastErr` is set and `i++` runs. -/
def Frame.retry (f : Frame) (e : GoError) : Frame :=
  { f with i := wrapInt64 (f.i + 1), lastErr := some e, pc := .loop,
           history := f.history ++ [.noClient e] }

/-- One step of a goroutine in `executeWithRetry`, the factory and the operation answering
`made` and `res` if the step calls them. -/
def stepFrame (cfg : Config) (made : Except GoError Unit) (res : Except GoError Bytes)
    (f : Frame) (s : Shared) : Frame × Shared :=
  match f.pc with
  | .loop =>
      if cfg.maxRetries < 0 ∨ f.i ≤ cfg.maxRetries then ({ f with pc := .getClientFast }, s)
      else ({ f with pc := .done (.error (maxRetriesExceeded f.lastErr)) }, s)
  | .getClientFast =>
      match getClientFast s with
      | .error e => (f.retry e, s)
      | .ok (some c) => ({ f with pc := .attempt c }, s)
      | .ok none => ({ f with pc := .getClientSlow }, s)
  | .getClientSlow =>
      match getClientSlow cfg made s with
      | (.error e, s') => (f.retry e, s')
      | (.ok c, s') => ({ f with pc := .attempt c }, s')
  | .attempt c =>
      match res with
      | .ok v => ({ f with pc := .done (.ok v), history := f.history ++ [.ran c (.ok v)] }, s)
      | .error e =>
          ({ f with lastErr := some e, pc := .invalidate c,
                    history := f.history ++ [.ran c (.error e)] }, s)
  | .invalidate c =>
      ({ f with i := wrapInt64 ((if f.i = 2147483647 then 0 else f.i) + 1), pc := .loop },
        invalidate c s)
  | .done _ => (f, s)

/-- The shared state and the goroutines that have called `ReadTag` or `WriteTag`, by the order
of their calls. -/
structure System where
  shared : Shared
  goroutines : List Frame
  deriving DecidableEq, Repr

/-- One action of a schedule. -/
inductive Action
  /-- a goroutine calls `ReadTag` or `WriteTag`, and so `executeWithRetry` -/
  | call
  /-- goroutine `g` takes its next step; the factory and the operation answer `made` and `res`
  if it calls them -/
  | step (g : Nat) (made : Except GoError Unit) (res : Except GoError Bytes)
  /-- a goroutine calls `Close`, the client's own `Close` answering `closeErr` -/
  | close (closeErr : Except GoError Unit)
  deriving DecidableEq, Repr

/-- Whether an action is a step of goroutine `g`. -/
def Action.isStepOf (g : Nat) : Action → Bool
  | .step g' _ _ => g' == g
  | _ => false

/-- The system before any goroutine has run. -/
def System.start (cfg : Config) (made : Except GoError Unit) : System :=
  ⟨newReconnectingClient cfg made, []⟩

/-- One action; a step of a goroutine that does not exist changes nothing. -/
def System.step (cfg : Config) (sys : System) : Action → System
  | .call => { sys with goroutines := sys.goroutines ++ [Frame.start] }
  | .step g made res =>
      match sys.goroutines[g]? with
      | some f =>
          let (f', s') := stepFrame cfg made res f sys.shared
          ⟨s', sys.goroutines.set g f'⟩
      | none => sys
  | .close closeErr => { sys with shared := (close closeErr sys.shared).2 }

/-- A schedule, run action by action. -/
def run (cfg : Config) (sys : System) (actions : List Action) : System :=
  actions.foldl (System.step cfg) sys

theorem stepFrame_shared (cfg : Config) (made : Except GoError Unit) (res : Except GoError Bytes)
    (f : Frame) (s : Shared) :
    (stepFrame cfg made res f s).2 = s ∨
      (stepFrame cfg made res f s).2 = (getClientSlow cfg made s).2 ∨
      ∃ c, (stepFrame cfg made res f s).2 = invalidate c s := by
  unfold stepFrame
  split
  · split <;> simp
  · split <;> simp
  · rcases h : getClientSlow cfg made s with ⟨_ | _, s'⟩ <;> simp
  · split <;> simp
  · exact .inr (.inr ⟨_, rfl⟩)
  · simp

theorem step_shared (cfg : Config) (sys : System) (a : Action) :
    (sys.step cfg a).shared = sys.shared ∨
      (∃ made, (sys.step cfg a).shared = (getClientSlow cfg made sys.shared).2) ∨
      (∃ c, (sys.step cfg a).shared = invalidate c sys.shared) ∨
      ∃ e, (sys.step cfg a).shared = (close e sys.shared).2 := by
  cases a with
  | call => simp [System.step]
  | step g made res =>
      simp only [System.step]
      split
      · rcases stepFrame_shared cfg made res _ sys.shared with h | h | ⟨c, h⟩
        · exact .inl h
        · exact .inr (.inl ⟨made, h⟩)
        · exact .inr (.inr (.inl ⟨c, h⟩))
      · simp
  | close e => exact .inr (.inr (.inr ⟨e, rfl⟩))

theorem getClientSlow_shared (cfg : Config) (made : Except GoError Unit) (s : Shared) :
    (getClientSlow cfg made s).2 =
      if s.closed = true ∨ s.client.isSome then s else (connect cfg made s).2 := by
  unfold getClientSlow
  cases s.closed <;> cases s.client <;> simp
  rcases connect cfg made s with ⟨_ | _, _⟩ <;> rfl

theorem close_closed (e : Except GoError Unit) (s : Shared) : (close e s).2.closed = true := by
  cases h : s.client <;> simp [close, h]

theorem run_append (cfg : Config) (sys : System) (xs ys : List Action) :
    run cfg sys (xs ++ ys) = run cfg (run cfg sys xs) ys := List.foldl_append _ _ _ _

theorem run_shared_induction (cfg : Config) (P : Shared → Prop)
    (hslow : ∀ made s, P s → P (getClientSlow cfg made s).2)
    (hinvalidate : ∀ c s, P s → P (invalidate c s))
    (hclose : ∀ e s, P s → P (close e s).2) :
    ∀ (actions : List Action) (sys : System), P sys.shared → P (run cfg sys actions).shared
  | [], _, h => h
  | a :: actions, sys, h => by
      refine run_shared_induction cfg P hslow hinvalidate hclose actions (sys.step cfg a) ?_
      rcases step_shared cfg sys a with e | ⟨made, e⟩ | ⟨c, e⟩ | ⟨err, e⟩ <;> rw [e]
      exacts [h, hslow made _ h, hinvalidate c _ h, hclose err _ h]

/-- What one step can do to a goroutine's frame, with `maxRetries = n`. -/
inductive Moves (n : Int) (f : Frame) : Frame → Prop
  /-- the loop condition holds -/
  | enter (h : f.pc = .loop) (hle : n < 0 ∨ f.i ≤ n) : Moves n f { f with pc := .getClientFast }
  /-- the loop condition fails and the loop returns -/
  | exit (h : f.pc = .loop) (hgt : ¬(n < 0 ∨ f.i ≤ n)) :
      Moves n f { f with pc := .done (.error (maxRetriesExceeded f.lastErr)) }
  /-- `getClient` failed -/
  | noClient (e : GoError) (h : f.pc = .getClientFast ∨ f.pc = .getClientSlow) :
      Moves n f (f.retry e)
  /-- `getClient` returned the client `c` -/
  | gotClient (c : ClientRef) (h : f.pc = .getClientFast ∨ f.pc = .getClientSlow) :
      Moves n f { f with pc := .attempt c }
  /-- no client was stored; on to the locked section -/
  | toSlow (h : f.pc = .getClientFast) : Moves n f { f with pc := .getClientSlow }
  /-- the operation succeeded -/
  | succeeded (c : ClientRef) (v : Bytes) (h : f.pc = .attempt c) :
      Moves n f { f with pc := .done (.ok v), history := f.history ++ [.ran c (.ok v)] }
  /-- the operation failed -/
  | failed (c : ClientRef) (e : GoError) (h : f.pc = .attempt c) :
      Moves n f { f with lastErr := some e, pc := .invalidate c,
                         history := f.history ++ [.ran c (.error e)] }
  /-- after the invalidation, the overflow guard and `i++` -/
  | next (c : ClientRef) (h : f.pc = .invalidate c) :
      Moves n f { f with i := wrapInt64 ((if f.i = 2147483647 then 0 else f.i) + 1), pc := .loop }
  /-- a goroutine that has returned stays so -/
  | stay (r : Except GoError Bytes) (h : f.pc = .done r) : Moves n f f

theorem stepFrame_moves (cfg : Config) (made : Except GoError Unit) (res : Except GoError Bytes)
    (f : Frame) (s : Shared) : Moves cfg.maxRetries f (stepFrame cfg made res f s).1 := by
  unfold stepFrame
  split <;> rename_i hpc
  · split
    · exact .enter hpc ‹_›
    · exact .exit hpc ‹_›
  · split
    · exact .noClient _ (.inl hpc)
    · exact .gotClient _ (.inl hpc)
    · exact .toSlow hpc
  · rcases getClientSlow cfg made s with ⟨_ | c, s'⟩
    · exact .noClient _ (.inr hpc)
    · exact .gotClient c (.inr hpc)
  · rcases res with e | v
    · exact .failed _ e hpc
    · exact .succeeded _ v hpc
  · exact .next _ hpc
  · exact .stay _ hpc

theorem run_frames_induction (cfg : Config) (P : Frame → Prop) (hstart : P Frame.start)
    (hmoves : ∀ f f', P f → Moves cfg.maxRetries f f' → P f') :
    ∀ (actions : List Action) (sys : System), (∀ f ∈ sys.goroutines, P f) →
      ∀ f ∈ (run cfg sys actions).goroutines, P f
  | [], _, h => h
  | a :: actions, sys, h => by
      refine run_frames_induction cfg P hstart hmoves actions (sys.step cfg a) ?_
      cases a with
      | call =>
          intro f hf
          rcases List.mem_append.mp hf with hf | hf
          exacts [h f hf, (List.mem_singleton.mp hf) ▸ hstart]
      | step g made res =>
          simp only [System.step]
          split
          · intro f' hf'
            rcases List.mem_or_eq_of_mem_set hf' with hf' | rfl
            · exact h f' hf'
            · exact hmoves _ _ (h _ (List.getElem?_mem ‹_›)) (stepFrame_moves ..)
          · exact h
      | close e => exact h

theorem step_goroutine (cfg : Config) {sys : System} {g : Nat} {f : Frame}
    (hf : sys.goroutines[g]? = some f) (a : Action) :
    ∃ f', (sys.step cfg a).goroutines[g]? = some f' ∧
      if a.isStepOf g then Moves cfg.maxRetries f f' else f' = f := by
  have hg : g < sys.goroutines.length := (List.getElem?_eq_some_iff.mp hf).1
  cases a with
  | call =>
      refine ⟨f, ?_, by simp [Action.isStepOf]⟩
      simp [System.step, List.getElem?_append_left hg, hf]
  | step g' made res =>
      simp only [System.step, Action.isStepOf]
      split
      · rename_i f₀ hf₀
        by_cases hgg : g' = g
        · subst hgg
          cases hf.symm.trans hf₀
          exact ⟨(stepFrame cfg made res f sys.shared).1, by simp [hg],
            by simpa using stepFrame_moves cfg made res f sys.shared⟩
        · exact ⟨f, by simp [List.getElem?_set_ne hgg, hf], by simp [hgg]⟩
      · by_cases hgg : g' = g
        · simp_all
        · exact ⟨f, hf, by simp [hgg]⟩
  | close e => exact ⟨f, hf, by simp [Action.isStepOf]⟩

/-- The lifecycle of the clients: the stored client is one the factory made and has not been
closed; every other client the factory made has been closed; only those are closed, and none
twice. -/
structure Lifecycle (s : Shared) : Prop where
  stored : ∀ c, s.client = some c → c < s.created ∧ .clientClosed c ∉ s.log
  made : ∀ c, c < s.created → s.client = some c ∨ .clientClosed c ∈ s.log
  closedMade : ∀ c, .clientClosed c ∈ s.log → c < s.created
  closedOnce : ∀ c, s.log.count (.clientClosed c) ≤ 1

theorem Lifecycle.drop {s : Shared} (h : Lifecycle s) {c : ClientRef} (hc : s.client = some c) :
    Lifecycle { s with client := none, log := s.log ++ [.clientClosed c] } := by
  obtain ⟨hlt, hnot⟩ := h.stored c hc
  refine ⟨by simp, fun d hd => ?_, fun d hd => ?_, fun d => ?_⟩
  · rcases h.made d hd with h' | h' <;> simp_all
  · simp only [List.mem_append, List.mem_singleton, Effect.clientClosed.injEq] at hd
    rcases hd with hd | rfl
    exacts [h.closedMade d hd, hlt]
  · rw [List.count_append, List.count_singleton]
    by_cases hd : d = c
    · subst hd; simp [List.count_eq_zero.mpr hnot]
    · simpa [Ne.symm hd] using h.closedOnce d

theorem Lifecycle.note {s : Shared} (h : Lifecycle s) {e : Effect}
    (he : ∀ c, e ≠ .clientClosed c) : Lifecycle { s with log := s.log ++ [e] } := by
  refine ⟨fun c hc => ?_, fun c hc => ?_, fun c hc => ?_, fun c => ?_⟩
  · simpa [(he c).symm] using h.stored c hc
  · simpa [(he c).symm] using h.made c hc
  · simp only [List.mem_append, List.mem_singleton] at hc
    exact hc.elim (h.closedMade c) fun hc => absurd hc.symm (he c)
  · simpa [List.count_append, List.count_singleton, he c] using h.closedOnce c

theorem Lifecycle.store {s : Shared} (h : Lifecycle s) (hnone : s.client = none) :
    Lifecycle { s with client := some s.created, created := s.created + 1 } := by
  have fresh : Effect.clientClosed s.created ∉ s.log := fun hc => by
    simpa using h.closedMade _ hc
  refine ⟨fun c hc => ?_, fun c hc => ?_, fun c hc => ?_, h.closedOnce⟩
  · cases hc; exact ⟨by simp, fresh⟩
  · rcases Nat.lt_succ_iff_lt_or_eq.mp hc with hc | rfl
    · exact .inr (by simpa [hnone] using h.made c hc)
    · simp
  · exact Nat.lt_succ_of_lt (h.closedMade c hc)

theorem Lifecycle.connect {s : Shared} (h : Lifecycle s) (hnone : s.client = none) (cfg : Config)
    (made : Except GoError Unit) : Lifecycle (connect cfg made s).2 := by
  unfold GoeipProofs.Reconnect.connect
  split
  · rcases made with e | ⟨⟩
    · exact h.note (by simp)
    · exact (h.note (e := .created s.created) (by simp)).store hnone
  · exact h

theorem Lifecycle.getClientSlow {s : Shared} (h : Lifecycle s) (cfg : Config)
    (made : Except GoError Unit) : Lifecycle (getClientSlow cfg made s).2 := by
  rw [getClientSlow_shared]
  split
  · exact h
  · exact h.connect (Option.not_isSome_iff_eq_none.mp (not_or.mp ‹_›).2) cfg made

theorem Lifecycle.invalidate {s : Shared} (h : Lifecycle s) (c : ClientRef) :
    Lifecycle (invalidate c s) := by
  unfold GoeipProofs.Reconnect.invalidate
  split
  · exact h.drop ‹_›
  · exact h

theorem Lifecycle.close {s : Shared} (h : Lifecycle s) (e : Except GoError Unit) :
    Lifecycle (close e s).2 := by
  have h' : Lifecycle { s with closed := true, log := s.log ++ [.closeCalled] } :=
    have h' := h.note (e := .closeCalled) (by simp)
    ⟨h'.1, h'.2, h'.3, h'.4⟩
  cases hc : s.client with
  | none => simpa [GoeipProofs.Reconnect.close, hc] using h'
  | some c => simpa [GoeipProofs.Reconnect.close, hc] using h'.drop (c := c) hc

theorem lifecycle_start (cfg : Config) (made : Except GoError Unit) :
    Lifecycle (newReconnectingClient cfg made) := by
  have h0 : Lifecycle ⟨none, false, 0, []⟩ := ⟨by simp, by simp, by simp, by simp⟩
  unfold newReconnectingClient
  split
  · exact h0.connect rfl cfg made
  · exact h0

/-- Along every schedule, whatever the factory, the operations and the clients' `Close` answer:
no client is closed twice, the client `getClient` hands out was never closed, and no client the
factory made is dropped without being closed. -/
theorem clients_closed_at_most_once (cfg : Config) (made : Except GoError Unit)
    (actions : List Action) : Lifecycle (run cfg (System.start cfg made) actions).shared :=
  run_shared_induction cfg Lifecycle (fun made _ h => h.getClientSlow cfg made)
    (fun c _ h => h.invalidate c) (fun e _ h => h.close e) actions _ (lifecycle_start cfg made)

/-- From `s` to `s'`, the client stays closed: still closed, no client stored, and nothing but
effects that do not call the factory. -/
def Frozen (s s' : Shared) : Prop :=
  s'.closed = true ∧ s'.client = none ∧
    ∃ es, s'.log = s.log ++ es ∧ ∀ e ∈ es, e.callsFactory = false

theorem Frozen.refl {s : Shared} (hc : s.closed = true) (hn : s.client = none) : Frozen s s :=
  ⟨hc, hn, [], by simp, by simp⟩

theorem Frozen.trans {s₁ s₂ s₃ : Shared} (h₁ : Frozen s₁ s₂) (h₂ : Frozen s₂ s₃) :
    Frozen s₁ s₃ := by
  obtain ⟨-, -, es₁, hl₁, hf₁⟩ := h₁
  obtain ⟨hc, hn, es₂, hl₂, hf₂⟩ := h₂
  refine ⟨hc, hn, es₁ ++ es₂, by simp [hl₂, hl₁], fun e he => ?_⟩
  rcases List.mem_append.mp he with he | he
  exacts [hf₁ e he, hf₂ e he]

theorem frozen_step {s : Shared} (hc : s.closed = true) (hn : s.client = none) :
    (∀ cfg made, Frozen s (getClientSlow cfg made s).2) ∧ (∀ c, Frozen s (invalidate c s)) ∧
      ∀ e, Frozen s (close e s).2 := by
  refine ⟨fun cfg made => ?_, fun c => ?_, fun e => ?_⟩
  · simpa [getClientSlow_shared, hc] using Frozen.refl hc hn
  · simpa [invalidate, hn] using Frozen.refl hc hn
  · simp only [close, hn]
    exact ⟨rfl, rfl, [.closeCalled], rfl, by simp [Effect.callsFactory]⟩

/-- A closed state stores no client. -/
def ClosedEmpty (s : Shared) : Prop := s.closed = true → s.client = none

theorem closedEmpty_run (cfg : Config) (made : Except GoError Unit) (actions : List Action) :
    ClosedEmpty (run cfg (System.start cfg made) actions).shared := by
  refine run_shared_induction cfg ClosedEmpty (fun made s h => ?_) (fun c s h => ?_)
    (fun e s h => ?_) actions _ ?_
  · rw [getClientSlow_shared]
    split
    · exact h
    · unfold connect
      split
      · rcases made with _ | _ <;> simp_all [ClosedEmpty]
      · simp_all [ClosedEmpty]
  · unfold invalidate ClosedEmpty at *
    split <;> simp_all
  · unfold close ClosedEmpty
    cases s.client <;> simp
  · unfold System.start newReconnectingClient connect ClosedEmpty
    split <;> [split <;> [rcases made with _ | _ <;> simp; simp]; simp]

/-- `Close` prevents future reconnections: from the first state that is closed on, whatever
the goroutines do, the state stays closed with no client and the factory is never called. -/
theorem close_is_final (cfg : Config) (made : Except GoError Unit) (pre post : List Action)
    (h : (run cfg (System.start cfg made) pre).shared.closed = true) :
    Frozen (run cfg (System.start cfg made) pre).shared
      (run cfg (System.start cfg made) (pre ++ post)).shared := by
  rw [run_append]
  have hn := closedEmpty_run cfg made pre h
  refine run_shared_induction cfg (Frozen (run cfg (System.start cfg made) pre).shared)
    (fun made s hs => hs.trans ((frozen_step hs.1 hs.2.1).1 cfg made))
    (fun c s hs => hs.trans ((frozen_step hs.1 hs.2.1).2.1 c))
    (fun e s hs => hs.trans ((frozen_step hs.1 hs.2.1).2.2 e)) post _ (Frozen.refl h hn)

/-- A goroutine calls `ReadTag`, and takes two steps while the factory would succeed. -/
def lateCall : List Action := [.call, .step 0 (.ok ()) (.ok []), .step 0 (.ok ()) (.ok [])]

theorem close_is_final_lateCall :
    (run {} (System.start {} (.ok ())) [.close (.ok ())]).shared.closed = true ∧
      Frozen (run {} (System.start {} (.ok ())) [.close (.ok ())]).shared
        (run {} (System.start {} (.ok ())) ([.close (.ok ())] ++ lateCall)).shared :=
  ⟨rfl, close_is_final {} (.ok ()) [.close (.ok ())] lateCall rfl⟩

/-- What `executeWithRetry` with `maxRetries = n` returns, read against the iterations it made:
the result of the first operation that succeeded, after at most `n` failed iterations; or, after
`n + 1` failed iterations, the error of the last one, wrapped. -/
def Returned (n : Nat) (history : List Attempt) : Except GoError Bytes → Prop
  | .ok v => ∃ failed c, history = failed ++ [.ran c (.ok v)] ∧ failed.length ≤ n ∧
      ∀ a ∈ failed, a.error.isSome
  | .error e => history.length = n + 1 ∧ (∀ a ∈ history, a.error.isSome) ∧
      ∃ last, history.getLast?.bind Attempt.error = some last ∧
        e = .wrap "max retries exceeded: %w" last

/-- `k` iterations finished, all failed, and `lastErr` is the error of the last. -/
def Counted (history : List Attempt) (lastErr : Option GoError) (k : Int) : Prop :=
  (history.length : Int) = k ∧ (∀ a ∈ history, a.error.isSome) ∧
    lastErr = history.getLast?.bind Attempt.error

theorem Counted.snoc {history : List Attempt} {lastErr : Option GoError} {k : Int}
    (h : Counted history lastErr k) {a : Attempt} {e : GoError} (ha : a.error = some e) :
    Counted (history ++ [a]) (some e) (k + 1) := by
  obtain ⟨hlen, hall, -⟩ := h
  refine ⟨by simp [hlen], fun b hb => ?_, by simp [ha]⟩
  rcases List.mem_append.mp hb with hb | hb
  · exact hall b hb
  · simp_all

theorem Counted.nonneg {history : List Attempt} {lastErr : Option GoError} {k : Int}
    (h : Counted history lastErr k) : 0 ≤ k := h.1 ▸ Int.natCast_nonneg _

/-- The invariant of a goroutine in `executeWithRetry` with `maxRetries = n`. -/
def Frame.Consistent (n : Int) (f : Frame) : Prop :=
  match f.pc with
  | .loop => Counted f.history f.lastErr f.i ∧ f.i ≤ n + 1
  | .getClientFast | .getClientSlow | .attempt _ => Counted f.history f.lastErr f.i ∧ f.i ≤ n
  | .invalidate _ => Counted f.history f.lastErr (f.i + 1) ∧ f.i ≤ n
  | .done r => Returned n.toNat f.history r

theorem Frame.consistent_start (n : Int) (h0 : 0 ≤ n) : Frame.start.Consistent n :=
  ⟨⟨by simp [Frame.start], by simp [Frame.start], rfl⟩, by simp [Frame.start]; omega⟩

theorem Moves.consistent {n : Int} (h0 : 0 ≤ n) (h1 : n < 2147483647) {f f' : Frame}
    (hf : f.Consistent n) (hm : Moves n f f') : f'.Consistent n := by
  cases hm with
  | enter h hle =>
      simp only [Frame.Consistent, h] at hf ⊢
      exact ⟨hf.1, by omega⟩
  | exit h hgt =>
      simp only [Frame.Consistent, h] at hf ⊢
      obtain ⟨⟨hlen, hall, hlast⟩, hle⟩ := hf
      have hnil : f.history ≠ [] := fun hn => by simp [hn] at hlen; omega
      obtain ⟨a, ha⟩ := Option.isSome_iff_exists.mp (hall _ (List.getLast_mem hnil))
      have : f.history.getLast?.bind Attempt.error = some a := by
        simp [List.getLast?_eq_getLast _ hnil, ha]
      exact ⟨by omega, hall, a, this, by rw [hlast, this]; rfl⟩
  | noClient e h =>
      obtain ⟨hc, hle⟩ : Counted f.history f.lastErr f.i ∧ f.i ≤ n := by
        rcases h with h | h <;> simpa only [Frame.Consistent, h] using hf
      have := hc.nonneg
      simp only [Frame.Consistent, Frame.retry, wrapInt64_of_lt (by omega : -2 ^ 63 ≤ f.i + 1)
        (by omega)]
      exact ⟨hc.snoc (a := .noClient e) rfl, by omega⟩
  | gotClient c h =>
      rcases h with h | h <;> simpa [Frame.Consistent, h] using hf
  | toSlow h => simpa [Frame.Consistent, h] using hf
  | succeeded c v h =>
      simp only [Frame.Consistent, h] at hf ⊢
      obtain ⟨⟨hlen, hall, -⟩, hle⟩ := hf
      exact ⟨f.history, c, rfl, by omega, hall⟩
  | failed c e h =>
      simp only [Frame.Consistent, h] at hf ⊢
      exact ⟨hf.1.snoc rfl, hf.2⟩
  | next c h =>
      simp only [Frame.Consistent, h] at hf ⊢
      have hi : f.i ≠ 2147483647 := by omega
      have := hf.1.nonneg
      have h63 : wrapInt64 (f.i + 1) = f.i + 1 := wrapInt64_of_lt (by omega) (by omega)
      simp only [hi, if_false, h63]
      exact ⟨hf.1, by omega⟩
  | stay r h => exact hf

theorem Frame.Consistent.length_le {n : Int} {f : Frame} (h0 : 0 ≤ n) (hf : f.Consistent n) :
    f.history.length ≤ n.toNat + 1 := by
  unfold Frame.Consistent at hf
  split at hf
  · have := hf.1.1; omega
  · have := hf.1.1; omega
  · have := hf.1.1; omega
  · have := hf.1.1; omega
  · have := hf.1.1; omega
  · rename_i r _
    cases r with
    | ok v => obtain ⟨failed, c, hh, hlen, -⟩ := hf; simp [hh]; omega
    | error e => exact hf.1.le

/-- With `0 ≤ maxRetries < 2147483647`, under any interleaving, every goroutine makes at most
`maxRetries + 1` iterations, and what it returns is the first success of its operation or, after
`maxRetries + 1` failures, the last error wrapped. -/
theorem executeWithRetry_returns_as_specified (cfg : Config) (made : Except GoError Unit)
    (actions : List Action) (h0 : 0 ≤ cfg.maxRetries) (h1 : cfg.maxRetries < 2147483647) :
    ∀ f ∈ (run cfg (System.start cfg made) actions).goroutines,
      f.history.length ≤ cfg.maxRetries.toNat + 1 ∧
        ∀ r, f.pc = .done r → Returned cfg.maxRetries.toNat f.history r := by
  intro f hf
  have hc := run_frames_induction cfg (Frame.Consistent cfg.maxRetries)
    (Frame.consistent_start _ h0) (fun _ _ hf hm => hm.consistent h0 h1 hf) actions _
    (by simp [System.start]) f hf
  refine ⟨hc.length_le h0, fun r hr => ?_⟩
  simpa only [Frame.Consistent, hr] using hc

def noRetries : Config := { maxRetries := 0 }

def failingCall : List Action := .call :: List.replicate 6 (.step 0 (.ok ()) (.error .eof))

theorem executeWithRetry_returns_as_specified_failingCall :
    (0 : Int) ≤ noRetries.maxRetries ∧ noRetries.maxRetries < 2147483647 ∧
      ∀ f ∈ (run noRetries (System.start noRetries (.ok ())) failingCall).goroutines,
        f.history.length ≤ noRetries.maxRetries.toNat + 1 ∧
          ∀ r, f.pc = .done r → Returned noRetries.maxRetries.toNat f.history r :=
  ⟨by decide, by decide,
    executeWithRetry_returns_as_specified noRetries (.ok ()) failingCall (by decide) (by decide)⟩

/-- At most how many more steps a goroutine takes before it returns, with `maxRetries = n`: five
for each iteration left (`getClient` in two sections, the operation, the invalidation, the loop
condition), and one for the last loop condition. -/
def Frame.budget (n : Int) (f : Frame) : Nat :=
  match f.pc with
  | .loop => 5 * (n + 1 - f.i).toNat + 1
  | .getClientFast => 5 * (n + 1 - f.i).toNat
  | .getClientSlow => 5 * (n + 1 - f.i).toNat - 1
  | .attempt _ => 5 * (n + 1 - f.i).toNat - 2
  | .invalidate _ => 5 * (n + 1 - f.i).toNat - 3
  | .done _ => 0

theorem Moves.budget_le {n : Int} (h0 : 0 ≤ n) (h1 : n < 2147483647) {f f' : Frame}
    (hf : f.Consistent n) (hm : Moves n f f') : f'.budget n ≤ f.budget n - 1 := by
  cases hm with
  | enter h hle =>
      simp only [Frame.Consistent, h] at hf
      simp only [Frame.budget, h]; omega
  | exit h hgt => simp [Frame.budget]
  | noClient e h =>
      obtain ⟨hc, hle⟩ : Counted f.history f.lastErr f.i ∧ f.i ≤ n := by
        rcases h with h | h <;> simpa only [Frame.Consistent, h] using hf
      have := hc.nonneg
      have hw : wrapInt64 (f.i + 1) = f.i + 1 := wrapInt64_of_lt (by omega) (by omega)
      rcases h with h | h <;> simp only [Frame.budget, Frame.retry, h, hw] <;> omega
  | gotClient c h =>
      obtain ⟨-, hle⟩ : Counted f.history f.lastErr f.i ∧ f.i ≤ n := by
        rcases h with h | h <;> simpa only [Frame.Consistent, h] using hf
      rcases h with h | h <;> simp only [Frame.budget, h] <;> omega
  | toSlow h =>
      simp only [Frame.Consistent, h] at hf
      simp only [Frame.budget, h]; omega
  | succeeded c v h => simp [Frame.budget]
  | failed c e h =>
      simp only [Frame.Consistent, h] at hf
      simp only [Frame.budget, h]; omega
  | next c h =>
      simp only [Frame.Consistent, h] at hf
      have := hf.1.nonneg
      have hi : f.i ≠ 2147483647 := by omega
      have hw : wrapInt64 (f.i + 1) = f.i + 1 := wrapInt64_of_lt (by omega) (by omega)
      simp only [Frame.budget, h, hi, if_false, hw]; omega
  | stay r h => simp [Frame.budget, h]

theorem Frame.Consistent.done_of_budget {n : Int} {f : Frame} (hf : f.Consistent n)
    (hb : f.budget n = 0) : ∃ r, f.pc = .done r := by
  cases hpc : f.pc with
  | done r => exact ⟨r, rfl⟩
  | loop => simp [Frame.budget, hpc] at hb
  | _ => simp only [Frame.Consistent, Frame.budget, hpc] at hf hb; have := hf.2; omega

theorem run_goroutine (cfg : Config) (h0 : 0 ≤ cfg.maxRetries)
    (h1 : cfg.maxRetries < 2147483647) (g : Nat) :
    ∀ (actions : List Action) (sys : System) (f : Frame),
      sys.goroutines[g]? = some f → f.Consistent cfg.maxRetries →
      ∃ f', (run cfg sys actions).goroutines[g]? = some f' ∧ f'.Consistent cfg.maxRetries ∧
        f'.budget cfg.maxRetries ≤ f.budget cfg.maxRetries - actions.countP (·.isStepOf g)
  | [], _, f, hf, hc => ⟨f, hf, hc, by simp⟩
  | a :: actions, sys, f, hf, hc => by
      obtain ⟨f₁, hf₁, hm⟩ := step_goroutine cfg hf a
      have step : f₁.Consistent cfg.maxRetries ∧
          f₁.budget cfg.maxRetries ≤
            f.budget cfg.maxRetries - if a.isStepOf g then 1 else 0 := by
        split at hm
        · exact ⟨hm.consistent h0 h1 hc, by simpa [*] using hm.budget_le h0 h1 hc⟩
        · subst hm; simp [*]
      obtain ⟨f', hf', hc', hb⟩ := run_goroutine cfg h0 h1 g actions _ f₁ hf₁ step.1
      refine ⟨f', hf', hc', ?_⟩
      rw [List.countP_cons]
      have := step.2
      omega

/-- With `0 ≤ maxRetries < 2147483647`, a goroutine has returned, as `Returned` says, once it has
taken `5 * maxRetries + 6` steps since its call, whatever the other goroutines did meanwhile. -/
theorem executeWithRetry_returns_within (cfg : Config) (made : Except GoError Unit)
    (pre post : List Action) (g : Nat) (h0 : 0 ≤ cfg.maxRetries)
    (h1 : cfg.maxRetries < 2147483647)
    (hg : (run cfg (System.start cfg made) pre).goroutines.length = g)
    (hsteps : 5 * cfg.maxRetries.toNat + 6 ≤ post.countP (·.isStepOf g)) :
    ∃ f r, (run cfg (System.start cfg made) (pre ++ .call :: post)).goroutines[g]? = some f ∧
      f.pc = .done r ∧ Returned cfg.maxRetries.toNat f.history r := by
  rw [run_append]
  obtain ⟨f, hf, hc, hb⟩ := run_goroutine cfg h0 h1 g post
    ((run cfg (System.start cfg made) pre).step cfg .call) Frame.start
    (by simp [System.step, ← hg]) (Frame.consistent_start _ h0)
  have hstart : Frame.start.budget cfg.maxRetries = 5 * cfg.maxRetries.toNat + 6 := by
    simp only [Frame.budget, Frame.start]; omega
  have : f.budget cfg.maxRetries = 0 := by omega
  obtain ⟨r, hr⟩ := hc.done_of_budget this
  exact ⟨f, r, hf, hr, by simpa only [Frame.Consistent, hr] using hc⟩

theorem executeWithRetry_returns_within_failingCall :
    (0 : Int) ≤ noRetries.maxRetries ∧ noRetries.maxRetries < 2147483647 ∧
      (run noRetries (System.start noRetries (.ok ())) []).goroutines.length = 0 ∧
      5 * noRetries.maxRetries.toNat + 6 ≤
        (List.replicate 6 (Action.step 0 (.ok ()) (.error .eof))).countP (·.isStepOf 0) ∧
      ∃ f r,
        (run noRetries (System.start noRetries (.ok ())) ([] ++ failingCall)).goroutines[0]? =
          some f ∧ f.pc = .done r ∧ Returned noRetries.maxRetries.toNat f.history r :=
  ⟨by decide, by decide, rfl, by decide,
    executeWithRetry_returns_within noRetries (.ok ()) [] _ 0 (by decide) (by decide) rfl
      (by decide)⟩

/-- Every iteration ended in an operation that failed. -/
def OperationsFailed (history : List Attempt) : Prop :=
  ∀ a ∈ history, ∃ c e, a = .ran c (.error e)

/-- While only operations failed, the goroutine has not returned, and with `n ≥ 0` the overflow
guard keeps `i` in `[0, 2147483647]`. -/
def Frame.Looping (n : Int) (f : Frame) : Prop :=
  OperationsFailed f.history →
    (n < 0 ∨ 0 ≤ f.i ∧ f.i ≤ 2147483647) ∧ ∀ r, f.pc ≠ .done r

theorem Moves.looping {n : Int} (hn : n < 0 ∨ 2147483647 ≤ n) {f f' : Frame}
    (hf : f.Looping n) (hm : Moves n f f') : f'.Looping n := by
  intro hops
  cases hm with
  | enter h hle => exact ⟨(hf hops).1, by simp⟩
  | exit h hgt => exact absurd (by have := (hf hops).1; omega) hgt
  | noClient e h =>
      obtain ⟨c, e', he⟩ := hops _ (List.mem_append_right _ (List.mem_singleton_self _))
      cases he
  | gotClient c h => exact ⟨(hf hops).1, by simp⟩
  | toSlow h => exact ⟨(hf hops).1, by simp⟩
  | succeeded c v h =>
      obtain ⟨c, e', he⟩ := hops _ (List.mem_append_right _ (List.mem_singleton_self _))
      cases he
  | failed c e h =>
      have := hf fun a ha => hops a (List.mem_append_left _ ha)
      exact ⟨this.1, by simp⟩
  | next c h =>
      refine ⟨?_, by simp⟩
      rcases (hf hops).1 with hneg | ⟨hlo, hhi⟩
      · exact .inl hneg
      · refine .inr ?_
        dsimp only
        split
        · simp [wrapInt64]
        · rw [wrapInt64_of_lt (by omega) (by omega)]; omega
  | stay r h => exact absurd h ((hf hops).2 r)

/-- With `maxRetries < 0`, or `maxRetries ≥ 2147483647` where the overflow guard sets `i` back to
0, a goroutine whose every iteration ended in a failed operation has not returned, however many
it has made. -/
theorem failing_operations_retry_forever (cfg : Config) (made : Except GoError Unit)
    (actions : List Action) (hn : cfg.maxRetries < 0 ∨ 2147483647 ≤ cfg.maxRetries) :
    ∀ f ∈ (run cfg (System.start cfg made) actions).goroutines,
      OperationsFailed f.history → ∀ r, f.pc ≠ .done r :=
  fun f hf hops =>
  (run_frames_induction cfg (Frame.Looping cfg.maxRetries)
    (fun _ => ⟨.inr ⟨le_refl _, by decide⟩, by simp [Frame.start]⟩)
    (fun _ _ hf hm => hm.looping hn hf) actions _ (by simp [System.start]) f hf hops).2

def maxInt32Retries : Config := { maxRetries := 2147483647 }

theorem failing_operations_retry_forever_maxInt32 :
    (maxInt32Retries.maxRetries < 0 ∨ 2147483647 ≤ maxInt32Retries.maxRetries) ∧
      ∀ f ∈
        (run maxInt32Retries (System.start maxInt32Retries (.ok ())) failingCall).goroutines,
        OperationsFailed f.history → ∀ r, f.pc ≠ .done r :=
  ⟨.inr (le_refl _), failing_operations_retry_forever _ _ failingCall (.inr (le_refl _))⟩

/-- A goroutine that has returned returned the success of its last operation. -/
def Frame.Succeeded (f : Frame) : Prop :=
  ∀ r, f.pc = .done r → ∃ c v, r = .ok v ∧ f.history.getLast? = some (.ran c (.ok v))

/-- With `maxRetries < 0` every goroutine that returns returns the success of its last
operation: it never returns an error. -/
theorem negative_maxRetries_never_fail (cfg : Config) (made : Except GoError Unit)
    (actions : List Action) (hn : cfg.maxRetries < 0) :
    ∀ f ∈ (run cfg (System.start cfg made) actions).goroutines, f.Succeeded :=
  run_frames_induction cfg Frame.Succeeded (fun _ h => by simp [Frame.start] at h)
    (fun f f' hf hm => by
      cases hm with
      | exit h hgt => exact absurd (.inl hn) hgt
      | succeeded c v h => intro r hr; cases hr; exact ⟨c, v, rfl, by simp⟩
      | stay r h => exact hf
      | _ => simp [Frame.Succeeded, Frame.retry]) actions _ (by simp [System.start])

def infiniteRetries : Config := { maxRetries := -1 }

theorem negative_maxRetries_never_fail_infinite :
    infiniteRetries.maxRetries < 0 ∧
      ∀ f ∈
        (run infiniteRetries (System.start infiniteRetries (.ok ())) failingCall).goroutines,
        f.Succeeded :=
  ⟨by decide, negative_maxRetries_never_fail _ _ failingCall (by decide)⟩

/-- A goroutine refused by a closed client: every iteration failed in `getClient` with "client is
closed", and if it returned, it returned that error wrapped. -/
def Frame.Refused (f : Frame) : Prop :=
  (∀ a ∈ f.history, a = .noClient clientIsClosed) ∧ (f.lastErr = none → f.i = 0) ∧
    (f.lastErr = none ∨ f.lastErr = some clientIsClosed) ∧
    (f.pc = .loop ∨ f.pc = .getClientFast ∨
      f.pc = .done (.error (maxRetriesExceeded (some clientIsClosed))))

theorem Frame.Refused.stepFrame {f : Frame} (hf : f.Refused) (cfg : Config)
    (made : Except GoError Unit) (res : Except GoError Bytes) {s : Shared}
    (hs : s.closed = true) : (stepFrame cfg made res f s).1.Refused := by
  obtain ⟨hall, hi, hlast, hpc | hpc | hpc⟩ := hf
  · simp only [GoeipProofs.Reconnect.stepFrame, hpc]
    split
    · exact ⟨hall, hi, hlast, by simp⟩
    · refine ⟨hall, hi, hlast, .inr (.inr ?_)⟩
      rcases hlast with hlast | hlast
      · have := hi hlast; omega
      · simp [hlast]
  · simp only [GoeipProofs.Reconnect.stepFrame, hpc, getClientFast, hs, if_true]
    refine ⟨fun a ha => ?_, by simp [Frame.retry], by simp [Frame.retry], by simp [Frame.retry]⟩
    rcases List.mem_append.mp ha with ha | ha
    exacts [hall a ha, List.mem_singleton.mp ha]
  · simp only [GoeipProofs.Reconnect.stepFrame, hpc]
    exact ⟨hall, hi, hlast, .inr (.inr hpc)⟩

theorem Frame.refused_start : Frame.start.Refused :=
  ⟨by simp [Frame.start], fun _ => rfl, .inl rfl, .inl rfl⟩

/-- The system is closed, and every goroutine from the `L`-th on has been refused. -/
def ClosedFrom (L : Nat) (sys : System) : Prop :=
  sys.shared.closed = true ∧ ∀ g f, L ≤ g → sys.goroutines[g]? = some f → f.Refused

theorem ClosedFrom.step {L : Nat} {sys : System} (h : ClosedFrom L sys) (cfg : Config)
    (a : Action) : ClosedFrom L (sys.step cfg a) := by
  obtain ⟨hs, hfr⟩ := h
  cases a with
  | call =>
      refine ⟨hs, fun g f hg hf => ?_⟩
      simp only [System.step, List.getElem?_append] at hf
      split at hf
      · exact hfr g f hg hf
      · obtain ⟨hlt, rfl⟩ := List.getElem?_eq_some_iff.mp hf
        simpa using Frame.refused_start
  | step g' made res =>
      simp only [System.step]
      split
      · rename_i f₀ hf₀
        refine ⟨?_, fun g f hg hf => ?_⟩
        · rcases stepFrame_shared cfg made res f₀ sys.shared with e | e | ⟨c, e⟩ <;> rw [e]
          · exact hs
          · simp [getClientSlow_shared, hs]
          · unfold invalidate; split <;> exact hs
        · by_cases hgg : g' = g
          · subst hgg
            simp only [List.getElem?_set_self (List.getElem?_eq_some_iff.mp hf₀).1,
              Option.some.injEq] at hf
            exact hf ▸ (hfr g' f₀ hg hf₀).stepFrame cfg made res hs
          · exact hfr g f hg (by simpa [List.getElem?_set_ne hgg] using hf)
      · exact ⟨hs, hfr⟩
  | close e => exact ⟨close_closed e _, hfr⟩

/-- A goroutine that calls after `Close` never gets a client: each of its iterations fails with
"client is closed", and that error, wrapped, is what it returns. -/
theorem calls_after_close_are_refused (cfg : Config) (made : Except GoError Unit)
    (pre post : List Action) (h : (run cfg (System.start cfg made) pre).shared.closed = true)
    (g : Nat) (hg : (run cfg (System.start cfg made) pre).goroutines.length ≤ g) (f : Frame)
    (hf : (run cfg (System.start cfg made) (pre ++ post)).goroutines[g]? = some f) :
    (∀ a ∈ f.history, a = .noClient clientIsClosed) ∧ (∀ c, f.pc ≠ .attempt c) ∧
      ∀ r, f.pc = .done r → r = .error (.wrap "max retries exceeded: %w" clientIsClosed) := by
  rw [run_append] at hf
  have hc : ∀ (actions : List Action) (sys : System), ClosedFrom
      (run cfg (System.start cfg made) pre).goroutines.length sys →
      ClosedFrom (run cfg (System.start cfg made) pre).goroutines.length (run cfg sys actions) :=
    fun actions => actions.rec (fun _ h => h) fun a _ ih sys h => ih _ (h.step cfg a)
  obtain ⟨hall, -, -, hpc⟩ := (hc post _ ⟨h, fun g' f' hg' hf' => absurd
    (List.getElem?_eq_some_iff.mp hf').1 (by omega)⟩).2 g f hg hf
  refine ⟨hall, fun c => ?_, fun r hr => ?_⟩
  · rcases hpc with hpc | hpc | hpc <;> simp [hpc]
  · rcases hpc with hpc | hpc | hpc <;> rw [hpc] at hr <;> cases hr
    rfl

theorem calls_after_close_are_refused_lateCall :
    (run {} (System.start {} (.ok ())) [.close (.ok ())]).shared.closed = true ∧
      (run {} (System.start {} (.ok ())) [.close (.ok ())]).goroutines.length ≤ 0 ∧
      (run {} (System.start {} (.ok ())) ([.close (.ok ())] ++ lateCall)).goroutines[0]? =
        some ⟨1, some clientIsClosed, .loop, [.noClient clientIsClosed]⟩ ∧
      (∀ a ∈ [Attempt.noClient clientIsClosed], a = .noClient clientIsClosed) ∧
      (∀ c, Pc.loop ≠ .attempt c) ∧
      ∀ r, Pc.loop = .done r → r = .error (.wrap "max retries exceeded: %w" clientIsClosed) :=
  ⟨rfl, le_refl _, rfl,
    calls_after_close_are_refused {} (.ok ()) [.close (.ok ())] lateCall rfl 0 (le_refl _) _ rfl⟩

end GoeipProofs.Reconnect
