import DoocsBackend.Backend.State
import DoocsBackend.Library.Each
import DoocsBackend.Library.Runs
import DoocsBackend.Zmq.Listener

/-! # The subscription manager

Threads call the functions of the manager and of the backends which use it. Every lock
region and every access outside of one is a step; between two steps of a thread any other
thread may take steps of its own. Regions of `listeners_mutex` are single steps, only the
loops over the map and a thread which waits for the callback keep `subscriptionMap_mutex`
for several steps.
-/
namespace DoocsBackend.Zmq
open Backend (BackendState)

/-- `ZMQSubscriptionManager::Subscription`. -/
structure Subscription (α : Type) where
  listeners : List α := []
  /-- Whether the subscription has been made with DOOCS. -/
  active : Bool := false
  /-- Whether the callback has been called. -/
  started : Bool := false
  gotInitialValue : Bool := false

/-- The path and the backend of every accessor, and how their queues behave. -/
structure Layout (α β : Type) where
  path : α → Text
  backend : α → β
  queue : FutureQueue

/-- The last call of the manager for an accessor, with its outcome. -/
inductive LastCall where
  | never | subscribed | subscribeFailed | unsubscribed
  deriving DecidableEq, Repr

/-- Whether the accessor is in the list of its path if nothing goes wrong. -/
def LastCall.isEntered : LastCall → Bool
  | .subscribed | .subscribeFailed => true
  | .never | .unsubscribed => false

/-- Where `pollInitialValue` returns to: to the loop of `activateAllListeners`, with the paths
still to be visited, or out of `subscribe`. -/
abbrev Return (β : Type) := Option (β × List Text)

/-- What a thread does next. -/
inductive Pc (α β : Type) where
  | idle
  | deactivateSubscription (p : Text)
  /-- Waits for `startedCv`. -/
  | awaitStarted (p : Text)
  | detach (p : Text)
  | eraseSubscription (p : Text)
  | exchangeAsyncRead (b : β)
  | activateAllListeners (b : β)
  | activateListeners (b : β) (todo : List Text)
  | pollInitialValue (p : Text) (accessors : List α) (ret : Return β)
  | pushInitialValue (p : Text) (reply : Except Text ℕ) (accessors : List α) (ret : Return β)
  /-- `pushError` has found the first accessor active. -/
  | clearIsActiveZMQ (p text : Text) (a : α) (accessors : List α) (ret : Return β)
  | pushException (p text : Text) (a : α) (accessors : List α) (ret : Return β)
  | clearOpened (b : β)
  | clearAsyncRead (b : β)
  | clearLastFailedAddress (b : β)
  | setExceptionImpl (b : β)
  | pushExceptions (b : β) (message : Text)
  | pushExceptionsAt (b : β) (message : Text) (todo : List Text)
  /-- The error loop of the callback: the listener at position `k` of `n` has been served. -/
  | informRuntimeError (p : Text) (text : Text) (k n : ℕ)
  | errorLoop (p : Text) (text : Text) (k n : ℕ)

inductive Call (α β : Type) where
  | subscribe (a : α) (attachFails : Bool)
  | unsubscribe (a : α)
  | activateAsyncRead (b : β)
  | close (b : β)
  | openBackend (b : β) (rc : ReturnCode) (text : Text)
  | setException (b : β) (message : Text)
  /-- `zmq_callback` with data. -/
  | data (p : Text) (value : ℕ)
  /-- `zmq_callback` with an error. -/
  | error (p : Text) (text : Text)

inductive Event (τ α β : Type) where
  | call (t : τ) (c : Call α β)
  /-- The next step of a call; `rpcError` is the text of a communication error if the step is an
  RPC which fails. -/
  | next (t : τ) (rpcError : Option Text)
  /-- The server publishes the next value of a property. -/
  | publish (p : Text)
  | read (a : α)

namespace Event
variable {τ α β : Type}

/-- The thread which goes on with its call. -/
def thread? : Event τ α β → Option τ
  | .next t _ => some t
  | _ => none

/-- The accessor which subscribes. -/
def subscriber? : Event τ α β → Option α
  | .call _ (.subscribe a _) => some a
  | _ => none

/-- The value handed to the callback, with its path. -/
def delivery? : Event τ α β → Option (Text × ℕ)
  | .call _ (.data p value) => some (p, value)
  | _ => none

end Event

structure State (τ α β : Type) where
  subscriptionMap : AList fun _ : Text => Subscription α
  /-- The thread which keeps `subscriptionMap_mutex` from one of its steps to the next. -/
  mapOwner : Option τ
  pc : τ → Pc α β
  listener : α → Listener
  backend : β → BackendState
  /-- The newest version number created so far. -/
  created : ℕ
  dmsgStartCalled : Bool
  /-- The paths for which DOOCS calls the callback. -/
  attached : Text → Bool
  /-- How often each property has been published, and the value last delivered for it. -/
  published : Text → ℕ
  delivered : Text → ℕ
  lastCall : α → LastCall
  /-- Whether the C++ standard has ceased to define the behaviour. -/
  undefined : Bool

namespace State
variable {τ α β : Type} [DecidableEq τ] [DecidableEq α] [DecidableEq β]

/-- Nothing has been called yet. -/
def initial (backend : β → BackendState) : State τ α β where
  subscriptionMap := ∅
  mapOwner := none
  pc _ := .idle
  listener _ := {}
  backend := backend
  created := 0
  dmsgStartCalled := false
  attached _ := false
  published _ := 0
  delivered _ := 0
  lastCall _ := .never
  undefined := false

variable (L : Layout α β) (s : State τ α β)

def listenersAt (p : Text) : List α :=
  ((s.subscriptionMap.lookup p).map Subscription.listeners).getD []

@[simps]
def goto (t : τ) (pc : Pc α β) : State τ α β := { s with pc := Function.update s.pc t pc }

@[simps]
def setSubscription (p : Text) (e : Subscription α) : State τ α β :=
  { s with subscriptionMap := s.subscriptionMap.insert p e }

@[simps]
def setBackend (b : β) (x : BackendState) : State τ α β :=
  { s with backend := Function.update s.backend b x }

@[simps]
def setLastCall (a : α) (c : LastCall) : State τ α β :=
  { s with lastCall := Function.update s.lastCall a c }

/-- Do the same to all listeners of a list. -/
@[simps]
def eachListener (as : List α) (f : Listener → Listener) : State τ α β :=
  { s with listener := Each.each f as s.listener }

def ownedBy (b : β) (as : List α) : List α := as.filter fun a => decide (L.backend a = b)

/-- The listeners a thread is about to activate. -/
def visited : Pc α β → List α
  | .activateListeners b (p :: _) => ownedBy L b (s.listenersAt p)
  | _ => []

/-- The entry of a path, made if there is none. -/
def entry (p : Text) : Subscription α := (s.subscriptionMap.lookup p).getD {}

/-- The state after the listener has been entered into the list of its path. -/
def entered (a : α) (active : Bool) : State τ α β :=
  { s.setSubscription (L.path a)
      { s.entry (L.path a) with
        listeners := (s.entry (L.path a)).listeners ++ [a], active := active } with
    listener := Function.update s.listener a
      ((s.listener a).subscribed (s.backend (L.backend a)).asyncReadActivated
        (s.entry (L.path a)).gotInitialValue) }

/-- Every accessor subscribes once, in its constructor. A new subscription cannot have seen its
initial value yet, so there is nothing to poll. -/
def subscribe (t : τ) (a : α) (attachFails : Bool) : Option (State τ α β) :=
  if s.mapOwner.isSome ∨ s.lastCall a = .subscribed ∨ s.lastCall a = .subscribeFailed then none
  else
    match s.subscriptionMap.lookup (L.path a) with
    | none =>
      if attachFails then some ((s.entered L a false).setLastCall a .subscribeFailed)
      else some
        (({ s.entered L a true with
            attached := Function.update s.attached (L.path a) true
            dmsgStartCalled := true }.setLastCall a .subscribed).goto t .idle)
    | some e => some
      (((s.entered L a e.active).setLastCall a .subscribed).goto t
        (if ((s.listener a).subscribed (s.backend (L.backend a)).asyncReadActivated
            e.gotInitialValue).isActiveZMQ ∧ e.gotInitialValue
          then .pollInitialValue (L.path a) [a] none else .idle))

/-- `erase(remove(..))` with one argument: of the elements left over behind the kept ones, only
the first is erased. -/
def eraseRemoved (a : α) (xs : List α) : List α :=
  let kept := xs.filter fun x => decide (x ≠ a)
  kept ++ xs.drop (kept.length + 1)

def unsubscribe (t : τ) (a : α) : Option (State τ α β) :=
  if s.mapOwner.isSome then none
  else
    match s.subscriptionMap.lookup (L.path a) with
    | none => some (s.setLastCall a .unsubscribed)
    | some e =>
      if a ∉ e.listeners then some (s.setLastCall a .unsubscribed)
      else
        let e := { e with listeners := eraseRemoved a e.listeners }
        some (((s.setSubscription (L.path a) e).setLastCall a .unsubscribed).goto t
          (if e.listeners = [] then .deactivateSubscription (L.path a) else .idle))

/-- The paths in the map, in its order. -/
def paths : List Text := s.subscriptionMap.keys.insertionSort (· ≤ ·)

/-- All listeners in the map which belong to the backend. -/
def allListeners (b : β) : List α :=
  ownedBy L b (s.subscriptionMap.keys.flatMap s.listenersAt)

/-- One iteration of the error loop of the callback, inside its lock. -/
def serveError (t : τ) (p text : Text) (k n : ℕ) : State τ α β :=
  if k < n then
    match (s.listenersAt p)[k]? with
    | some a => (s.eachListener [a] (Listener.pushError L.queue
        ("ZeroMQ connection interrupted: ".toList ++ text))).goto t (.informRuntimeError p text k n)
    | none => { s with undefined := true }
  else s.goto t .idle

/-- The first step of a call. -/
def call (t : τ) : Call α β → Option (State τ α β)
  | .subscribe a attachFails => s.subscribe L t a attachFails
  | .unsubscribe a => s.unsubscribe L t a
  | .activateAsyncRead b =>
    some (if (s.backend b).isFunctional then s.goto t (.exchangeAsyncRead b) else s)
  | .close b =>
    if s.mapOwner.isSome then none
    else some ((s.eachListener (s.allListeners L b) Listener.deactivate).goto t (.clearOpened b))
  | .openBackend b rc text =>
    let result := (s.backend b).openBackend rc text (s.created + 1)
    let s := s.setBackend b result.1
    match result.2 with
    | some _ => some (s.goto t (.setExceptionImpl b))
    | none => some { s with created := s.created + 1 }
  | .setException b message =>
    some ((s.setBackend b ((s.backend b).setException message)).goto t (.setExceptionImpl b))
  | .data p value =>
    if s.attached p ∧ s.delivered p ≤ value ∧ value ≤ s.published p then
      match s.subscriptionMap.lookup p with
      | none => some { s with undefined := true }
      | some e => some
        { (s.setSubscription p { e with started := true, gotInitialValue := true }).eachListener
            e.listeners (Listener.deliver L.queue value) with
          delivered := Function.update s.delivered p value }
    else none
  | .error p text =>
    if s.attached p then
      match s.subscriptionMap.lookup p with
      | none => some { s with undefined := true }
      | some e => some
        ((s.setSubscription p { e with started := true, gotInitialValue := false }).serveError L t p
          text 0 e.listeners.length)
    else none

/-- Where a thread continues after `pollInitialValue`. -/
def resume : Return β → Pc α β
  | none => .idle
  | some (b, todo) => .activateListeners b todo

/-- One iteration of `activateAllListeners`. -/
def activateListeners (t : τ) (b : β) (p : Text) (todo : List Text) : State τ α β :=
  match s.subscriptionMap.lookup p with
  | none => s.goto t (.activateListeners b todo)
  | some e =>
    (s.eachListener (ownedBy L b e.listeners) (Listener.activate e.gotInitialValue)).goto t
      (if e.gotInitialValue then .pollInitialValue p (ownedBy L b e.listeners) (some (b, todo))
        else .activateListeners b todo)

/-- The message `setExceptionImpl` passes on. -/
def exceptionMessage (x : BackendState) : Text :=
  if x.hasActiveException then x.activeExceptionMessage
  else "Unknown exception reported by another accessor".toList

/-- The step of a thread which has arrived at the given place. -/
def advance (t : τ) (rpcError : Option Text) : Pc α β → Option (State τ α β)
  | .idle => none
  | .deactivateSubscription p =>
    let e := s.entry p
    if s.mapOwner.isSome then none
    else if e.active then
      if e.started then
        some ((s.setSubscription p { e with active := false, started := false }).goto t (.detach p))
      else some ({ s.setSubscription p e with mapOwner := some t }.goto t (.awaitStarted p))
    else some ((s.setSubscription p e).goto t (.eraseSubscription p))
  | .awaitStarted p =>
    -- only `listeners_mutex` is given up while waiting
    let e := s.entry p
    if e.started then
      some ({ s.setSubscription p { e with active := false, started := false } with
        mapOwner := none }.goto t (.detach p))
    else none
  | .detach p =>
    some ({ s with attached := Function.update s.attached p false }.goto t (.eraseSubscription p))
  | .eraseSubscription p =>
    if s.mapOwner.isSome then none
    else if (s.subscriptionMap.lookup p).isNone then some { s with undefined := true }
    else some ({ s with subscriptionMap := s.subscriptionMap.erase p }.goto t .idle)
  | .exchangeAsyncRead b =>
    some (if (s.backend b).asyncReadActivated then s.goto t .idle
      else (s.setBackend b { s.backend b with asyncReadActivated := true }).goto t
        (.activateAllListeners b))
  | .activateAllListeners b =>
    if s.mapOwner.isSome then none
    else some ({ s with mapOwner := some t }.goto t (.activateListeners b s.paths))
  | .activateListeners _ [] => some ({ s with mapOwner := none }.goto t .idle)
  | .activateListeners b (p :: todo) => some (s.activateListeners L t b p todo)
  | .pollInitialValue p accessors ret =>
    some (s.goto t (.pushInitialValue p
      (match rpcError with | some text => .error text | none => .ok (s.published p)) accessors ret))
  | .pushInitialValue _ _ [] ret => some (s.goto t (resume ret))
  | .pushInitialValue p (.ok value) (a :: as) ret =>
    some ((s.eachListener [a] (Listener.pushPolled L.queue value)).goto t
      (.pushInitialValue p (.ok value) as ret))
  | .pushInitialValue p (.error text) (a :: as) ret =>
    some (s.goto t (if (s.listener a).isActiveZMQ then .clearIsActiveZMQ p text a as ret
      else .pushInitialValue p (.error text) as ret))
  | .clearIsActiveZMQ p text a as ret =>
    some ((s.eachListener [a] Listener.deactivate).goto t (.pushException p text a as ret))
  | .pushException p text a as ret =>
    some ((s.eachListener [a] (Listener.pushException L.queue
      ("ZeroMQ connection for ".toList ++ p ++ " interrupted: ".toList ++ text))).goto t
        (.pushInitialValue p (.error text) as ret))
  | .clearOpened b =>
    some ((s.setBackend b { s.backend b with opened := false }).goto t (.clearAsyncRead b))
  | .clearAsyncRead b =>
    some ((s.setBackend b { s.backend b with asyncReadActivated := false }).goto t
      (.clearLastFailedAddress b))
  | .clearLastFailedAddress b =>
    some ((s.setBackend b { s.backend b with lastFailedAddress := [] }).goto t .idle)
  | .setExceptionImpl b =>
    some ((s.setBackend b { s.backend b with asyncReadActivated := false }).goto t
      (.pushExceptions b (exceptionMessage (s.backend b))))
  | .pushExceptions b message =>
    if s.mapOwner.isSome then none
    else some ({ s with mapOwner := some t }.goto t
      (.pushExceptionsAt b message s.paths))
  | .pushExceptionsAt _ _ [] => some ({ s with mapOwner := none }.goto t .idle)
  | .pushExceptionsAt b message (p :: todo) =>
    some ((s.eachListener (ownedBy L b (s.listenersAt p)) (Listener.pushError L.queue message)).goto t
      (.pushExceptionsAt b message todo))
  | .informRuntimeError p text k n =>
    -- the vector is accessed again, after its lock has been given up
    match (s.listenersAt p)[k]? with
    | some a => some ((s.setBackend (L.backend a)
        ((s.backend (L.backend a)).informRuntimeError (L.path a))).goto t (.errorLoop p text (k + 1) n))
    | none => some { s with undefined := true }
  | .errorLoop p text k n => some (s.serveError L t p text k n)

def step : Event τ α β → Option (State τ α β)
  | .call t c =>
    match s.undefined, s.pc t with
    | false, .idle => s.call L t c
    | _, _ => none
  | .next t rpcError => if s.undefined then none else s.advance L t rpcError (s.pc t)
  | .publish p => some { s with published := Function.update s.published p (s.published p + 1) }
  | .read a => some (s.eachListener [a] (Listener.read L.queue))

end State

end DoocsBackend.Zmq
