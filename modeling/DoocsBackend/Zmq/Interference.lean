import DoocsBackend.Library.Noninterference
import DoocsBackend.Zmq.Reports

/-! # Backends which share subscriptions

The three functions of the manager a backend calls for its listeners, each as a whole, next to
the callbacks, which serve the listeners of all backends at once.
-/
namespace DoocsBackend.Zmq
open Noninterference (Unwinding)

section Calls
variable {τ α β : Type} [DecidableEq α] [DecidableEq β] (O : Objects α β)

/-- One iteration of `activateAllListeners`, with the answer to the RPC of the initial value. -/
def activateListenersAt (b : β) (reply : Text → Except Text ℕ) (s : State τ α β) (p : Text) :
    State τ α β :=
  match s.subscriptionMap.lookup p with
  | none => s
  | some e =>
    let activated := s.eachListener (State.ownedBy O.layout b e.listeners)
      (Listener.activate e.gotInitialValue)
    if e.gotInitialValue then
      (pollInitialValue O p (State.ownedBy O.layout b e.listeners) (reply p) activated).1
    else activated

def activateAllListeners (b : β) (reply : Text → Except Text ℕ) (s : State τ α β) : State τ α β :=
  s.paths.foldl (activateListenersAt O b reply) s

def deactivateAllListeners (b : β) (s : State τ α β) : State τ α β :=
  s.eachListener (s.allListeners O.layout b) Listener.deactivate

/-- One iteration of `deactivateAllListenersAndPushException`. -/
def pushExceptionAt (b : β) (message : Text) (s : State τ α β) (p : Text) : State τ α β :=
  s.eachListener (State.ownedBy O.layout b (s.listenersAt p)) (Listener.pushError O.queue message)

def deactivateAllListenersAndPushException (b : β) (message : Text) (s : State τ α β) :
    State τ α β :=
  s.paths.foldl (pushExceptionAt O b message) s

/-- What a backend calls for its listeners. -/
inductive ManagerCall where
  /-- With the values the server has for the properties, or its errors. -/
  | activateAllListeners (reply : Text → Except Text ℕ)
  | deactivateAllListeners
  | deactivateAllListenersAndPushException (message : Text)

def ManagerCall.run (b : β) : ManagerCall → State τ α β → State τ α β
  | .activateAllListeners reply => Zmq.activateAllListeners O b reply
  | .deactivateAllListeners => Zmq.deactivateAllListeners O b
  | .deactivateAllListenersAndPushException message =>
    Zmq.deactivateAllListenersAndPushException O b message

inductive SharedEvent (α β : Type) where
  | call (b : β) (c : ManagerCall)
  /-- `zmq_callback` with data or with an error. -/
  | callback (p : Text) (data : Except Text ℕ)
  | read (a : α)

/-- The backend which calls. -/
def SharedEvent.caller? : SharedEvent α β → Option β
  | .call b _ => some b
  | _ => none

def SharedEvent.run (s : State τ α β) : SharedEvent α β → State τ α β
  | .call b c => c.run O b s
  | .callback p data => (zmqCallback O p data s).1
  | .read a => s.eachListener [a] (Listener.read O.queue)

/-- Two backends, of which the first does not interfere with the second. -/
structure DoesNotInterfere (τ : Type) (A B : β) : Prop where
  unchanged : ∀ (c : ManagerCall) (s : State τ α β), (c.run O A s).subscriptionMap = s.subscriptionMap ∧
    ∀ a, O.backend a = B → (c.run O A s).listener a = s.listener a
  commute : ∀ (c d : ManagerCall) (s : State τ α β), d.run O B (c.run O A s) = c.run O A (d.run O B s)
  unnoticed : ∀ (es : List (SharedEvent α β)) (s : State τ α β) (a : α), O.backend a = B →
    (es.foldl (SharedEvent.run O) s).listener a =
      ((Unwinding.without SharedEvent.caller? A es).foldl (SharedEvent.run O) s).listener a

end Calls


section Views
variable {τ α β : Type} [DecidableEq α] [DecidableEq β] {O : Objects α β} {s s' s'' : State τ α β}
  {b b' : β}

/-! ## What a call changes -/

/-- Nothing but the listeners of one backend has changed. -/
structure OnlyListenersOf (O : Objects α β) (b : β) (s s' : State τ α β) : Prop where
  rest : s' = { s with listener := s'.listener }
  others : ∀ a, O.backend a ≠ b → s'.listener a = s.listener a

namespace OnlyListenersOf

section
omit [DecidableEq α] [DecidableEq β]

theorem refl : OnlyListenersOf O b s s := ⟨rfl, fun _ _ => rfl⟩

theorem rest_trans (h : OnlyListenersOf O b s s') (h' : OnlyListenersOf O b' s' s'') :
    s'' = { s with listener := s''.listener } := by
  have hlistener := congrArg (fun m : State τ α β => { m with listener := s''.listener }) h.rest
  exact h'.rest.trans hlistener

theorem trans (h : OnlyListenersOf O b s s') (h' : OnlyListenersOf O b s' s'') :
    OnlyListenersOf O b s s'' :=
  ⟨h.rest_trans h', fun a ha => (h'.others a ha).trans (h.others a ha)⟩

theorem subscriptionMap_eq (h : OnlyListenersOf O b s s') :
    s'.subscriptionMap = s.subscriptionMap := by rw [h.rest]

theorem backend_eq (h : OnlyListenersOf O b s s') : s'.backend = s.backend := by
  rw [h.rest]

theorem undefined_eq (h : OnlyListenersOf O b s s') : s'.undefined = s.undefined := by rw [h.rest]

theorem published_eq (h : OnlyListenersOf O b s s') : s'.published = s.published := by rw [h.rest]

end

omit [DecidableEq β] in
theorem eachListener {as : List α} {f : Listener → Listener} (h : ∀ a ∈ as, O.backend a = b) :
    OnlyListenersOf O b s (s.eachListener as f) :=
  ⟨rfl, fun a ha => Each.each_of_notMem fun hmem => ha (h a hmem)⟩

omit [DecidableEq α] [DecidableEq β] in
theorem foldl {γ : Type} {f : State τ α β → γ → State τ α β} {xs : List γ}
    (hf : ∀ s x, OnlyListenersOf O b s (f s x)) : OnlyListenersOf O b s (xs.foldl f s) := by
  induction xs generalizing s with
  | nil => exact refl
  | cons x xs ih => exact (hf s x).trans ih

omit [DecidableEq β] in
theorem pushErrors {message : Text} {as : List α} (h : ∀ a ∈ as, O.backend a = b) :
    OnlyListenersOf O b s (pushErrors O message as s).1 := by
  induction as generalizing s with
  | nil => exact refl
  | cons a as ih =>
    have hhead : OnlyListenersOf O b s (s.eachListener [a] (Listener.pushError O.queue message)) :=
      eachListener fun a' ha' => h a' (by simp_all)
    exact hhead.trans (ih fun a' ha' => h a' (List.mem_cons_of_mem _ ha'))

omit [DecidableEq β] in
theorem pollInitialValue {p : Text} {as : List α} {reply : Except Text ℕ}
    (h : ∀ a ∈ as, O.backend a = b) : OnlyListenersOf O b s (pollInitialValue O p as reply s).1 := by
  cases reply with
  | ok value => exact eachListener h
  | error text => exact pushErrors h

omit [DecidableEq α] in
theorem of_ownedBy {as : List α} : ∀ a ∈ State.ownedBy O.layout b as, O.backend a = b := by
  intro a ha
  exact of_decide_eq_true (List.mem_filter.mp ha).2

theorem activateListenersAt {reply : Text → Except Text ℕ} {p : Text} :
    OnlyListenersOf O b s (activateListenersAt O b reply s p) := by
  unfold Zmq.activateListenersAt
  split
  · exact refl
  · split
    · exact (eachListener of_ownedBy).trans (pollInitialValue of_ownedBy)
    · exact eachListener of_ownedBy

theorem run (c : ManagerCall) : OnlyListenersOf O b s (c.run O b s) := by
  cases c with
  | activateAllListeners reply => exact foldl fun _ _ => activateListenersAt
  | deactivateAllListeners => exact eachListener of_ownedBy
  | deactivateAllListenersAndPushException message =>
    exact foldl fun _ _ => eachListener of_ownedBy

end OnlyListenersOf

/-! ## What a backend can see -/

/-- A backend sees the subscriptions, which it shares, its own listeners and itself. -/
structure Indistinguishable (O : Objects α β) (b : β) (s s' : State τ α β) : Prop where
  subscriptionMap : s.subscriptionMap = s'.subscriptionMap
  listener : ∀ a, O.backend a = b → s.listener a = s'.listener a
  backend : s.backend b = s'.backend b

namespace Indistinguishable

def setoid (τ : Type) (O : Objects α β) (b : β) : Setoid (State τ α β) where
  r := Indistinguishable O b
  iseqv :=
    { refl _ := ⟨rfl, fun _ _ => rfl, rfl⟩
      symm h := ⟨h.subscriptionMap.symm, fun a ha => (h.listener a ha).symm, h.backend.symm⟩
      trans h h' := ⟨h.subscriptionMap.trans h'.subscriptionMap,
        fun a ha => (h.listener a ha).trans (h'.listener a ha), h.backend.trans h'.backend⟩ }

omit [DecidableEq α] [DecidableEq β] in
theorem of_onlyListenersOf (h : OnlyListenersOf O b s s') (hne : b ≠ b') :
    Indistinguishable O b' s' s :=
  ⟨h.subscriptionMap_eq, fun a ha => h.others a (ha ▸ hne.symm), congrFun h.backend_eq b'⟩

omit [DecidableEq α] [DecidableEq β] in
theorem listenersAt (h : Indistinguishable O b s s') (p : Text) :
    s.listenersAt p = s'.listenersAt p := by
  rw [State.listenersAt, State.listenersAt, h.subscriptionMap]

omit [DecidableEq β] in
theorem eachListener (h : Indistinguishable O b s s') (as : List α) (f : Listener → Listener) :
    Indistinguishable O b (s.eachListener as f) (s'.eachListener as f) := by
  refine ⟨h.subscriptionMap, fun a ha => ?_, h.backend⟩
  rw [State.eachListener_listener, State.eachListener_listener, Each.each_apply, Each.each_apply,
    h.listener a ha]

omit [DecidableEq α] [DecidableEq β] in
theorem setSubscription (h : Indistinguishable O b s s') (p : Text) (e : Subscription α) :
    Indistinguishable O b (s.setSubscription p e) (s'.setSubscription p e) := by
  refine ⟨?_, h.listener, h.backend⟩
  rw [State.setSubscription_subscriptionMap, State.setSubscription_subscriptionMap,
    h.subscriptionMap]

omit [DecidableEq α] [DecidableEq β] in
theorem foldl {γ : Type} {f : State τ α β → γ → State τ α β} {xs : List γ}
    (hf : ∀ x {s s' : State τ α β}, Indistinguishable O b s s' → Indistinguishable O b (f s x) (f s' x))
    (h : Indistinguishable O b s s') : Indistinguishable O b (xs.foldl f s) (xs.foldl f s') := by
  induction xs generalizing s s' with
  | nil => exact h
  | cons x xs ih => exact ih (hf x h)

omit [DecidableEq β] in
theorem pushErrors {message : Text} {as : List α} (h : Indistinguishable O b s s') :
    Indistinguishable O b (pushErrors O message as s).1 (pushErrors O message as s').1 := by
  induction as generalizing s s' with
  | nil => exact h
  | cons a as ih => exact ih (h.eachListener [a] (Listener.pushError O.queue message))

omit [DecidableEq β] in
theorem pollInitialValue {p : Text} {as : List α} {reply : Except Text ℕ}
    (h : Indistinguishable O b s s') :
    Indistinguishable O b (pollInitialValue O p as reply s).1 (pollInitialValue O p as reply s').1 := by
  cases reply with
  | ok value => exact h.eachListener as _
  | error text => exact h.pushErrors

theorem activateListenersAt {reply : Text → Except Text ℕ} (p : Text)
    (h : Indistinguishable O b s s') :
    Indistinguishable O b (activateListenersAt O b' reply s p) (activateListenersAt O b' reply s' p) := by
  unfold Zmq.activateListenersAt
  rw [← h.subscriptionMap]
  split
  · exact h
  · split
    · exact (h.eachListener _ _).pollInitialValue
    · exact h.eachListener _ _

theorem run (c : ManagerCall) (h : Indistinguishable O b s s') :
    Indistinguishable O b (c.run O b' s) (c.run O b' s') := by
  cases c with
  | activateAllListeners reply =>
    simp only [ManagerCall.run, activateAllListeners, State.paths, ← h.subscriptionMap]
    exact foldl (fun p _ _ => activateListenersAt p) h
  | deactivateAllListeners =>
    have hall : s.allListeners O.layout b' = s'.allListeners O.layout b' := by
      rw [State.allListeners, State.allListeners, funext h.listenersAt, h.subscriptionMap]
    simp only [ManagerCall.run, deactivateAllListeners, ← hall]
    exact h.eachListener _ _
  | deactivateAllListenersAndPushException message =>
    simp only [ManagerCall.run, deactivateAllListenersAndPushException, State.paths,
      ← h.subscriptionMap]
    refine foldl (fun p m m' hm => ?_) h
    rw [pushExceptionAt, pushExceptionAt, ← hm.listenersAt]
    exact hm.eachListener _ _

/-- The error loop informs the backend of every listener, but each only of its own errors. -/
theorem served {message : Text} (a : α) (h : Indistinguishable O b s s') :
    Indistinguishable O b (served O message a s) (served O message a s') := by
  have hpushed := h.eachListener [a] (Listener.pushError O.queue message)
  refine ⟨hpushed.subscriptionMap, hpushed.listener, ?_⟩
  rw [Zmq.served, Zmq.served, State.setBackend_backend, State.setBackend_backend]
  by_cases hb : b = O.backend a
  · rw [← hb, Function.update_self, Function.update_self, h.backend]
  · rw [Function.update_of_ne hb, Function.update_of_ne hb]
    exact h.backend

theorem serveErrors {message : Text} {as : List α} (h : Indistinguishable O b s s') :
    Indistinguishable O b (serveErrors O message as s).1 (serveErrors O message as s').1 := by
  induction as generalizing s s' with
  | nil => exact h
  | cons a as ih => exact ih (h.served a)

theorem zmqCallback {p : Text} {data : Except Text ℕ} (h : Indistinguishable O b s s') :
    Indistinguishable O b (zmqCallback O p data s).1 (zmqCallback O p data s').1 := by
  cases hlookup : s.subscriptionMap.lookup p with
  | none =>
    simp only [Zmq.zmqCallback, ← h.subscriptionMap, hlookup]
    exact ⟨rfl, h.listener, h.backend⟩
  | some e =>
    cases data with
    | ok value =>
      have hdelivered := (h.setSubscription p { e with started := true, gotInitialValue := true
        }).eachListener e.listeners (Listener.deliver O.queue value)
      simp only [Zmq.zmqCallback, ← h.subscriptionMap, hlookup]
      exact ⟨hdelivered.subscriptionMap, hdelivered.listener, hdelivered.backend⟩
    | error text =>
      simp only [Zmq.zmqCallback, ← h.subscriptionMap, hlookup]
      exact (h.setSubscription p _).serveErrors

end Indistinguishable

theorem unwinding (τ : Type) (O : Objects α β) :
    Unwinding (SharedEvent.run O) SharedEvent.caller? (Indistinguishable.setoid τ O) where
  respects := by
    intro b b' e he hne s
    cases e with
    | call c call =>
      cases he
      exact .of_onlyListenersOf (.run call) hne
    | callback p data => cases he
    | read a => cases he
  consistent := by
    intro b e s s' h
    cases e with
    | call b' c => exact Indistinguishable.run c h
    | callback p data => exact Indistinguishable.zmqCallback h
    | read a => exact Indistinguishable.eachListener h [a] (Listener.read O.queue)

theorem commute_run (c d : ManagerCall) (hne : b ≠ b') (s : State τ α β) :
    d.run O b' (c.run O b s) = c.run O b (d.run O b' s) := by
  have hview (b'' : β) : Indistinguishable O b'' (d.run O b' (c.run O b s)) (c.run O b (d.run O b' s)) :=
    (unwinding τ O).commute hne (.call b c) (.call b' d) rfl rfl s b''
  have hlistener : (d.run O b' (c.run O b s)).listener = (c.run O b (d.run O b' s)).listener :=
    funext fun a => (hview (O.backend a)).listener a rfl
  have hfirst (b : β) (c : ManagerCall) (s : State τ α β) : OnlyListenersOf O b s (c.run O b s) :=
    .run c
  calc d.run O b' (c.run O b s)
    _ = { s with listener := (d.run O b' (c.run O b s)).listener } :=
      (hfirst b c s).rest_trans (hfirst b' d _)
    _ = { s with listener := (c.run O b (d.run O b' s)).listener } := by rw [hlistener]
    _ = c.run O b (d.run O b' s) := ((hfirst b' d s).rest_trans (hfirst b c _)).symm

/-! ## The same calls in the model of the threads -/

section Threads
variable [DecidableEq τ] {t : τ}

/-- A thread goes on, and no other one in between. -/
abbrev Uninterrupted (O : Objects α β) (t : τ) : State τ α β → State τ α β → Prop :=
  Relation.ReflTransGen fun s s' => ∃ rpcError, s.step O.layout (.next t rpcError) = some s'

/-- What the server answers to the RPC of an initial value. -/
def answer (published : Text → ℕ) (rpcError : Text → Option Text) (p : Text) : Except Text ℕ :=
  match rpcError p with
  | some text => .error text
  | none => .ok (published p)

theorem Uninterrupted.of_exec {n : ℕ} (h : Runs.exec (State.step O.layout) s
    (List.replicate n (.next t none)) = some s') : Uninterrupted O t s s' := by
  induction n generalizing s with
  | zero =>
    cases h
    exact .refl
  | succ n ih =>
    obtain ⟨m, hm, h⟩ := Option.bind_eq_some_iff.mp h
    exact .head ⟨none, hm⟩ (ih h)

theorem Uninterrupted.goto {pc : Pc α β} (rpcError : Option Text) (hs : s.undefined = false)
    (h : (s.goto t pc).advance O.layout t rpcError pc = some s') :
    Uninterrupted O t (s.goto t pc) s' := by
  refine .single ⟨rpcError, ?_⟩
  simpa [State.step, hs] using h

/-- `subscriptionMap_mutex`, taken and released by one thread. -/
def locked (t : τ) (s : State τ α β) : State τ α β := { s with mapOwner := some t }

def unlocked (s : State τ α β) : State τ α β := { s with mapOwner := none }

omit [DecidableEq τ] in
theorem ManagerCall.unlocked_run (c : ManagerCall) (hm : s.mapOwner = none) :
    unlocked (c.run O b (locked t s)) = c.run O b s := by
  have hview (b' : β) : Indistinguishable O b' (locked t s) s := ⟨rfl, fun _ _ => rfl, rfl⟩
  have hlistener : (c.run O b (locked t s)).listener = (c.run O b s).listener :=
    funext fun a => ((hview (O.backend a)).run c).listener a rfl
  rw [(OnlyListenersOf.run (O := O) (b := b) (s := locked t s) c).rest,
    (OnlyListenersOf.run (O := O) (b := b) (s := s) c).rest, hlistener, unlocked, locked, ← hm]

/-- A call which has come to the end of its loop. -/
theorem ManagerCall.uninterrupted_unlock (c : ManagerCall) (pc : Pc α β) (hs : s.undefined = false)
    (hm : s.mapOwner = none) (hpc : ∀ m : State τ α β,
      (m.goto t pc).advance O.layout t none pc = some ((unlocked m).goto t .idle)) :
    Uninterrupted O t ((c.run O b (locked t s)).goto t pc) ((c.run O b s).goto t .idle) := by
  refine .goto none ((OnlyListenersOf.run c).undefined_eq.trans hs) ?_
  rw [hpc, c.unlocked_run hm]

omit [DecidableEq β] [DecidableEq τ] in
theorem undefined_pushErrors {message : Text} {as : List α} :
    (pushErrors O message as s).1.undefined = s.undefined := by
  induction as generalizing s with
  | nil => rfl
  | cons a as ih => exact ih (s := s.eachListener [a] (Listener.pushError O.queue message))

/-- `pollInitialValue`, called by `activateAllListeners`. -/
theorem uninterrupted_pollInitialValue (rpcError : Text → Option Text) (p : Text) (as : List α)
    (todo : List Text) (hs : s.undefined = false) :
    Uninterrupted O t (s.goto t (.pollInitialValue p as (some (b, todo))))
      ((pollInitialValue O p as (answer s.published rpcError p) s).1.goto t
        (.activateListeners b todo)) := by
  have hpoll : Uninterrupted O t (s.goto t (.pollInitialValue p as (some (b, todo))))
      (s.goto t (.pushInitialValue p (answer s.published rpcError p) as (some (b, todo)))) := by
    refine .goto (rpcError p) hs ?_
    cases hanswer : rpcError p <;> simp [State.advance, answer, hanswer, goto_goto]
  have hpush : Uninterrupted O t
      (s.goto t (.pushInitialValue p (answer s.published rpcError p) as (some (b, todo))))
      ((pollInitialValue O p as (answer s.published rpcError p) s).1.goto t
        (.pushInitialValue p (answer s.published rpcError p) [] (some (b, todo)))) :=
    .of_exec (exec_pollInitialValue hs)
  have hundefined : (pollInitialValue O p as (answer s.published rpcError p) s).1.undefined = false := by
    cases answer s.published rpcError p with
    | ok value => exact hs
    | error text => exact undefined_pushErrors.trans hs
  have hresume : Uninterrupted O t
      ((pollInitialValue O p as (answer s.published rpcError p) s).1.goto t
        (.pushInitialValue p (answer s.published rpcError p) [] (some (b, todo))))
      ((pollInitialValue O p as (answer s.published rpcError p) s).1.goto t
        (.activateListeners b todo)) :=
    .goto none hundefined (congrArg some
      (goto_goto (s := (pollInitialValue O p as (answer s.published rpcError p) s).1) _))
  exact (hpoll.trans hpush).trans hresume

theorem uninterrupted_activateListenersAt (rpcError : Text → Option Text) (p : Text)
    (todo : List Text) (hs : s.undefined = false) :
    Uninterrupted O t (s.goto t (.activateListeners b (p :: todo)))
      ((activateListenersAt O b (answer s.published rpcError) s p).goto t
        (.activateListeners b todo)) := by
  cases hlookup : s.subscriptionMap.lookup p with
  | none =>
    refine .goto none hs ?_
    simp [State.advance, State.activateListeners, activateListenersAt, hlookup, goto_goto]
  | some e =>
    have hgoto (got : Bool) (pc : Pc α β) :
        ((s.eachListener (State.ownedBy O.layout b e.listeners) (Listener.activate got)).goto t
          (.activateListeners b (p :: todo))).goto t pc =
        (s.eachListener (State.ownedBy O.layout b e.listeners) (Listener.activate got)).goto t pc :=
      goto_goto pc
    cases hgot : e.gotInitialValue with
    | true =>
      have hactivate : Uninterrupted O t (s.goto t (.activateListeners b (p :: todo)))
          ((s.eachListener (State.ownedBy O.layout b e.listeners) (Listener.activate true)).goto t
            (.pollInitialValue p (State.ownedBy O.layout b e.listeners) (some (b, todo)))) := by
        refine .goto none hs ?_
        simp only [State.advance, State.activateListeners, State.goto_subscriptionMap, hlookup, hgot,
          if_true]
        exact congrArg some (hgoto true _)
      simp only [activateListenersAt, hlookup, hgot, if_true]
      exact hactivate.trans (uninterrupted_pollInitialValue rpcError p _ todo (by exact hs))
    | false =>
      refine .goto none hs ?_
      simp only [State.advance, State.activateListeners, State.goto_subscriptionMap, hlookup, hgot,
        activateListenersAt, if_false, Bool.false_eq_true]
      exact congrArg some (hgoto false _)

/-- The loop of `activateAllListeners`. -/
theorem uninterrupted_activateListeners (rpcError : Text → Option Text) (todo : List Text)
    (hs : s.undefined = false) :
    Uninterrupted O t (s.goto t (.activateListeners b todo))
      ((todo.foldl (activateListenersAt O b (answer s.published rpcError)) s).goto t
        (.activateListeners b [])) := by
  induction todo generalizing s with
  | nil => exact .refl
  | cons p todo ih =>
    have hat : OnlyListenersOf O b s (activateListenersAt O b (answer s.published rpcError) s p) :=
      .activateListenersAt
    have htail := ih (hat.undefined_eq.trans hs)
    rw [hat.published_eq] at htail
    exact (uninterrupted_activateListenersAt rpcError p todo hs).trans htail

theorem uninterrupted_pushExceptions (message : Text) (todo : List Text)
    (hs : s.undefined = false) :
    Uninterrupted O t (s.goto t (.pushExceptionsAt b message todo))
      ((todo.foldl (pushExceptionAt O b message) s).goto t (.pushExceptionsAt b message [])) := by
  induction todo generalizing s with
  | nil => exact .refl
  | cons p todo ih =>
    have hat : Uninterrupted O t (s.goto t (.pushExceptionsAt b message (p :: todo)))
        ((pushExceptionAt O b message s p).goto t (.pushExceptionsAt b message todo)) :=
      .goto none hs
        (congrArg some (goto_goto (s := pushExceptionAt O b message s p) _))
    exact hat.trans (ih (s := pushExceptionAt O b message s p) hs)

/-- `activateAllListeners`, called by `activateAsyncRead`. -/
theorem uninterrupted_activateAllListeners (rpcError : Text → Option Text)
    (hs : s.undefined = false) (hm : s.mapOwner = none) :
    Uninterrupted O t (s.goto t (.activateAllListeners b))
      ((activateAllListeners O b (answer s.published rpcError) s).goto t .idle) := by
  have hlock : Uninterrupted O t (s.goto t (.activateAllListeners b))
      ((locked t s).goto t (.activateListeners b s.paths)) := by
    refine .goto none hs ?_
    simp [State.advance, hm, State.goto, locked, State.paths]
  have hloop := uninterrupted_activateListeners (O := O) (t := t) (b := b) (s := locked t s) rpcError
    s.paths hs
  have hunlock := ManagerCall.uninterrupted_unlock (O := O) (t := t) (b := b)
    (.activateAllListeners (answer s.published rpcError)) (.activateListeners b []) hs hm
    fun m => congrArg some (goto_goto (s := unlocked m) _)
  exact (hlock.trans hloop).trans hunlock

/-- `deactivateAllListenersAndPushException`, called by `setExceptionImpl`. -/
theorem uninterrupted_deactivateAllListenersAndPushException (message : Text)
    (hs : s.undefined = false) (hm : s.mapOwner = none) :
    Uninterrupted O t (s.goto t (.pushExceptions b message))
      ((deactivateAllListenersAndPushException O b message s).goto t .idle) := by
  have hlock : Uninterrupted O t (s.goto t (.pushExceptions b message))
      ((locked t s).goto t (.pushExceptionsAt b message s.paths)) := by
    refine .goto none hs ?_
    simp [State.advance, hm, State.goto, locked, State.paths]
  have hloop := uninterrupted_pushExceptions (O := O) (t := t) (b := b) (s := locked t s) message
    s.paths hs
  have hunlock := ManagerCall.uninterrupted_unlock (O := O) (t := t) (b := b)
    (.deactivateAllListenersAndPushException message) (.pushExceptionsAt b message []) hs hm
    fun m => congrArg some (goto_goto (s := unlocked m) _)
  exact (hlock.trans hloop).trans hunlock

/-- `deactivateAllListeners`, called by `close`. -/
theorem step_close (hs : s.undefined = false) (hm : s.mapOwner = none) (hpc : s.pc t = .idle) :
    s.step O.layout (.call t (.close b)) =
      some ((deactivateAllListeners O b s).goto t (.clearOpened b)) := by
  simp [State.step, State.call, hs, hm, hpc, deactivateAllListeners]

theorem step_data {p : Text} {value : ℕ} (hs : s.undefined = false) (hpc : s.pc t = .idle)
    (hattached : s.attached p = true) (hvalue : s.delivered p ≤ value ∧ value ≤ s.published p) :
    s.step O.layout (.call t (.data p value)) = some (zmqCallback O p (.ok value) s).1 := by
  cases hlookup : s.subscriptionMap.lookup p <;>
    simp [State.step, State.call, zmqCallback, hs, hpc, hattached, hvalue, hlookup]

end Threads

theorem backends_do_not_interfere (τ : Type) (O : Objects α β) {A B : β} (h : A ≠ B) :
    DoesNotInterfere O τ A B where
  unchanged c _ := ⟨(OnlyListenersOf.run c).subscriptionMap_eq,
    fun a ha => (OnlyListenersOf.run c).others a (ha ▸ h.symm)⟩
  commute c d := commute_run c d h
  unnoticed es s a ha :=
    ((unwinding τ O).run_without h es ((Indistinguishable.setoid τ O B).refl s)).listener a ha

end Views

/-! ## Two backends with one property -/

/-- Each of the backends has an accessor for the same property. -/
def sharing : Objects Bool Bool where
  accessor _ := ⟨.int32, twoNumbers⟩
  backend := id
  queue := plainQueue
  path_ne_nil _ := twoNumbers_path

theorem sharing_does_not_interfere : DoesNotInterfere sharing Unit false true :=
  backends_do_not_interfere Unit sharing (by decide)

end DoocsBackend.Zmq
