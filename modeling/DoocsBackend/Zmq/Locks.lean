import DoocsBackend.Basic
import DoocsBackend.Library.LockOrder

/-! # The locks of the subscription manager and of the backends

Every operation as the sequence of its lock, unlock and wait steps, for all branches it can take
and all numbers of iterations of its loops. `subscriptionMap_mutex` comes before the
`listeners_mutex` of a subscription, and that before `dmsgStartCalled_mutex`; `_mxRecovery` is
only locked by threads which hold nothing else.
-/
namespace DoocsBackend.Zmq.Locks
open LockOrder

/-- The mutexes, for subscriptions `σ` and backends `β`. -/
inductive Lock (σ β : Type) where
  | subscriptionMap
  | listeners (subscription : σ)
  | dmsgStartCalled
  /-- `_mxRecovery`. -/
  | recovery (backend : β)
  deriving DecidableEq, Repr

namespace Lock
variable {σ β : Type}

def rank : Lock σ β → ℕ
  | .subscriptionMap => 0
  | .listeners _ => 1
  | .dmsgStartCalled => 2
  | .recovery _ => 3

def IsListeners : Lock σ β → Prop
  | .listeners _ => True
  | _ => False

end Lock

section Programs
variable {σ β : Type}

/-- The sequence of lock steps of an operation. -/
abbrev Program (σ β : Type) := List (Action (Lock σ β))

/-- `startedCv.wait` is called until the callback has been called; there is nothing to wait for if
the subscription is not active. -/
def deactivateSubscription (i : σ) (waits : ℕ) : Program σ β :=
  underLock .subscriptionMap
    (underLock (.listeners i) (List.replicate waits (.wait (.listeners i))))

/-- What `unsubscribe` and the destructor find where they look up a path again. -/
structure Deactivation (σ : Type) where
  subscription : σ
  waits : ℕ

/-- One iteration of the destructor, which unlocks the map in between. -/
def destroySubscription (i : σ) (d : Deactivation σ) : Program σ β :=
  underLock (.listeners i) [] ++ [.release .subscriptionMap] ++
    deactivateSubscription d.subscription d.waits ++ [.acquire .subscriptionMap]

/-- The destructor of the manager. -/
def destroyManager (subscriptions : List (σ × Deactivation σ)) : Program σ β :=
  underLock .subscriptionMap (subscriptions.flatMap fun x => destroySubscription x.1 x.2)

/-- `activateSubscription`, once `dmsg_attach` has succeeded. -/
def activateSubscription : Program σ β := underLock .dmsgStartCalled []

/-- `subscribe`, which unlocks the map before it makes a new subscription with DOOCS. -/
def subscribe (i : σ) (attaches : Bool) : Program σ β :=
  [.acquire .subscriptionMap, .acquire (.listeners i), .release .subscriptionMap] ++
    (if attaches then activateSubscription else []) ++ [.release (.listeners i)]

/-- `unsubscribe`, with the subscription it finds, and the one it deactivates if no listener is
left. -/
def unsubscribe (found : Option (σ × Option (Deactivation σ))) : Program σ β :=
  match found with
  | none => underLock .subscriptionMap []
  | some (i, none) => underLock .subscriptionMap (underLock (.listeners i) [])
  | some (i, some d) =>
    underLock .subscriptionMap (underLock (.listeners i) []) ++
      deactivateSubscription d.subscription d.waits ++ underLock .subscriptionMap []

/-- `activateAllListeners`; a lock is given back during the poll of an initial value. -/
def activateAllListeners (subscriptions : List (σ × Bool)) : Program σ β :=
  underLock .subscriptionMap (subscriptions.flatMap fun x =>
    underLock (.listeners x.1)
      (if x.2 then [.release (.listeners x.1), .acquire (.listeners x.1)] else []))

/-- `deactivateAllListeners` goes through the listeners without their locks. -/
def deactivateAllListeners : Program σ β := underLock .subscriptionMap []

def deactivateAllListenersAndPushException (subscriptions : List σ) : Program σ β :=
  underLock .subscriptionMap (subscriptions.flatMap fun i => underLock (.listeners i) [])

def informRuntimeError (b : β) : Program σ β := underLock (.recovery b) []

/-- `zmq_callback`, with the backends it informs of an error. -/
def zmqCallback (i : σ) (informed : List β) : Program σ β :=
  underLock (.listeners i) (informed.flatMap fun b =>
    [.release (.listeners i)] ++ informRuntimeError b ++ [.acquire (.listeners i)])

def setExceptionImpl (subscriptions : List σ) : Program σ β :=
  deactivateAllListenersAndPushException subscriptions

/-- `open`; if the probe fails, the lock is given back before `setException`. -/
def openBackend (b : β) (failed : Option (List σ)) : Program σ β :=
  match failed with
  | none => underLock (.recovery b) []
  | some subscriptions => underLock (.recovery b) [] ++ setExceptionImpl subscriptions

def closeBackend (b : β) : Program σ β := deactivateAllListeners ++ underLock (.recovery b) []

def getStartVersion (b : β) : Program σ β := underLock (.recovery b) []

/-- The operations a thread can run. -/
inductive IsOperation : Program σ β → Prop
  | destroyManager (subscriptions : List (σ × Deactivation σ)) :
      IsOperation (destroyManager subscriptions)
  | subscribe (i : σ) (attaches : Bool) : IsOperation (subscribe i attaches)
  | unsubscribe (found : Option (σ × Option (Deactivation σ))) : IsOperation (unsubscribe found)
  | activateAllListeners (subscriptions : List (σ × Bool)) :
      IsOperation (activateAllListeners subscriptions)
  | deactivateAllListeners : IsOperation deactivateAllListeners
  | deactivateAllListenersAndPushException (subscriptions : List σ) :
      IsOperation (deactivateAllListenersAndPushException subscriptions)
  | zmqCallback (i : σ) (informed : List β) : IsOperation (zmqCallback i informed)
  | openBackend (b : β) (failed : Option (List σ)) : IsOperation (openBackend b failed)
  | closeBackend (b : β) : IsOperation (closeBackend b)
  | informRuntimeError (b : β) : IsOperation (informRuntimeError b)
  | setExceptionImpl (subscriptions : List σ) : IsOperation (setExceptionImpl subscriptions)
  | getStartVersion (b : β) : IsOperation (getStartVersion b)

end Programs

/-! ## Every operation keeps to the order -/

section Order
variable {σ β : Type} [DecidableEq σ] [DecidableEq β]

theorem ordered_locked (l : Lock σ β) : Ordered Lock.rank ∅ ∅ (underLock l []) :=
  Ordered.underLock (by simp) rfl

omit [DecidableEq σ] [DecidableEq β] in
theorem below_listeners (i : σ) :
    ∀ m ∈ ({.subscriptionMap} : Finset (Lock σ β)), m.rank < (Lock.listeners i : Lock σ β).rank := by
  simp [Lock.rank]

theorem ordered_listeners (i : σ) :
    Ordered Lock.rank {Lock.subscriptionMap} {.subscriptionMap}
      (underLock (.listeners i) [] : Program σ β) :=
  Ordered.underLock (below_listeners i) rfl

/-- A loop over the map, under its lock. -/
theorem ordered_overMap {ι : Type} {body : ι → Program σ β}
    (h : ∀ x, Ordered Lock.rank {Lock.subscriptionMap} {.subscriptionMap} (body x)) (xs : List ι) :
    Ordered Lock.rank ∅ ∅ (underLock .subscriptionMap (xs.flatMap body)) :=
  Ordered.underLock (by simp) (Ordered.flatMap h xs)

theorem ordered_unlock (l : Lock σ β) : Ordered Lock.rank ∅ {l} [.release l] :=
  ⟨Finset.mem_singleton_self l, by simp [Ordered]⟩

theorem ordered_lock (l : Lock σ β) : Ordered Lock.rank {l} ∅ [.acquire l] := ⟨by simp, rfl⟩

theorem ordered_deactivateSubscription (d : Deactivation σ) :
    Ordered Lock.rank ∅ ∅ (deactivateSubscription d.subscription d.waits : Program σ β) := by
  refine Ordered.underLock (by simp) (Ordered.underLock (below_listeners d.subscription) ?_)
  exact Ordered.waits (Finset.mem_insert_self _ _) (by simp [Lock.rank]) d.waits

theorem ordered_deactivateAllListenersAndPushException (subscriptions : List σ) :
    Ordered Lock.rank ∅ ∅ (deactivateAllListenersAndPushException subscriptions : Program σ β) :=
  ordered_overMap ordered_listeners subscriptions

theorem ordered_destroySubscription (i : σ) (d : Deactivation σ) :
    Ordered Lock.rank {Lock.subscriptionMap} {.subscriptionMap}
      (destroySubscription i d : Program σ β) := by
  have hclear : Ordered Lock.rank ∅ {Lock.subscriptionMap}
      ((underLock (.listeners i) [] : Program σ β) ++ [.release .subscriptionMap]) :=
    (ordered_listeners i).append (ordered_unlock _)
  exact (hclear.append (ordered_deactivateSubscription d)).append (ordered_lock _)

theorem ordered_destroyManager (subscriptions : List (σ × Deactivation σ)) :
    Ordered Lock.rank ∅ ∅ (destroyManager subscriptions : Program σ β) :=
  ordered_overMap (fun x => ordered_destroySubscription x.1 x.2) subscriptions

theorem ordered_subscribe (i : σ) (attaches : Bool) :
    Ordered Lock.rank ∅ ∅ (subscribe i attaches : Program σ β) := by
  have handOver : Ordered Lock.rank {Lock.listeners i} ∅
      ([.acquire .subscriptionMap, .acquire (.listeners i), .release .subscriptionMap] :
        Program σ β) := by
    refine ⟨by simp, below_listeners i, by simp, ?_⟩
    rw [Finset.erase_insert_of_ne (by simp)]
    rfl
  have attach : Ordered Lock.rank {Lock.listeners i} {.listeners i}
      (if attaches then activateSubscription else [] : Program σ β) := by
    split
    · exact Ordered.underLock (by simp [Lock.rank]) rfl
    · rfl
  exact (handOver.append attach).append (ordered_unlock _)

theorem ordered_unsubscribe (found : Option (σ × Option (Deactivation σ))) :
    Ordered Lock.rank ∅ ∅ (unsubscribe found : Program σ β) := by
  have hlook (i : σ) : Ordered Lock.rank ∅ ∅
      (underLock .subscriptionMap (underLock (.listeners i) []) : Program σ β) :=
    Ordered.underLock (by simp) (ordered_listeners i)
  rcases found with _ | ⟨i, _ | d⟩
  · exact ordered_locked _
  · exact hlook i
  · exact ((hlook i).append (ordered_deactivateSubscription d)).append (ordered_locked _)

theorem ordered_activateAllListeners (subscriptions : List (σ × Bool)) :
    Ordered Lock.rank ∅ ∅ (activateAllListeners subscriptions : Program σ β) := by
  refine ordered_overMap (fun x => ?_) subscriptions
  apply Ordered.underLock (below_listeners x.1)
  cases x.2
  · rfl
  · refine ⟨Finset.mem_insert_self _ _, ?_⟩
    rw [Finset.erase_insert (by simp)]
    exact ⟨below_listeners x.1, rfl⟩

theorem ordered_zmqCallback (i : σ) (informed : List β) :
    Ordered Lock.rank ∅ ∅ (zmqCallback i informed : Program σ β) :=
  Ordered.underLock (by simp) (Ordered.flatMap
    (fun b => ((ordered_unlock _).append (ordered_locked (.recovery b))).append (ordered_lock _))
    informed)

theorem ordered_openBackend (b : β) (failed : Option (List σ)) :
    Ordered Lock.rank ∅ ∅ (openBackend b failed : Program σ β) := by
  cases failed with
  | none => exact ordered_locked _
  | some subscriptions =>
    exact (ordered_locked _).append (ordered_deactivateAllListenersAndPushException subscriptions)

theorem ordered_of_isOperation {p : Program σ β} (h : IsOperation p) : Ordered Lock.rank ∅ ∅ p := by
  cases h with
  | destroyManager subscriptions => exact ordered_destroyManager subscriptions
  | subscribe i attaches => exact ordered_subscribe i attaches
  | unsubscribe found => exact ordered_unsubscribe found
  | activateAllListeners subscriptions => exact ordered_activateAllListeners subscriptions
  | deactivateAllListenersAndPushException subscriptions | setExceptionImpl subscriptions =>
    exact ordered_deactivateAllListenersAndPushException subscriptions
  | zmqCallback i informed => exact ordered_zmqCallback i informed
  | openBackend b failed => exact ordered_openBackend b failed
  | closeBackend b => exact (ordered_locked _).append (ordered_locked _)
  | deactivateAllListeners | informRuntimeError b | getStartVersion b => exact ordered_locked _

omit [DecidableEq σ] [DecidableEq β] in
/-- Only `deactivateSubscription` sleeps. -/
theorem sleepsAt_of_isOperation {p : Program σ β} (h : IsOperation p) :
    SleepsAt Lock.IsListeners p := by
  have hwaits (d : Deactivation σ) : SleepsAt Lock.IsListeners
      (List.replicate d.waits (.wait (.listeners d.subscription)) : Program σ β) := by
    intro a ha l hl
    obtain rfl := List.eq_of_mem_replicate ha
    cases hl
    trivial
  have hpush (subscriptions : List σ) : SleepsAt Lock.IsListeners
      (deactivateAllListenersAndPushException subscriptions : Program σ β) :=
    sleepsAt_underLock.mpr (SleepsAt.flatMap (by simp) subscriptions)
  cases h with
  | destroyManager subscriptions =>
    refine sleepsAt_underLock.mpr (SleepsAt.flatMap (fun x => ?_) subscriptions)
    simp [destroySubscription, deactivateSubscription, Action.sleepsIn, hwaits]
  | subscribe i attaches =>
    cases attaches <;> simp [subscribe, activateSubscription, Action.sleepsIn]
  | unsubscribe found =>
    rcases found with _ | ⟨i, _ | d⟩
    · simp [unsubscribe]
    · simp [unsubscribe]
    · simp [unsubscribe, deactivateSubscription, hwaits]
  | activateAllListeners subscriptions =>
    refine sleepsAt_underLock.mpr (SleepsAt.flatMap (fun x => ?_) subscriptions)
    cases x.2 <;> simp [Action.sleepsIn]
  | deactivateAllListenersAndPushException subscriptions | setExceptionImpl subscriptions =>
    exact hpush subscriptions
  | zmqCallback i informed =>
    refine sleepsAt_underLock.mpr (SleepsAt.flatMap (fun b => ?_) informed)
    simp [informRuntimeError, Action.sleepsIn]
  | openBackend b failed =>
    cases failed with
    | none => simp [openBackend]
    | some subscriptions => simp [openBackend, setExceptionImpl, hpush]
  | deactivateAllListeners | closeBackend b | informRuntimeError b | getStartVersion b =>
    simp [deactivateAllListeners, closeBackend, informRuntimeError, getStartVersion]

/-- However many threads run the operations: no threads ever wait for each other in a circle, and
a thread which waits in `startedCv` holds no lock `zmq_callback` has to acquire. -/
theorem no_lock_cycle {τ : Type} [DecidableEq τ] {es : List (Event τ (Lock σ β))}
    {s : State τ (Lock σ β)}
    (run : Runs.Run State.step (fun _ e => Starts IsOperation e) State.initial es s) :
    ¬ s.Deadlocked ∧ ∀ t l p, s.todo t = .asleep l :: p → ∀ m, s.owner m = some t →
      ∀ i informed, .acquire m ∉ zmqCallback i informed := by
  have hs : InOrder Lock.rank s := inOrder_of_run (fun p hp => ordered_of_isOperation hp) run
  refine ⟨hs.not_deadlocked, fun t l p htodo m hm i informed hacquire => ?_⟩
  have hsleeps : l.IsListeners :=
    sleepsAt_of_run (fun p hp => sleepsAt_of_isOperation hp) run t (.asleep l) (by simp [htodo])
      l rfl
  have hlt : m.rank < l.rank := hs.lt_of_asleep htodo hm
  cases l with
  | listeners j =>
    have hmap : m = .subscriptionMap := by
      cases m with
      | subscriptionMap => rfl
      | _ => simp [Lock.rank] at hlt
    subst hmap
    simp [zmqCallback, informRuntimeError, underLock] at hacquire
  | _ => exact hsleeps.elim

end Order

/-- One thread unsubscribes the last listener and waits for the callback, which another one runs. -/
def unsubscribeDuringCallback : List (Event Bool (Lock Unit Unit)) :=
  .start true (unsubscribe (some ((), some ⟨(), 1⟩))) :: List.replicate 7 (.next true) ++
    [.start false (zmqCallback () [()]), .next false]

theorem no_lock_cycle_unsubscribe : ∃ s p,
    Runs.exec State.step State.initial unsubscribeDuringCallback = some s ∧
      s.todo true = .asleep (.listeners ()) :: p ∧ s.owner (.listeners ()) = some false ∧
      s.owner .subscriptionMap = some true ∧ ¬ s.Deadlocked ∧
      .acquire .subscriptionMap ∉ (zmqCallback () [()] : Program Unit Unit) := by
  obtain ⟨s, hs⟩ : ∃ s, Runs.exec State.step State.initial unsubscribeDuringCallback = some s :=
    Option.isSome_iff_exists.mp rfl
  have run : Runs.Run State.step (fun _ e => Starts IsOperation e) State.initial
      unsubscribeDuringCallback s := by
    apply Runs.Run.of_exec hs
    intro e he
    simp only [unsubscribeDuringCallback, List.cons_append, List.mem_cons, List.mem_append,
      List.mem_replicate, List.not_mem_nil, or_false] at he
    rcases he with rfl | ⟨-, rfl⟩ | rfl | rfl
    · exact .unsubscribe _
    · trivial
    · exact .zmqCallback () [()]
    · trivial
  obtain ⟨hfree, hawake⟩ := no_lock_cycle run
  cases hs
  exact ⟨_, _, rfl, rfl, rfl, rfl, hfree, hawake true _ _ rfl .subscriptionMap rfl () [()]⟩

end DoocsBackend.Zmq.Locks
