import DoocsBackend.Zmq.Steps

/-! # Nothing is pushed after an exception

`pushError` deactivates a listener before it pushes the exception, and the callback leaves
inactive listeners alone. Only the poll of initial values works without the lock. Its value
may follow an exception which arrived since the RPC, and so may its own exception.
-/
namespace DoocsBackend.Zmq

/-- After an exception, the next thing to happen is an activation. -/
def ExceptionIsLast (history : List Happening) : Prop :=
  history.IsChain fun x y => x.isException = true → y.isActivation = true

instance (history : List Happening) : Decidable (ExceptionIsLast history) :=
  inferInstanceAs (Decidable (history.IsChain _))

/-- As long as the listener is active, there is no exception to be last. -/
structure Orderly (l : Listener) : Prop where
  exceptionIsLast : ExceptionIsLast l.history
  active : l.isActiveZMQ = true → ∀ x ∈ l.history.getLast?, x.isException = false

theorem exceptionIsLast_concat {history : List Happening} {x : Happening}
    (h : ExceptionIsLast history)
    (hx : x.isActivation = true ∨ ∀ y ∈ history.getLast?, y.isException = false) :
    ExceptionIsLast (history ++ [x]) := by
  refine List.isChain_append.mpr ⟨h, List.isChain_singleton x, fun y hy z hz hexc => ?_⟩
  cases hz
  obtain hact | hlast := hx
  · exact hact
  · rw [hlast y hy] at hexc
    cases hexc

namespace Orderly
variable {Q : FutureQueue} {l : Listener}

theorem activate (h : Orderly l) (got : Bool) : Orderly (l.activate got) := by
  unfold Listener.activate
  split
  · exact h
  · exact ⟨exceptionIsLast_concat h.exceptionIsLast (.inl rfl), fun _ x hx => by
      rw [List.getLast?_concat] at hx
      cases hx
      rfl⟩

theorem deactivate (h : Orderly l) : Orderly l.deactivate :=
  ⟨h.exceptionIsLast, fun hactive => by cases hactive⟩

theorem pushPolled (h : Orderly l) (hactive : l.isActiveZMQ = true) (value : ℕ) :
    Orderly (l.pushPolled Q value) :=
  ⟨exceptionIsLast_concat h.exceptionIsLast (.inr (h.active hactive)), fun _ x hx => by
    rw [Listener.pushPolled, List.getLast?_concat] at hx
    cases hx
    rfl⟩

theorem deliver (h : Orderly l) (value : ℕ) : Orderly (l.deliver Q value) := by
  unfold Listener.deliver
  split
  · exact ⟨exceptionIsLast_concat h.exceptionIsLast (.inr (h.active ‹_›)), fun _ x hx => by
      rw [List.getLast?_concat] at hx
      cases hx
      rfl⟩
  · exact h

/-- An exception which does not follow another one, in the queue of an inactive listener. -/
theorem pushException (h : Orderly l) (hactive : l.isActiveZMQ = false)
    (hlast : ∀ x ∈ l.history.getLast?, x.isException = false) (message : Text) :
    Orderly (l.pushException Q message) :=
  ⟨exceptionIsLast_concat h.exceptionIsLast (.inr hlast), fun h => by
    rw [Listener.pushException_isActiveZMQ, hactive] at h
    cases h⟩

theorem pushError (h : Orderly l) (message : Text) : Orderly (l.pushError Q message) := by
  unfold Listener.pushError
  split
  · exact h.deactivate.pushException rfl (h.active ‹_›) message
  · exact h

theorem read (h : Orderly l) : Orderly (l.read Q) := by
  unfold Listener.read
  split
  · exact h
  · exact ⟨h.exceptionIsLast, h.active⟩
  · exact ⟨h.exceptionIsLast, h.active⟩

end Orderly

namespace State
variable {τ α β : Type} [DecidableEq τ] [DecidableEq α] [DecidableEq β]

/-- The listener a thread is about to push a polled value into, or to deactivate for an exception. -/
def pushTarget : Pc α β → Option α
  | .pushInitialValue _ (.ok _) (a :: _) _ | .clearIsActiveZMQ _ _ a _ _ => some a
  | _ => none

/-- The listener a thread has deactivated, and is about to push the exception into. -/
def excepted : Pc α β → Option α
  | .pushException _ _ a _ _ => some a
  | _ => none

/-- A poll pushes values, and deactivates for an exception, only while the listener is still active, and
no listener is activated before a poll has pushed the exception it was deactivated for. -/
def PollsActive (L : Layout α β) (s : State τ α β) (e : Event τ α β) : Prop :=
  (∀ t ∈ e.thread?, ∀ a ∈ pushTarget (s.pc t), (s.listener a).isActiveZMQ = true) ∧
    (∀ a ∈ e.subscriber?, ∀ u, excepted (s.pc u) ≠ some a) ∧
      ∀ t ∈ e.thread?, ∀ a ∈ s.visited L (s.pc t), ∀ u, excepted (s.pc u) ≠ some a

instance [Fintype τ] (L : Layout α β) (s : State τ α β) (e : Event τ α β) :
    Decidable (PollsActive L s e) :=
  inferInstanceAs (Decidable ((∀ t ∈ e.thread?, ∀ a ∈ pushTarget (s.pc t), _) ∧
    (∀ a ∈ e.subscriber?, _) ∧ ∀ t ∈ e.thread?, ∀ a ∈ s.visited L (s.pc t), _))

variable {L : Layout α β} {s s' : State τ α β} {a : α}

omit [DecidableEq τ] [DecidableEq α] in
theorem PollsActive.not_excepted {e : Event τ α β} (hok : PollsActive L s e)
    (h : Activates L s e a) (u : τ) : excepted (s.pc u) ≠ some a := by
  obtain hsubscribes | ⟨t, ht, hvisited⟩ := h
  · exact hok.2.1 a hsubscribes u
  · exact hok.2.2 t ht a hvisited u

/-- An exception can be pushed into the queue of the listener. -/
structure Awaiting (l : Listener) : Prop where
  inactive : l.isActiveZMQ = false
  last : ∀ x ∈ l.history.getLast?, x.isException = false

/-- All queues are in order, and ready for the exceptions to come. -/
structure PollsOrderly (s : State τ α β) : Prop where
  orderly : ∀ a, Orderly (s.listener a)
  awaiting : ∀ t a, excepted (s.pc t) = some a → Awaiting (s.listener a)
  alone : ∀ t u a, excepted (s.pc t) = some a → excepted (s.pc u) = some a → t = u

/-- A thread which is about to push an exception has been there before, or has just deactivated the
listener. -/
theorem excepted_step {e : Event τ α β} (h : Transition L s e s') {u : τ}
    (hu : excepted (s'.pc u) = some a) :
    excepted (s.pc u) = some a ∧ e.thread? ≠ some u ∨
      ∃ r p text as ret, e = .next u r ∧ s.pc u = .clearIsActiveZMQ p text a as ret ∧
        s'.listener a = (s.listener a).deactivate := by
  have stays {t : τ} (ht : excepted (s.pc t) = none) (hbefore : excepted (s.pc u) = some a) :
      excepted (s.pc u) = some a ∧ some t ≠ some u := by
    refine ⟨hbefore, ?_⟩
    rintro heq
    cases heq
    rw [ht] at hbefore
    cases hbefore
  cases h with
  | @clearIsActiveZMQ t r p text b as ret hpc =>
    obtain ⟨rfl, hself⟩ | hbefore := mem_place_goto excepted rfl hu
    · cases hself
      exact .inr ⟨r, p, text, as, ret, rfl, hpc,
        Each.each_of_mem (List.nodup_singleton a) (List.mem_singleton_self a)⟩
    · exact .inl (stays (by rw [hpc]; rfl) hbefore)
  | @pushException t r p text b as ret hpc =>
    left
    by_cases hut : u = t
    · subst hut
      rw [goto_pc, Function.update_self] at hu
      cases hu
    · rw [goto_pc, Function.update_of_ne hut] at hu
      exact ⟨hu, fun heq => hut (Option.some.inj heq).symm⟩
  | subscribeFails | unsubscribeIgnored | activateIgnored | openSucceeds | data | dangling | publish
  | read => exact .inl ⟨hu, by simp [Event.thread?]⟩
  | subscribeJoins | unsubscribeLeaves =>
    refine .inl ⟨mem_place_of_goto excepted rfl ?_ hu, by simp [Event.thread?]⟩
    split <;> rfl
  | subscribeNew | activateChecked | close | openFails | setException =>
    exact .inl ⟨mem_place_of_goto excepted rfl rfl hu, by simp [Event.thread?]⟩
  | error => exact .inl ⟨mem_place_of_serveError excepted (by rfl) rfl rfl hu, by simp [Event.thread?]⟩
  | errorLoop hpc =>
    exact .inl (stays (by rw [hpc]; rfl) (mem_place_of_serveError excepted rfl rfl rfl hu))
  | eraseMissing hpc | informMissing hpc => exact .inl (stays (by rw [hpc]; rfl) hu)
  | @pushDone t r p reply ret hpc =>
    refine .inl (stays (by rw [hpc]; rfl) (mem_place_of_goto excepted rfl ?_ hu))
    cases ret <;> rfl
  | activateListeners hpc =>
    refine .inl (stays (by rw [hpc]; rfl) (mem_place_of_goto excepted rfl ?_ hu))
    split <;> rfl
  | deactivateInactive hpc | deactivateActive hpc | deactivateWaits hpc | awaitStarted hpc | detach hpc
  | eraseSubscription hpc | exchangeSet hpc | exchangeUnset hpc | activateAllListeners hpc
  | activateDone hpc | activateSkips hpc | poll hpc | pushPolled hpc | pushErrorIgnored hpc
  | pushErrorChecked hpc | clearOpened hpc | clearAsyncRead hpc | clearLastFailedAddress hpc
  | setExceptionImpl hpc | pushExceptions hpc | pushExceptionsDone hpc | pushExceptionsAt hpc
  | informRuntimeError hpc =>
    exact .inl (stays (by rw [hpc]; rfl) (mem_place_of_goto excepted rfl rfl hu))

theorem orderly_step {e : Event τ α β} (hs : PollsOrderly s) (hok : PollsActive L s e)
    (h : Transition L s e s') (a : α) : Orderly (s'.listener a) := by
  apply listener_step h (hs.orderly a)
  · exact fun _ l got hl => hl.activate got
  · exact fun l hl => hl.deactivate
  · rintro t r p value as ret rfl hpc
    have hactive : (s.listener a).isActiveZMQ = true := hok.1 t rfl a (by rw [hpc]; rfl)
    exact (hs.orderly a).pushPolled hactive value
  · rintro t r p text as ret message rfl hpc
    obtain ⟨hinactive, hlast⟩ := hs.awaiting t a (by rw [hpc]; rfl)
    exact (hs.orderly a).pushException hinactive hlast message
  · exact fun l value hl => hl.deliver value
  · exact fun l message hl => hl.pushError message
  · exact fun l hl => hl.read

theorem awaiting_step {e : Event τ α β} (hs : PollsOrderly s) (hok : PollsActive L s e)
    (h : Transition L s e s') {u : τ} (hu : excepted (s'.pc u) = some a) : Awaiting (s'.listener a) := by
  obtain ⟨hbefore, hother⟩ | ⟨r, p, text, as, ret, rfl, hpc, hlistener⟩ := excepted_step h hu
  · apply listener_step h (hs.awaiting u a hbefore)
    · exact fun hactivates => absurd hbefore (hok.not_excepted hactivates u)
    · exact fun l hl => ⟨rfl, hl.last⟩
    · rintro t r p value as ret rfl hpc
      have hactive : (s.listener a).isActiveZMQ = true := hok.1 t rfl a (by rw [hpc]; rfl)
      rw [(hs.awaiting u a hbefore).inactive] at hactive
      cases hactive
    · rintro t r p text as ret message rfl hpc
      have htu := hs.alone t u a (by rw [hpc]; rfl) hbefore
      exact absurd (congrArg some htu) hother
    · intro l value hl
      rwa [Listener.deliver, hl.inactive, if_neg Bool.false_ne_true]
    · intro l message hl
      rwa [Listener.pushError, hl.inactive, if_neg Bool.false_ne_true]
    · intro l hl
      unfold Listener.read
      split
      · exact hl
      · exact ⟨hl.inactive, hl.last⟩
      · exact ⟨hl.inactive, hl.last⟩
  · rw [hlistener]
    exact ⟨rfl, (hs.orderly a).active (hok.1 u rfl a (by rw [hpc]; rfl))⟩

theorem pollsOrderly_step {e : Event τ α β} (hs : PollsOrderly s) (hok : PollsActive L s e)
    (h : Transition L s e s') : PollsOrderly s' where
  orderly := orderly_step hs hok h
  awaiting _ _ hu := awaiting_step hs hok h hu
  alone t u a ht hu := by
    have apart {t u : τ} {r : Option Text} {p text : Text} {as : List α} {ret : Return β}
        (he : e = .next t r) (hpc : s.pc t = .clearIsActiveZMQ p text a as ret)
        (hu : excepted (s.pc u) = some a) : False := by
      have hactive : (s.listener a).isActiveZMQ = true := hok.1 t (by rw [he]; rfl) a (by rw [hpc]; rfl)
      rw [(hs.awaiting u a hu).inactive] at hactive
      cases hactive
    obtain ⟨ht, -⟩ | ⟨r, p, text, as, ret, he, hpc, -⟩ := excepted_step h ht
    · obtain ⟨hu, -⟩ | ⟨r, p, text, as, ret, he, hpc, -⟩ := excepted_step h hu
      · exact hs.alone t u a ht hu
      · exact (apart he hpc ht).elim
    · obtain ⟨hu, -⟩ | ⟨r', p', text', as', ret', he', hpc', -⟩ := excepted_step h hu
      · exact (apart he hpc hu).elim
      · rw [he] at he'
        cases he'
        rfl

omit [DecidableEq τ] [DecidableEq α] [DecidableEq β] in
theorem pollsOrderly_initial (backend : β → Backend.BackendState) :
    PollsOrderly (initial backend : State τ α β) where
  orderly _ := ⟨List.isChain_nil, fun h => by cases h⟩
  awaiting _ _ h := by cases h
  alone _ _ _ h := by cases h

/-- If polls push values and deactivate for exceptions only while the listener is still active, and no
listener is activated between its deactivation by a poll and the exception, nothing is ever pushed after
an exception until the listener has been activated again. -/
theorem exception_is_last {backend : β → Backend.BackendState} {es : List (Event τ α β)}
    (run : Runs.Run (step L) (PollsActive L) (initial backend) es s) (a : α) :
    ExceptionIsLast (s.listener a).history := by
  have hs : PollsOrderly s := by
    apply run.invariant (I := PollsOrderly)
    · exact fun s e s' hs hok h => pollsOrderly_step hs hok (transition_of_step h)
    · exact pollsOrderly_initial backend
  exact (hs.orderly a).exceptionIsLast

/-- One accessor of one backend. -/
def oneListener : Layout Unit Unit where
  path _ := "F/D/L/P".toList
  backend _ := ()
  queue := plainQueue

/-- A listener is activated and its initial value polled; then follow the given events. -/
def pollThen (es : List (Event Bool Unit Unit)) : List (Event Bool Unit Unit) :=
  [.call true (.subscribe () false), .call true (.data "F/D/L/P".toList 0),
    .call true (.activateAsyncRead ()), .next true none, .next true none, .next true none,
    .next true none] ++ es

/-- The connection breaks before the polled value is pushed. -/
theorem not_exception_is_last :
    ∃ s, Runs.exec (step oneListener) (initial fun _ => { opened := true })
      (pollThen [.call false (.error "F/D/L/P".toList []), .next true none]) = some s ∧
      ¬ ExceptionIsLast (s.listener ()).history :=
  ⟨_, rfl, by decide⟩

/-- The connection breaks after the polled value has been pushed. -/
theorem exception_is_last_of_pushed :
    ∃ s, Runs.exec (step oneListener) (initial fun _ => { opened := true })
      (pollThen [.next true none, .call false (.error "F/D/L/P".toList [])]) = some s ∧
      ExceptionIsLast (s.listener ()).history := by
  obtain ⟨s, hs⟩ : ∃ s, Runs.exec (step oneListener) (initial fun _ => { opened := true })
      (pollThen [.next true none, .call false (.error "F/D/L/P".toList [])]) = some s :=
    Option.isSome_iff_exists.mp rfl
  exact ⟨s, hs, exception_is_last (Runs.Along.run (by decide) hs) ()⟩

end State

end DoocsBackend.Zmq
