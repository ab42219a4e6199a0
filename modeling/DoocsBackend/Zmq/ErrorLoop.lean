import DoocsBackend.Library.Positions
import DoocsBackend.Zmq.Exceptions
import DoocsBackend.Zmq.Membership

/-! # The error loop of the callback

`zmq_callback` passes an error on to the listeners one after the other. While it informs the
backend of a listener it holds no lock, and the threads which subscribe and unsubscribe in these
windows change the vector the loop runs over. The loop keeps its position and the end it has
seen when it started.
-/
namespace DoocsBackend.Zmq
variable {τ α β : Type} [DecidableEq τ] [DecidableEq α] [DecidableEq β]

namespace State

/-- The path whose entry the thread is about to erase. -/
def erasing : Pc α β → Option Text
  | .eraseSubscription p => some p
  | _ => none

/-- The position of the vector the error loop accesses next. -/
def accessed : Pc α β → Option ℕ
  | .informRuntimeError _ _ k _ => some k
  | .errorLoop _ _ k n => if k < n then some k else none
  | _ => none

/-- Up to where the error loop has got, and the end it is heading for. -/
def progress : Pc α β → ℕ × ℕ
  | .informRuntimeError _ _ k n => (k + 1, n)
  | .errorLoop _ _ k n => (k, n)
  | _ => (0, 0)

/-- How many steps the error loop has still to take. -/
def remaining : Pc α β → ℕ
  | .informRuntimeError _ _ k n => 2 * (n - k)
  | .errorLoop _ _ k n => 2 * (n - k) + 1
  | _ => 0

/-- A call of `subscribe` or `unsubscribe` on the path, or none. -/
def InSubscription (p : Text) : Pc α β → Prop
  | .idle => True
  | .pollInitialValue q _ ret | .pushInitialValue q _ _ ret | .clearIsActiveZMQ q _ _ _ ret
  | .pushException q _ _ _ ret => q = p ∧ ret = none
  | .deactivateSubscription q | .awaitStarted q | .detach q | .eraseSubscription q => q = p
  | _ => False

/-- The error loop of the path, or nothing. -/
def InErrorLoop (p : Text) : Pc α β → Prop
  | .idle => True
  | .informRuntimeError q _ k n => q = p ∧ k < n
  | .errorLoop q _ k n => q = p ∧ k ≤ n
  | _ => False

/-- The listener which is served by the next iteration of the error loop. -/
def serving (s : State τ α β) : Event τ α β → Option α
  | .next t _ =>
    match s.pc t with
    | .errorLoop p _ k n => if k < n then (s.listenersAt p)[k]? else none
    | _ => none
  | _ => none

end State

open State

/-- The state together with the storage of the vector the loop runs over. -/
structure Looping (τ α β : Type) where
  state : State τ α β
  /-- How many listeners fit before the vector is moved to another place. -/
  capacity : ℕ
  /-- Whether the vector has been moved since the loop started. -/
  moved : Bool := false
  /-- The listener served last. -/
  served : Option α

def Looping.step (L : Layout α β) (p : Text) (u : Looping τ α β) (e : Event τ α β) :
    Option (Looping τ α β) :=
  (u.state.step L e).map fun s =>
    { state := s
      capacity := u.capacity
      moved := u.moved || decide (u.capacity < (s.listenersAt p).length)
      served := (u.state.serving e).or u.served }

theorem Looping.step_of_step {L : Layout α β} {u : Looping τ α β} {s : State τ α β}
    {e : Event τ α β} (h : u.state.step L e = some s) (p : Text) :
    ∃ v, u.step L p e = some v ∧ v.state = s ∧ v.served = (u.state.serving e).or u.served :=
  ⟨_, congrArg (Option.map _) h, rfl, rfl⟩

/-- `zmq_callback` is called with an error while nothing but calls of `subscribe` and `unsubscribe`
on its path is in progress. -/
structure ErrorCallback (τ : Type) {α β : Type} [DecidableEq τ] [DecidableEq α] [DecidableEq β]
    (L : Layout α β) where
  thread : τ
  path : Text
  text : Text
  before : State τ α β
  reachable : ∃ backend es, Runs.exec (step L) (initial backend) es = some before
  others : ∀ t, InSubscription path (before.pc t)
  /-- No poll is in the middle of a `pushError` for a listener which is to get the exception. -/
  apart : ∀ a ∈ before.listenersAt path, (before.listener a).isActiveZMQ = true →
    ∀ t, inPushError (before.pc t) ≠ some a
  idle : before.pc thread = .idle
  defined : before.undefined = false
  attached : before.attached path = true
  entry : Subscription α
  lookup : before.subscriptionMap.lookup path = some entry
  capacity : ℕ
  fits : entry.listeners.length ≤ capacity

namespace ErrorCallback
variable {L : Layout α β} (c : ErrorCallback τ L)

/-- After the first listener has been served. -/
def begun : Looping τ α β where
  state := (c.before.setSubscription c.path
    { c.entry with started := true, gotInitialValue := false }).serveError L c.thread c.path c.text 0
      c.entry.listeners.length
  capacity := c.capacity
  served := c.entry.listeners[0]?

theorem step_begun :
    c.before.step L (.call c.thread (.error c.path c.text)) = some c.begun.state := by
  simp only [step, c.defined, c.idle, call, c.attached, c.lookup, if_true]
  rfl

/-- The callback goes on, and other threads subscribe to its path and unsubscribe from it. -/
def Admits : Event τ α β → Prop
  | .call t (.subscribe a _) | .call t (.unsubscribe a) => t ≠ c.thread ∧ L.path a = c.path
  | .next _ _ => True
  | _ => False

/-- What the error loop is to achieve, in a state reached by the events. -/
structure Visits (es : List (Event τ α β)) (u : Looping τ α β) : Prop where
  /-- The loop only accesses listeners which are in the list, and hence subscribed. -/
  inside : ∀ k ∈ accessed (u.state.pc c.thread), u.moved = false ∧
    ∃ a, (u.state.listenersAt c.path)[k]? = some a ∧ (u.state.lastCall a).isEntered = true
  /-- The backend informed is that of the listener just served. -/
  informs : ∀ p text k n, u.state.pc c.thread = .informRuntimeError p text k n →
    (u.state.listenersAt c.path)[k]? = u.served
  /-- When the loop is over, every listener which was active has got one exception. -/
  visited : accessed (u.state.pc c.thread) = none →
    ∀ a ∈ c.before.listenersAt c.path, (c.before.listener a).isActiveZMQ = true →
      (∀ e ∈ es, e.unsubscriber? ≠ some a) →
      (u.state.listener a).exceptions = (c.before.listener a).exceptions + 1
  /-- The loop comes to its end. -/
  proceeds : (accessed (u.state.pc c.thread)).isSome → ∀ r, ∃ v,
    u.step L c.path (.next c.thread r) = some v ∧
      remaining (v.state.pc c.thread) < remaining (u.state.pc c.thread)

/-- While the loop has positions to access, nobody moves the vector, takes a listener out of the
part which has been visited, leaves fewer listeners than there were in the beginning, or erases the
subscription. For none of the listeners which were active then a `pushError` begins in the middle of
another one. -/
def Harmless (u : Looping τ α β) (e : Event τ α β) : Prop :=
  (∀ a ∈ c.before.listenersAt c.path, (c.before.listener a).isActiveZMQ = true →
    PushesApart L a u.state e) ∧ ((accessed (u.state.pc c.thread)).isSome →
    (∀ a ∈ e.subscriber?, (u.state.listenersAt c.path).length < u.capacity) ∧
    (∀ a ∈ e.unsubscriber?, a ∈ u.state.listenersAt c.path →
      a ∉ (u.state.listenersAt c.path).take (progress (u.state.pc c.thread)).1 ∧
        (progress (u.state.pc c.thread)).2 < (u.state.listenersAt c.path).length) ∧
    ∀ t ∈ e.thread?, erasing (u.state.pc t) ≠ some c.path)

instance [Fintype τ] (u : Looping τ α β) (e : Event τ α β) : Decidable (c.Harmless u e) :=
  inferInstanceAs (Decidable (_ ∧ (_ → _ ∧ _ ∧ _)))

variable {c} {s' : State τ α β} {u v : Looping τ α β} {e : Event τ α β}

omit [DecidableEq β] in
theorem undefined_subscribe {s : State τ α β} {t : τ} {a : α} {attachFails : Bool}
    (h : s.subscribe L t a attachFails = some s') : s'.undefined = s.undefined := by
  unfold subscribe at h
  repeat' split at h
  all_goals cases h
  all_goals rfl

omit [DecidableEq β] in
theorem undefined_unsubscribe {s : State τ α β} {t : τ} {a : α}
    (h : s.unsubscribe L t a = some s') : s'.undefined = s.undefined := by
  unfold unsubscribe at h
  repeat' split at h
  all_goals cases h
  all_goals rfl

/-- Only an accessor which is not entered can subscribe. -/
theorem not_entered_of_subscriber {s : State τ α β} {a : α} (h : s.step L e = some s')
    (he : e.subscriber? = some a) : (s.lastCall a).isEntered = false := by
  cases e with
  | call t call =>
    simp only [step] at h
    split at h
    · cases call with
      | subscribe b attachFails =>
        cases he
        simp only [State.call, subscribe] at h
        split at h
        · cases h
        · rename_i hguard
          rw [not_or, not_or] at hguard
          cases hcall : s.lastCall a with
          | never | unsubscribed => rfl
          | subscribed => exact absurd hcall hguard.2.1
          | subscribeFailed => exact absurd hcall hguard.2.2
      | _ => cases he
    · cases h
  | _ => cases he

/-- A call of `subscribe` or `unsubscribe` on the path goes on, or ends. -/
theorem inSubscription_step {s : State τ α β} {t : τ} (h : Transition L s e s') (hadmits : c.Admits e)
    (ht : e.actor? = some t) (hpc : InSubscription c.path (s.pc t)) :
    InSubscription c.path (s'.pc t) := by
  have hstays {s₁ : State τ α β} {pc : Pc α β} (hgoto : InSubscription c.path pc) :
      InSubscription c.path ((s₁.goto t pc).pc t) := by
    rw [goto_pc, Function.update_self]
    exact hgoto
  cases h with
  | subscribeFails | unsubscribeIgnored | dangling | eraseMissing => exact hpc
  | subscribeNew =>
    cases ht
    exact hstays trivial
  | subscribeJoins =>
    cases ht
    refine hstays ?_
    split
    · exact ⟨hadmits.2, rfl⟩
    · trivial
  | unsubscribeLeaves =>
    cases ht
    refine hstays ?_
    split
    · exact hadmits.2
    · trivial
  | eraseSubscription =>
    cases ht
    exact hstays trivial
  | pushDone hat =>
    cases ht
    rw [hat] at hpc
    obtain ⟨-, rfl⟩ := hpc
    exact hstays trivial
  | deactivateInactive hat | deactivateActive hat | deactivateWaits hat | awaitStarted hat | detach hat
  | poll hat | pushPolled hat | pushErrorIgnored hat | pushErrorChecked hat | clearIsActiveZMQ hat
  | pushException hat =>
    cases ht
    rw [hat] at hpc
    exact hstays hpc
  | activateIgnored | activateChecked | close | openFails | openSucceeds | setException | data
  | error => exact hadmits.elim
  | publish | read => cases ht
  | exchangeSet hat | exchangeUnset hat | activateAllListeners hat | activateDone hat
  | activateSkips hat | activateListeners hat | clearOpened hat | clearAsyncRead hat
  | clearLastFailedAddress hat | setExceptionImpl hat | pushExceptions hat | pushExceptionsDone hat
  | pushExceptionsAt hat | informRuntimeError hat | informMissing hat | errorLoop hat =>
    cases ht
    rw [hat] at hpc
    exact hpc.elim

theorem undefined_eq {s : State τ α β} {t : τ} (h : s.step L e = some s') (hadmits : c.Admits e)
    (ht : e.actor? = some t) (hpc : InSubscription c.path (s.pc t))
    (herasing : ∀ t ∈ e.thread?, erasing (s.pc t) ≠ some c.path) : s'.undefined = s.undefined := by
  cases e with
  | call u call =>
    simp only [step] at h
    split at h
    · cases call with
      | subscribe a attachFails => exact undefined_subscribe h
      | unsubscribe a => exact undefined_unsubscribe h
      | _ => exact hadmits.elim
    · cases h
  | next u r =>
    cases ht
    cases transition_of_step h with
    | eraseMissing hat =>
      have hne := herasing t rfl
      rw [hat] at hpc hne
      cases hpc
      exact absurd rfl hne
    | errorLoop hat | informMissing hat =>
      rw [hat] at hpc
      exact hpc.elim
    | _ => rfl
  | publish p => exact hadmits.elim
  | read a => exact hadmits.elim

/-- What the other threads do to the list does not disturb the loop if it is harmless. -/
theorem steady {s : State τ α β} {m n capacity : ℕ} (hs : AtMostOnce L s)
    (h : Transition L s e s') (hadmits : c.Admits e) (hm : m ≤ n)
    (hn : n ≤ (s.listenersAt c.path).length) (hfits : (s.listenersAt c.path).length ≤ capacity)
    (hjoins : ∀ a ∈ e.subscriber?, (s.listenersAt c.path).length < capacity)
    (hleaves : ∀ a ∈ e.unsubscriber?, a ∈ s.listenersAt c.path →
      a ∉ (s.listenersAt c.path).take m ∧ n < (s.listenersAt c.path).length)
    (herasing : ∀ t ∈ e.thread?, erasing (s.pc t) ≠ some c.path) :
    Positions.Steady m n e.unsubscriber? (s.listenersAt c.path) (s'.listenersAt c.path) ∧
      (s'.listenersAt c.path).length ≤ capacity := by
  cases listChange h with
  | kept lists =>
    rw [lists]
    exact ⟨.refl hn, hfits⟩
  | @enters t a attachFails call before after lists =>
    rw [lists, hadmits.2, Function.update_self]
    refine ⟨.append hn hm _, ?_⟩
    rw [List.length_append]
    exact hjoins a rfl
  | @leaves t a left hleft lists =>
    have hp : L.path a = c.path := hadmits.2
    rw [lists, hp, Function.update_self]
    subst hleft
    split
    · rename_i hmem
      obtain ⟨hnot, hlt⟩ := hleaves a rfl (hp ▸ hmem)
      have hlen := length_eraseRemoved hmem
      rw [hs.eraseRemoved_eq hmem, hp] at hlen ⊢
      exact ⟨.remove hm (by omega) hnot, by omega⟩
    · rw [hp]
      exact ⟨.refl hn, hfits⟩
  | @erased t r p hpc lists =>
    have hne : c.path ≠ p := by
      rintro rfl
      exact herasing t rfl (by rw [hpc]; rfl)
    rw [lists, Function.update_of_ne hne]
    exact ⟨.refl hn, hfits⟩

/-- The loop is on its way: it is in the list, and those of the listeners it has to serve which have
not got their exception are waiting ahead of it. -/
structure InLoop (c : ErrorCallback τ L) (watched : α → Prop) (u : Looping τ α β) : Prop where
  placed : Placed L u.state
  once : AtMostOnce L u.state
  others : ∀ t, t ≠ c.thread → InSubscription c.path (u.state.pc t)
  loop : InErrorLoop c.path (u.state.pc c.thread)
  sound : (accessed (u.state.pc c.thread)).isSome →
    (progress (u.state.pc c.thread)).2 ≤ (u.state.listenersAt c.path).length ∧
      (u.state.listenersAt c.path).length ≤ u.capacity ∧ u.moved = false ∧
      u.state.undefined = false
  informs : ∀ p text k n, u.state.pc c.thread = .informRuntimeError p text k n →
    (u.state.listenersAt c.path)[k]? = u.served
  entered : ∀ a, watched a → (u.state.lastCall a).isEntered = true
  due : ∀ a, watched a → ExceptionDue u.state a ((c.before.listener a).exceptions + 1)
  waiting : ∀ a, watched a → (u.state.listener a).exceptions = (c.before.listener a).exceptions →
    ∃ j, (progress (u.state.pc c.thread)).1 ≤ j ∧ j < (progress (u.state.pc c.thread)).2 ∧
      (u.state.listenersAt c.path)[j]? = some a

section
omit [DecidableEq α] [DecidableEq β]

theorem progress_le {p : Text} {pc : Pc α β} (h : InErrorLoop p pc) :
    (progress pc).1 ≤ (progress pc).2 := by
  cases pc with
  | informRuntimeError q text k n => exact h.2
  | errorLoop q text k n => exact h.2
  | _ => exact le_rfl

theorem lt_end_of_accessed {pc : Pc α β} {p : Text} {k : ℕ} (h : InErrorLoop p pc)
    (hk : accessed pc = some k) : k < (progress pc).2 := by
  cases pc with
  | informRuntimeError q text i n =>
    cases hk
    exact h.2
  | errorLoop q text i n =>
    rw [accessed] at hk
    split at hk
    · rename_i hlt
      cases hk
      exact hlt
    · cases hk
  | _ => cases hk

theorem le_progress {pc : Pc α β} {p : Text} (h : InErrorLoop p pc) (hnone : accessed pc = none) :
    (progress pc).2 ≤ (progress pc).1 := by
  cases pc with
  | informRuntimeError q text k n => cases hnone
  | errorLoop q text k n =>
    have hle : ¬ k < n := by
      intro hlt
      rw [accessed, if_pos hlt] at hnone
      cases hnone
    exact not_lt.mp hle
  | _ => exact le_rfl

end

omit [DecidableEq τ] [DecidableEq α] in
/-- Neither the loop nor a call of `subscribe` or `unsubscribe` activates listeners it visits. -/
theorem visited_eq_nil {s : State τ α β} {p : Text} {pc : Pc α β}
    (h : InSubscription p pc ∨ InErrorLoop p pc) : s.visited L pc = [] := by
  cases pc with
  | activateListeners b todo => exact (h.elim id id).elim
  | _ => rfl

namespace InLoop
variable {watched : α → Prop}

/-- Whoever takes a step does not activate a listener the loop has to serve. -/
theorem exceptionStep (hu : InLoop c watched u) (hs : u.state.step L e = some s')
    (hadmits : c.Admits e) {a : α} (ha : watched a) : ExceptionStep L u.state s' e a := by
  refine .of_transition (transition_of_step hs) ?_ ?_
  · rintro (hsubscriber | ⟨t, -, hvisited⟩)
    · have hentered := hu.entered a ha
      rw [not_entered_of_subscriber hs hsubscriber] at hentered
      cases hentered
    · have hplace : InSubscription c.path (u.state.pc t) ∨ InErrorLoop c.path (u.state.pc t) := by
        by_cases ht : t = c.thread
        · rw [ht]
          exact .inr hu.loop
        · exact .inl (hu.others t ht)
      rw [visited_eq_nil hplace] at hvisited
      cases hvisited
  · rintro t b rfl
    exact hadmits.elim

theorem due_step (hu : InLoop c watched u) (hs : u.state.step L e = some s') (hadmits : c.Admits e)
    (hok : ∀ a, watched a → PushesApart L a u.state e) (a : α) (ha : watched a) :
    ExceptionDue s' a ((c.before.listener a).exceptions + 1) :=
  (hu.due a ha).step (hok a ha) (hu.exceptionStep hs hadmits ha)

/-- Whoever has not got the exception after a step has not got it before. -/
theorem exceptions_before (hu : InLoop c watched u) (hs : u.state.step L e = some s')
    (hadmits : c.Admits e) {a : α} (ha : watched a)
    (h : (s'.listener a).exceptions = (c.before.listener a).exceptions) :
    (u.state.listener a).exceptions = (c.before.listener a).exceptions := by
  have hle := (hu.exceptionStep hs hadmits ha).exceptions_le
  have hdue := (hu.due a ha).total_le
  omega

/-- Another thread takes a harmless step. -/
theorem step_other (hu : InLoop c watched u) {t : τ} (h : u.step L c.path e = some v)
    (hadmits : c.Admits e) (hharmless : c.Harmless u e)
    (hok : ∀ a, watched a → PushesApart L a u.state e)
    (hwatched : ∀ a, watched a → e.unsubscriber? ≠ some a) (ht : e.actor? = some t)
    (hne : t ≠ c.thread) : InLoop c watched v := by
  obtain ⟨s', hs, rfl⟩ := Option.map_eq_some_iff.mp h
  have htransition := transition_of_step hs
  have hpc : s'.pc c.thread = u.state.pc c.thread :=
    pc_of_ne htransition (by rw [ht]; exact fun h => hne (Option.some.inj h))
  have hserving : u.state.serving e = none := by
    cases e with
    | next t' r =>
      cases ht
      have hplace := hu.others t hne
      cases hat : u.state.pc t with
      | errorLoop q text k n =>
        rw [hat] at hplace
        exact hplace.elim
      | _ =>
        rw [serving, hat]
    | _ => rfl
  have hsteady (hsome : (accessed (u.state.pc c.thread)).isSome) :
      Positions.Steady (progress (u.state.pc c.thread)).1 (progress (u.state.pc c.thread)).2
        e.unsubscriber? (u.state.listenersAt c.path) (s'.listenersAt c.path) ∧
      (s'.listenersAt c.path).length ≤ u.capacity := by
    obtain ⟨hlong, hfits, -⟩ := hu.sound hsome
    obtain ⟨hjoins, hleaves, herasing⟩ := hharmless.2 hsome
    exact steady hu.once htransition hadmits (progress_le hu.loop) hlong hfits hjoins hleaves
      herasing
  constructor
  · exact placed_step hu.placed htransition
  · exact atMostOnce_step hu.once htransition
  · intro w hw
    by_cases hwt : w = t
    · subst hwt
      exact inSubscription_step htransition hadmits ht (hu.others w hw)
    · rw [pc_of_ne htransition (by rw [ht]; exact fun h => hwt (Option.some.inj h).symm)]
      exact hu.others w hw
  · rw [hpc]
    exact hu.loop
  · rw [hpc]
    intro hsome
    obtain ⟨-, -, hmoved, hdefined⟩ := hu.sound hsome
    obtain ⟨hlists, hfits⟩ := hsteady hsome
    refine ⟨hlists.long, hfits, ?_, ?_⟩
    · simp [hmoved, hfits]
    · exact (undefined_eq hs hadmits ht (hu.others t hne) (hharmless.2 hsome).2.2).trans hdefined
  · intro p text k n hat
    rw [hpc] at hat
    have hsome : (accessed (u.state.pc c.thread)).isSome := by rw [hat]; rfl
    rw [(hsteady hsome).1.visited k (by rw [hat]; exact Nat.lt_succ_self k), hserving]
    exact hu.informs p text k n hat
  · intro a ha
    exact entered_step htransition (hwatched a ha) (hu.entered a ha)
  · exact hu.due_step hs hadmits hok
  · intro a ha hexceptions
    rw [hpc]
    obtain ⟨j, hmj, hjn, hj⟩ :=
      hu.waiting a ha (hu.exceptions_before hs hadmits ha hexceptions)
    cases haccessed : accessed (u.state.pc c.thread) with
    | none =>
      have hle := le_progress hu.loop haccessed
      omega
    | some k =>
      exact (hsteady (by rw [haccessed]; rfl)).1.waiting j a hmj hjn hj (hwatched a ha)

/-- The loop takes a step itself. It keeps the list, and passes over no listener which has not got the
exception. -/
theorem moves (hu : InLoop c watched u) {r : Option Text} {pc : Pc α β}
    (h : u.step L c.path (.next c.thread r) = some v) (hpc : v.state.pc c.thread = pc)
    (hok : ∀ a, watched a → PushesApart L a u.state (.next c.thread r))
    (hlists : v.state.listenersAt = u.state.listenersAt)
    (hcalls : v.state.lastCall = u.state.lastCall)
    (hdefined : v.state.undefined = u.state.undefined) (hloop : InErrorLoop c.path pc)
    (hsome : (accessed pc).isSome → (accessed (u.state.pc c.thread)).isSome)
    (hend : (accessed pc).isSome → (progress pc).2 = (progress (u.state.pc c.thread)).2)
    (hinforms : ∀ p text k n, pc = .informRuntimeError p text k n →
      (u.state.listenersAt c.path)[k]? = v.served)
    (hahead : ∀ a j, watched a → ExceptionDue v.state a ((c.before.listener a).exceptions + 1) →
      (v.state.listener a).exceptions = (c.before.listener a).exceptions →
      (progress (u.state.pc c.thread)).1 ≤ j → j < (progress (u.state.pc c.thread)).2 →
      (u.state.listenersAt c.path)[j]? = some a → (progress pc).1 ≤ j ∧ j < (progress pc).2) :
    InLoop c watched v := by
  obtain ⟨s', hs, rfl⟩ := Option.map_eq_some_iff.mp h
  have htransition := transition_of_step hs
  have hdue := hu.due_step hs trivial hok
  subst hpc
  constructor
  · exact placed_step hu.placed htransition
  · exact atMostOnce_step hu.once htransition
  · intro t ht
    rw [pc_of_ne htransition fun ha => ht (Option.some.inj ha).symm]
    exact hu.others t ht
  · exact hloop
  · intro haccessed
    obtain ⟨hlong, hfits, hmoved, hundefined⟩ := hu.sound (hsome haccessed)
    dsimp only at hlists hdefined
    rw [hend haccessed, hlists, hdefined]
    refine ⟨hlong, hfits, ?_, hundefined⟩
    rw [hmoved, Bool.false_or, decide_eq_false_iff_not]
    exact not_lt.mpr hfits
  · rw [hlists]
    exact hinforms
  · rw [hcalls]
    exact hu.entered
  · exact hdue
  · intro a ha hexceptions
    obtain ⟨j, hmj, hjn, hj⟩ := hu.waiting a ha (hu.exceptions_before hs trivial ha hexceptions)
    obtain ⟨hmj', hjn'⟩ := hahead a j ha (hdue a ha) hexceptions hmj hjn hj
    rw [hlists]
    exact ⟨j, hmj', hjn', hj⟩

/-- The loop goes on to the next listener. -/
theorem step_inform (hu : InLoop c watched u) {r : Option Text} {p text : Text} {k n : ℕ}
    (hat : u.state.pc c.thread = .informRuntimeError p text k n) :
    ∃ v, u.step L c.path (.next c.thread r) = some v ∧
      v.state.pc c.thread = .errorLoop p text (k + 1) n ∧ InLoop c watched v := by
  have hsome : (accessed (u.state.pc c.thread)).isSome := by rw [hat]; rfl
  have hloop := hu.loop
  obtain ⟨hlong, -, -, hdefined⟩ := hu.sound hsome
  rw [hat] at hloop hlong
  obtain ⟨rfl, hk⟩ := hloop
  obtain ⟨a, ha⟩ : ∃ a, (u.state.listenersAt c.path)[k]? = some a :=
    ⟨_, List.getElem?_eq_getElem (hk.trans_le hlong)⟩
  have hstep : u.state.step L (.next c.thread r) = some
      ((u.state.setBackend (L.backend a) ((u.state.backend (L.backend a)).informRuntimeError
        (L.path a))).goto c.thread (.errorLoop c.path text (k + 1) n)) := by
    rw [step, hdefined, hat, if_neg Bool.false_ne_true, advance, ha]
  obtain ⟨v, hv, hstate, -⟩ := Looping.step_of_step hstep c.path
  have hpc : v.state.pc c.thread = .errorLoop c.path text (k + 1) n := by
    rw [hstate, goto_pc, Function.update_self]
  refine ⟨v, hv, hpc, hu.moves hv hpc ?_ ?_ ?_ ?_ ⟨rfl, hk⟩ (fun _ => hsome) (fun _ => ?_) ?_ ?_⟩
  · intro b _ htested
    rw [tests, hat] at htested
    cases htested
  · rw [hstate]
    rfl
  · rw [hstate]
    rfl
  · rw [hstate]
    rfl
  · rw [hat]
    rfl
  · intro p text k n hq
    cases hq
  · intro b j _ _ _ hmj hjn _
    rw [hat] at hmj hjn
    exact ⟨hmj, hjn⟩

/-- The loop pushes the exception to a listener. -/
theorem step_serve (hu : InLoop c watched u) {r : Option Text} {p text : Text} {k n : ℕ}
    (hat : u.state.pc c.thread = .errorLoop p text k n) (hk : k < n) :
    ∃ v, u.step L c.path (.next c.thread r) = some v ∧
      v.state.pc c.thread = .informRuntimeError p text k n ∧
      ((∀ a, watched a → PushesApart L a u.state (.next c.thread r)) → InLoop c watched v) := by
  have hsome : (accessed (u.state.pc c.thread)).isSome := by
    rw [hat, accessed, if_pos hk]
    rfl
  have hloop := hu.loop
  obtain ⟨hlong, -, -, hdefined⟩ := hu.sound hsome
  rw [hat] at hloop hlong
  obtain ⟨rfl, -⟩ := hloop
  have hk' : k < (u.state.listenersAt c.path).length := hk.trans_le hlong
  obtain ⟨a, ha⟩ : ∃ a, (u.state.listenersAt c.path)[k]? = some a :=
    ⟨_, List.getElem?_eq_getElem hk'⟩
  have hstep : u.state.step L (.next c.thread r) = some
      ((u.state.eachListener [a] (Listener.pushError L.queue
        ("ZeroMQ connection interrupted: ".toList ++ text))).goto c.thread
          (.informRuntimeError c.path text k n)) := by
    rw [step, hdefined, hat, if_neg Bool.false_ne_true, advance, serveError, if_pos hk, ha]
  obtain ⟨v, hv, hstate, hserved⟩ := Looping.step_of_step hstep c.path
  have hpc : v.state.pc c.thread = .informRuntimeError c.path text k n := by
    rw [hstate, goto_pc, Function.update_self]
  refine ⟨v, hv, hpc, fun hok => hu.moves hv hpc hok ?_ ?_ ?_ ⟨rfl, hk⟩ (fun _ => hsome) (fun _ => ?_)
    ?_ ?_⟩
  · rw [hstate]
    rfl
  · rw [hstate]
    rfl
  · rw [hstate]
    rfl
  · rw [hat]
    rfl
  · intro p text k n hq
    cases hq
    simp only [hserved, serving, hat, if_pos hk, ha, Option.some_or]
  · intro b j hb hdue hexceptions hmj hjn hj
    rw [hat] at hmj hjn
    refine ⟨lt_of_le_of_ne hmj ?_, hjn⟩
    rintro rfl
    obtain rfl : a = b := Option.some.inj (ha.symm.trans hj)
    -- the listener has just been served
    have hinactive : (v.state.listener a).isActiveZMQ = false := by
      rw [hstate, goto_listener, eachListener_listener,
        Each.each_of_mem (List.nodup_singleton a) (List.mem_singleton_self a)]
      exact Listener.pushError_isActiveZMQ _ _ _
    have hnone (t : τ) : inPushError (v.state.pc t) ≠ some a := by
      intro ht
      rw [hstate, goto_pc] at ht
      by_cases hut : t = c.thread
      · rw [hut, Function.update_self] at ht
        cases ht
      · rw [Function.update_of_ne hut] at ht
        refine hok a hb ?_ t ht
        rw [tests, hat, tested, if_pos hk, ha]
        exact List.mem_singleton_self a
    have htotal := hdue.exceptions_eq hinactive hnone
    omega

/-- The loop has come to its end. -/
theorem step_end (hu : InLoop c watched u) {r : Option Text} {p text : Text} {k n : ℕ}
    (h : u.step L c.path (.next c.thread r) = some v)
    (hat : u.state.pc c.thread = .errorLoop p text k n) (hk : ¬ k < n) : InLoop c watched v := by
  obtain ⟨s', hs, rfl⟩ := Option.map_eq_some_iff.mp h
  have hstate : s' = u.state.goto c.thread .idle := by
    simp only [step, hat, advance, serveError, if_neg hk] at hs
    split at hs
    · cases hs
    · exact (Option.some.inj hs).symm
  subst hstate
  have hpc : (u.state.goto c.thread .idle).pc c.thread = .idle := by
    rw [goto_pc, Function.update_self]
  refine hu.moves h hpc ?_ rfl rfl rfl trivial (fun h => ?_) (fun h => ?_) ?_ ?_
  · intro a _ htested
    rw [tests, hat, tested, if_neg hk] at htested
    cases htested
  · cases h
  · cases h
  · intro p text k n hq
    cases hq
  · intro a j _ _ _ hmj hjn _
    rw [hat] at hmj hjn
    exact absurd (hmj.trans_lt hjn) hk

theorem step_loop (hu : InLoop c watched u) {r : Option Text}
    (h : u.step L c.path (.next c.thread r) = some v)
    (hok : ∀ a, watched a → PushesApart L a u.state (.next c.thread r)) : InLoop c watched v := by
  have hloop := hu.loop
  cases hat : u.state.pc c.thread with
  | idle =>
    obtain ⟨s', hs, -⟩ := Option.map_eq_some_iff.mp h
    simp [step, hat, advance] at hs
  | informRuntimeError p text k n =>
    obtain ⟨w, hw, -, hnext⟩ := hu.step_inform (r := r) hat
    rw [h] at hw
    cases hw
    exact hnext
  | errorLoop p text k n =>
    by_cases hk : k < n
    · obtain ⟨w, hw, -, hnext⟩ := hu.step_serve (r := r) hat hk
      rw [h] at hw
      cases hw
      exact hnext hok
    · exact hu.step_end h hat hk
  | _ =>
    rw [hat] at hloop
    exact hloop.elim

/-- Every step that is harmless keeps the loop on its way. -/
theorem step (hu : InLoop c watched u) (h : u.step L c.path e = some v) (hadmits : c.Admits e)
    (hharmless : c.Harmless u e) (hok : ∀ a, watched a → PushesApart L a u.state e)
    (hwatched : ∀ a, watched a → e.unsubscriber? ≠ some a) : InLoop c watched v := by
  cases e with
  | call t call =>
    have ht : t ≠ c.thread := by
      cases call with
      | subscribe a attachFails => exact hadmits.1
      | unsubscribe a => exact hadmits.1
      | _ => exact hadmits.elim
    exact hu.step_other h hadmits hharmless hok hwatched rfl ht
  | next t r =>
    by_cases ht : t = c.thread
    · subst ht
      exact hu.step_loop h hok
    · exact hu.step_other h hadmits hharmless hok hwatched rfl ht
  | publish p => exact hadmits.elim
  | read a => exact hadmits.elim

end InLoop

/-- The listeners which are to get the exception. -/
def Watched (c : ErrorCallback τ L) (es : List (Event τ α β)) (a : α) : Prop :=
  a ∈ c.before.listenersAt c.path ∧ (c.before.listener a).isActiveZMQ = true ∧
    ∀ e ∈ es, e.unsubscriber? ≠ some a

/-- The callback before it has looked at the list. -/
def entering (c : ErrorCallback τ L) : Looping τ α β where
  state := (c.before.setSubscription c.path
    { c.entry with started := true, gotInitialValue := false }).goto c.thread
      (.errorLoop c.path c.text 0 c.entry.listeners.length)
  capacity := c.capacity
  served := none

omit [DecidableEq β] in
theorem serveError_goto {s : State τ α β} {t : τ} {p text : Text} {k n : ℕ} {pc : Pc α β}
    (h : n ≤ (s.listenersAt p).length) :
    (s.goto t pc).serveError L t p text k n = s.serveError L t p text k n := by
  unfold serveError
  split
  · rename_i hk
    rw [show (s.goto t pc).listenersAt p = s.listenersAt p from rfl,
      List.getElem?_eq_getElem (hk.trans_le h)]
    simp [goto, eachListener, Function.update_idem]
  · simp [goto, Function.update_idem]

theorem entering_lists : c.entering.state.listenersAt = c.before.listenersAt :=
  listenersAt_setSubscription_of_eq (listenersAt_of_lookup c.lookup).symm

theorem entering_pc : c.entering.state.pc c.thread =
    .errorLoop c.path c.text 0 c.entry.listeners.length := by
  rw [entering, goto_pc, Function.update_self]

theorem step_entering : c.entering.step L c.path (.next c.thread none) = some c.begun := by
  have hserve : c.entering.state.step L (.next c.thread none) = some c.begun.state := by
    rw [State.step, show c.entering.state.undefined = false from c.defined,
      if_neg Bool.false_ne_true, entering_pc, advance]
    refine congrArg some (serveError_goto ?_)
    rw [listenersAt_of_lookup (AList.lookup_insert _)]
  have hmoved : decide (c.capacity < (c.begun.state.listenersAt c.path).length) = false := by
    rw [decide_eq_false_iff_not, not_lt, begun, serveError_listenersAt,
      listenersAt_of_lookup (AList.lookup_insert _)]
    exact c.fits
  have hserved : c.entering.state.serving (.next c.thread none) = c.entry.listeners[0]? := by
    simp only [serving, entering_pc, entering_lists, listenersAt_of_lookup c.lookup]
    cases c.entry.listeners <;> rfl
  rw [Looping.step, hserve, Option.map_some]
  apply congrArg some
  rw [show c.entering.capacity = c.capacity from rfl, hmoved, hserved,
    show c.entering.served = none from rfl, Option.or_none]
  rfl

theorem before_invariants : Placed L c.before ∧ AtMostOnce L c.before := by
  obtain ⟨backend, es, hexec⟩ := c.reachable
  have run : Runs.Run (step L) (fun _ _ => True) (initial backend) es c.before :=
    Runs.Run.of_exec hexec fun _ _ => trivial
  exact run.invariant (I := fun s => Placed L s ∧ AtMostOnce L s)
    (fun s e t hs _ h => ⟨placed_step hs.1 (transition_of_step h),
      atMostOnce_step hs.2 (transition_of_step h)⟩)
    ⟨placed_initial backend, atMostOnce_initial backend⟩

theorem inPushError_entering {a : α} (ha : a ∈ c.before.listenersAt c.path)
    (hactive : (c.before.listener a).isActiveZMQ = true) (t : τ) :
    inPushError (c.entering.state.pc t) ≠ some a := by
  by_cases ht : t = c.thread
  · rw [ht, entering_pc]
    nofun
  · rw [entering, goto_pc, Function.update_of_ne ht]
    exact c.apart a ha hactive t

theorem inLoop_entering (es : List (Event τ α β)) : InLoop c (c.Watched es) c.entering where
  placed p a ha := by
    rw [entering_lists] at ha
    exact before_invariants.1 p a ha
  once a := by
    rw [entering_lists]
    exact before_invariants.2 a
  others t ht := by
    rw [entering, goto_pc, Function.update_of_ne ht]
    exact c.others t
  loop := by
    rw [entering_pc]
    exact ⟨rfl, Nat.zero_le _⟩
  sound _ := by
    rw [entering_pc, entering_lists, listenersAt_of_lookup c.lookup]
    exact ⟨le_rfl, c.fits, rfl, c.defined⟩
  informs p text k n hat := by
    rw [entering_pc] at hat
    cases hat
  entered a ha := by
    have hp : L.path a = c.path := before_invariants.1 c.path a ha.1
    exact before_invariants.2.entered (hp ▸ ha.1)
  due a ha := by
    refine .settled ?_ (inPushError_entering ha.1 ha.2.1)
    rw [show (c.entering.state.listener a) = c.before.listener a from rfl, Listener.balance, ha.2.1]
    rfl
  waiting a ha _ := by
    obtain ⟨j, hj, hget⟩ := List.getElem_of_mem ha.1
    rw [entering_pc, entering_lists]
    refine ⟨j, Nat.zero_le j, ?_, ?_⟩
    · rwa [listenersAt_of_lookup c.lookup] at hj
    · rw [List.getElem?_eq_getElem hj, hget]

theorem inLoop_begun (es : List (Event τ α β)) : InLoop c (c.Watched es) c.begun :=
  (inLoop_entering es).step_loop step_entering fun _ ha _ => inPushError_entering ha.1 ha.2.1

theorem visits_of_inLoop {es : List (Event τ α β)} (hu : InLoop c (c.Watched es) u) :
    c.Visits es u where
  inside k hk := by
    have hsome : (accessed (u.state.pc c.thread)).isSome := by rw [hk]; rfl
    obtain ⟨hlong, -, hmoved, -⟩ := hu.sound hsome
    have hk' : k < (u.state.listenersAt c.path).length :=
      (lt_end_of_accessed hu.loop hk).trans_le hlong
    refine ⟨hmoved, _, List.getElem?_eq_getElem hk', ?_⟩
    have hmem := List.getElem_mem hk'
    have hp : L.path _ = c.path := hu.placed c.path _ hmem
    exact hu.once.entered (hp.symm ▸ hmem)
  informs := hu.informs
  visited hnone a hmem hactive hstays := by
    have hwatched : c.Watched es a := ⟨hmem, hactive, hstays⟩
    have hmany := (hu.due a hwatched).le_total
    have hfew := (hu.due a hwatched).total_le
    by_contra hne
    obtain ⟨j, hmj, hjn, -⟩ := hu.waiting a hwatched (by omega)
    have hle := le_progress hu.loop hnone
    omega
  proceeds hsome r := by
    cases hat : u.state.pc c.thread with
    | informRuntimeError p text k n =>
      obtain ⟨v, hv, hpc, -⟩ := hu.step_inform (r := r) hat
      have hloop := hu.loop
      rw [hat] at hloop
      refine ⟨v, hv, ?_⟩
      rw [hpc, remaining, remaining]
      have hk := hloop.2
      omega
    | errorLoop p text k n =>
      have hk : k < n := by
        by_contra hk
        rw [hat, accessed, if_neg hk] at hsome
        cases hsome
      obtain ⟨v, hv, hpc, -⟩ := hu.step_serve (r := r) hat hk
      refine ⟨v, hv, ?_⟩
      rw [hpc, remaining, remaining]
      omega
    | _ =>
      rw [hat] at hsome
      cases hsome

/-- In a run in which the other threads do no harm to the loop, it visits every listener. -/
theorem error_loop_visits {es : List (Event τ α β)} (hadmits : ∀ e ∈ es, c.Admits e)
    (run : Runs.Run (Looping.step L c.path) c.Harmless c.begun es u) : c.Visits es u := by
  have hlabels : ∀ e ∈ es, c.Admits e ∧ ∀ a, c.Watched es a → e.unsubscriber? ≠ some a :=
    fun e he => ⟨hadmits e he, fun a ha => ha.2.2 e he⟩
  exact visits_of_inLoop ((run.with_labels hlabels).invariant
    (fun _ _ _ hu hok h => hu.step h hok.2.1 hok.1 (fun a ha => hok.1.1 a ha.1 ha.2.1) hok.2.2)
    (inLoop_begun es))

/-- Accessors of one path which have subscribed one after the other and are active. -/
def subscribed (as : List Bool) : Option (State Bool Bool Unit) :=
  Runs.exec (State.step onePath) (initial fun _ => { opened := true, asyncReadActivated := true })
    (as.map fun a => .call false (.subscribe a false))

/-- The error callback for two active listeners. -/
def forBoth : ErrorCallback Bool onePath where
  thread := true
  path := "F/D/L/P".toList
  text := "E".toList
  before := (subscribed [true, false]).get rfl
  reachable := ⟨_, _, (Option.some_get _).symm⟩
  others := by rintro (_ | _) <;> exact trivial
  apart := by rintro a - - (_ | _) <;> nofun
  idle := rfl
  defined := rfl
  attached := rfl
  entry := { listeners := [true, false], active := true }
  lookup := rfl
  capacity := 2
  fits := le_rfl

/-- The first listener unsubscribes while its backend is informed. -/
def leavesWindow : List (Event Bool Bool Unit) := [.call false (.unsubscribe true), .next true none]

theorem error_loop_overruns :
    ∃ u, Runs.exec (Looping.step onePath forBoth.path) forBoth.begun leavesWindow = some u ∧
      (∀ e ∈ leavesWindow, forBoth.Admits e) ∧ ¬ forBoth.Visits leavesWindow u := by
  refine ⟨_, rfl, ?_, fun h => ?_⟩
  · rintro e he
    simp only [leavesWindow, List.mem_cons, List.not_mem_nil, or_false] at he
    obtain rfl | rfl := he
    · exact ⟨Bool.false_ne_true, rfl⟩
    · trivial
  · obtain ⟨-, a, ha, -⟩ := h.inside 1 rfl
    cases ha

/-- The error callback for one active listener, whose vector has room for another one. -/
def forFirst : ErrorCallback Bool onePath where
  thread := true
  path := "F/D/L/P".toList
  text := "E".toList
  before := (subscribed [true]).get rfl
  reachable := ⟨_, _, (Option.some_get _).symm⟩
  others := by rintro (_ | _) <;> exact trivial
  apart := by rintro a - - (_ | _) <;> nofun
  idle := rfl
  defined := rfl
  attached := rfl
  entry := { listeners := [true], active := true }
  lookup := rfl
  capacity := 2
  fits := one_le_two

/-- The second listener subscribes and unsubscribes while the backend of the first one is informed. -/
def visitsWindow : List (Event Bool Bool Unit) :=
  [.call false (.subscribe false false), .call false (.unsubscribe false), .next true none,
    .next true none]

theorem error_loop_visits_first :
    ∃ u, Runs.exec (Looping.step onePath forFirst.path) forFirst.begun visitsWindow = some u ∧
      forFirst.Visits visitsWindow u := by
  obtain ⟨u, hu⟩ : ∃ u, Runs.exec (Looping.step onePath forFirst.path) forFirst.begun
      visitsWindow = some u := Option.isSome_iff_exists.mp rfl
  refine ⟨u, hu, error_loop_visits (fun e he => ?_) (Runs.Along.run (by decide) hu)⟩
  simp only [visitsWindow, List.mem_cons, List.not_mem_nil, or_false] at he
  obtain rfl | rfl | rfl | rfl := he
  · exact ⟨Bool.false_ne_true, rfl⟩
  · exact ⟨Bool.false_ne_true, rfl⟩
  · trivial
  · trivial

end ErrorCallback
end DoocsBackend.Zmq
