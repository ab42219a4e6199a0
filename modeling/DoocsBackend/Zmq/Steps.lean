import DoocsBackend.Zmq.Manager

/-! # What a step can do

Every step of the model is one of the transitions below, with its guard and the state it
leads to. The invariants are proved transition by transition.
-/
namespace DoocsBackend.Zmq.State
variable {τ α β : Type} [DecidableEq τ] [DecidableEq α] [DecidableEq β]
open Backend (BackendState)

inductive Transition (L : Layout α β) (s : State τ α β) : Event τ α β → State τ α β → Prop
  | subscribeFails {t : τ} {a : α} (hpc : s.pc t = .idle) (hfree : s.mapOwner = none)
      (hcall : s.lastCall a = .never ∨ s.lastCall a = .unsubscribed)
      (hnew : s.subscriptionMap.lookup (L.path a) = none) :
      Transition L s (.call t (.subscribe a true))
        ((s.entered L a false).setLastCall a .subscribeFailed)
  | subscribeNew {t : τ} {a : α} (hpc : s.pc t = .idle) (hfree : s.mapOwner = none)
      (hcall : s.lastCall a = .never ∨ s.lastCall a = .unsubscribed)
      (hnew : s.subscriptionMap.lookup (L.path a) = none) :
      Transition L s (.call t (.subscribe a false))
        (({ s.entered L a true with
            attached := Function.update s.attached (L.path a) true
            dmsgStartCalled := true }.setLastCall a .subscribed).goto t .idle)
  | subscribeJoins {t : τ} {a : α} {attachFails : Bool} {e : Subscription α} (hpc : s.pc t = .idle)
      (hfree : s.mapOwner = none)
      (hcall : s.lastCall a = .never ∨ s.lastCall a = .unsubscribed)
      (hold : s.subscriptionMap.lookup (L.path a) = some e) :
      Transition L s (.call t (.subscribe a attachFails))
        (((s.entered L a e.active).setLastCall a .subscribed).goto t
          (if ((s.listener a).subscribed (s.backend (L.backend a)).asyncReadActivated
              e.gotInitialValue).isActiveZMQ ∧ e.gotInitialValue
            then .pollInitialValue (L.path a) [a] none else .idle))
  | unsubscribeIgnored {t : τ} {a : α} (hpc : s.pc t = .idle) (hfree : s.mapOwner = none)
      (hnot : a ∉ s.listenersAt (L.path a)) :
      Transition L s (.call t (.unsubscribe a)) (s.setLastCall a .unsubscribed)
  | unsubscribeLeaves {t : τ} {a : α} {e : Subscription α} (hpc : s.pc t = .idle)
      (hfree : s.mapOwner = none) (hold : s.subscriptionMap.lookup (L.path a) = some e) (hmem : a ∈ e.listeners) :
      Transition L s (.call t (.unsubscribe a))
        (((s.setSubscription (L.path a) { e with listeners := eraseRemoved a e.listeners }).setLastCall
            a .unsubscribed).goto t
          (if eraseRemoved a e.listeners = [] then .deactivateSubscription (L.path a) else .idle))
  | activateIgnored {t : τ} {b : β} (hpc : s.pc t = .idle)
      (hnot : (s.backend b).isFunctional = false) :
      Transition L s (.call t (.activateAsyncRead b)) s
  | activateChecked {t : τ} {b : β} (hpc : s.pc t = .idle)
      (hfun : (s.backend b).isFunctional = true) :
      Transition L s (.call t (.activateAsyncRead b)) (s.goto t (.exchangeAsyncRead b))
  | close {t : τ} {b : β} (hpc : s.pc t = .idle) (hfree : s.mapOwner = none) :
      Transition L s (.call t (.close b))
        ((s.eachListener (s.allListeners L b) Listener.deactivate).goto t (.clearOpened b))
  | openFails {t : τ} {b : β} {rc : ReturnCode} {text : Text} (hpc : s.pc t = .idle)
      (hrc : rc.isCommunicationError) :
      Transition L s (.call t (.openBackend b rc text))
        ((s.setBackend b ((s.backend b).setException ((s.backend b).recoveryMessage text))).goto t
          (.setExceptionImpl b))
  | openSucceeds {t : τ} {b : β} {rc : ReturnCode} {text : Text} (hpc : s.pc t = .idle) :
      Transition L s (.call t (.openBackend b rc text))
        { s.setBackend b ({ s.backend b with
            lastFailedAddress := []
            startVersion := s.created + 1 }.setOpenedAndClearException) with created := s.created + 1 }
  | setException {t : τ} {b : β} {message : Text} (hpc : s.pc t = .idle) :
      Transition L s (.call t (.setException b message))
        ((s.setBackend b ((s.backend b).setException message)).goto t (.setExceptionImpl b))
  | data {t : τ} {p : Text} {value : ℕ} {e : Subscription α} (hpc : s.pc t = .idle)
      (hattached : s.attached p = true) (hlow : s.delivered p ≤ value)
      (hhigh : value ≤ s.published p) (hold : s.subscriptionMap.lookup p = some e) :
      Transition L s (.call t (.data p value))
        { (s.setSubscription p { e with started := true, gotInitialValue := true }).eachListener
            e.listeners (Listener.deliver L.queue value) with
          delivered := Function.update s.delivered p value }
  | error {t : τ} {p text : Text} {e : Subscription α} (hpc : s.pc t = .idle)
      (hattached : s.attached p = true) (hold : s.subscriptionMap.lookup p = some e) :
      Transition L s (.call t (.error p text))
        ((s.setSubscription p { e with started := true, gotInitialValue := false }).serveError L t p
          text 0 e.listeners.length)
  | dangling {t : τ} {c : Call α β} (hpc : s.pc t = .idle) :
      Transition L s (.call t c) { s with undefined := true }
  | deactivateInactive {t : τ} {r : Option Text} {p : Text}
      (hpc : s.pc t = .deactivateSubscription p) (hfree : s.mapOwner = none)
      (hactive : (s.entry p).active = false) :
      Transition L s (.next t r) ((s.setSubscription p (s.entry p)).goto t (.eraseSubscription p))
  | deactivateActive {t : τ} {r : Option Text} {p : Text}
      (hpc : s.pc t = .deactivateSubscription p) (hfree : s.mapOwner = none)
      (hactive : (s.entry p).active = true) (hstarted : (s.entry p).started = true) :
      Transition L s (.next t r)
        ((s.setSubscription p { s.entry p with active := false, started := false }).goto t (.detach p))
  | deactivateWaits {t : τ} {r : Option Text} {p : Text}
      (hpc : s.pc t = .deactivateSubscription p) (hfree : s.mapOwner = none)
      (hactive : (s.entry p).active = true) (hstarted : (s.entry p).started = false) :
      Transition L s (.next t r)
        ({ s.setSubscription p (s.entry p) with mapOwner := some t }.goto t (.awaitStarted p))
  | awaitStarted {t : τ} {r : Option Text} {p : Text} (hpc : s.pc t = .awaitStarted p)
      (hstarted : (s.entry p).started = true) :
      Transition L s (.next t r)
        ({ s.setSubscription p { s.entry p with active := false, started := false } with
          mapOwner := none }.goto t (.detach p))
  | detach {t : τ} {r : Option Text} {p : Text} (hpc : s.pc t = .detach p) :
      Transition L s (.next t r)
        ({ s with attached := Function.update s.attached p false }.goto t (.eraseSubscription p))
  | eraseSubscription {t : τ} {r : Option Text} {p : Text} (hpc : s.pc t = .eraseSubscription p)
      (hfree : s.mapOwner = none) :
      Transition L s (.next t r)
        ({ s with subscriptionMap := s.subscriptionMap.erase p }.goto t .idle)
  | eraseMissing {t : τ} {r : Option Text} {p : Text} (hpc : s.pc t = .eraseSubscription p)
      (hfree : s.mapOwner = none) (hold : s.subscriptionMap.lookup p = none) :
      Transition L s (.next t r) { s with undefined := true }
  | exchangeSet {t : τ} {r : Option Text} {b : β} (hpc : s.pc t = .exchangeAsyncRead b)
      (hset : (s.backend b).asyncReadActivated = true) :
      Transition L s (.next t r) (s.goto t .idle)
  | exchangeUnset {t : τ} {r : Option Text} {b : β} (hpc : s.pc t = .exchangeAsyncRead b)
      (hunset : (s.backend b).asyncReadActivated = false) :
      Transition L s (.next t r)
        ((s.setBackend b { s.backend b with asyncReadActivated := true }).goto t
          (.activateAllListeners b))
  | activateAllListeners {t : τ} {r : Option Text} {b : β}
      (hpc : s.pc t = .activateAllListeners b) (hfree : s.mapOwner = none) :
      Transition L s (.next t r)
        ({ s with mapOwner := some t }.goto t (.activateListeners b s.paths))
  | activateDone {t : τ} {r : Option Text} {b : β} (hpc : s.pc t = .activateListeners b []) :
      Transition L s (.next t r) ({ s with mapOwner := none }.goto t .idle)
  | activateSkips {t : τ} {r : Option Text} {b : β} {p : Text} {todo : List Text}
      (hpc : s.pc t = .activateListeners b (p :: todo)) (hold : s.subscriptionMap.lookup p = none) :
      Transition L s (.next t r) (s.goto t (.activateListeners b todo))
  | activateListeners {t : τ} {r : Option Text} {b : β} {p : Text} {todo : List Text}
      {e : Subscription α} (hpc : s.pc t = .activateListeners b (p :: todo))
      (hold : s.subscriptionMap.lookup p = some e) :
      Transition L s (.next t r)
        ((s.eachListener (ownedBy L b e.listeners) (Listener.activate e.gotInitialValue)).goto t
          (if e.gotInitialValue then .pollInitialValue p (ownedBy L b e.listeners) (some (b, todo))
            else .activateListeners b todo))
  | poll {t : τ} {r : Option Text} {p : Text} {accessors : List α} {ret : Return β}
      (hpc : s.pc t = .pollInitialValue p accessors ret) :
      Transition L s (.next t r)
        (s.goto t (.pushInitialValue p
          (match r with | some text => .error text | none => .ok (s.published p)) accessors ret))
  | pushDone {t : τ} {r : Option Text} {p : Text} {reply : Except Text ℕ} {ret : Return β}
      (hpc : s.pc t = .pushInitialValue p reply [] ret) :
      Transition L s (.next t r) (s.goto t (resume ret))
  | pushPolled {t : τ} {r : Option Text} {p : Text} {value : ℕ} {a : α} {as : List α}
      {ret : Return β} (hpc : s.pc t = .pushInitialValue p (.ok value) (a :: as) ret) :
      Transition L s (.next t r)
        ((s.eachListener [a] (Listener.pushPolled L.queue value)).goto t
          (.pushInitialValue p (.ok value) as ret))
  | pushErrorIgnored {t : τ} {r : Option Text} {p text : Text} {a : α} {as : List α}
      {ret : Return β} (hpc : s.pc t = .pushInitialValue p (.error text) (a :: as) ret)
      (hinactive : (s.listener a).isActiveZMQ = false) :
      Transition L s (.next t r) (s.goto t (.pushInitialValue p (.error text) as ret))
  | pushErrorChecked {t : τ} {r : Option Text} {p text : Text} {a : α} {as : List α}
      {ret : Return β} (hpc : s.pc t = .pushInitialValue p (.error text) (a :: as) ret)
      (hactive : (s.listener a).isActiveZMQ = true) :
      Transition L s (.next t r) (s.goto t (.clearIsActiveZMQ p text a as ret))
  | clearIsActiveZMQ {t : τ} {r : Option Text} {p text : Text} {a : α} {as : List α}
      {ret : Return β} (hpc : s.pc t = .clearIsActiveZMQ p text a as ret) :
      Transition L s (.next t r)
        ((s.eachListener [a] Listener.deactivate).goto t (.pushException p text a as ret))
  | pushException {t : τ} {r : Option Text} {p text : Text} {a : α} {as : List α}
      {ret : Return β} (hpc : s.pc t = .pushException p text a as ret) :
      Transition L s (.next t r)
        ((s.eachListener [a] (Listener.pushException L.queue
          ("ZeroMQ connection for ".toList ++ p ++ " interrupted: ".toList ++ text))).goto t
            (.pushInitialValue p (.error text) as ret))
  | clearOpened {t : τ} {r : Option Text} {b : β} (hpc : s.pc t = .clearOpened b) :
      Transition L s (.next t r)
        ((s.setBackend b { s.backend b with opened := false }).goto t (.clearAsyncRead b))
  | clearAsyncRead {t : τ} {r : Option Text} {b : β} (hpc : s.pc t = .clearAsyncRead b) :
      Transition L s (.next t r)
        ((s.setBackend b { s.backend b with asyncReadActivated := false }).goto t
          (.clearLastFailedAddress b))
  | clearLastFailedAddress {t : τ} {r : Option Text} {b : β}
      (hpc : s.pc t = .clearLastFailedAddress b) :
      Transition L s (.next t r)
        ((s.setBackend b { s.backend b with lastFailedAddress := [] }).goto t .idle)
  | setExceptionImpl {t : τ} {r : Option Text} {b : β} (hpc : s.pc t = .setExceptionImpl b) :
      Transition L s (.next t r)
        ((s.setBackend b { s.backend b with asyncReadActivated := false }).goto t
          (.pushExceptions b (exceptionMessage (s.backend b))))
  | pushExceptions {t : τ} {r : Option Text} {b : β} {message : Text}
      (hpc : s.pc t = .pushExceptions b message) (hfree : s.mapOwner = none) :
      Transition L s (.next t r)
        ({ s with mapOwner := some t }.goto t (.pushExceptionsAt b message s.paths))
  | pushExceptionsDone {t : τ} {r : Option Text} {b : β} {message : Text}
      (hpc : s.pc t = .pushExceptionsAt b message []) :
      Transition L s (.next t r) ({ s with mapOwner := none }.goto t .idle)
  | pushExceptionsAt {t : τ} {r : Option Text} {b : β} {message p : Text} {todo : List Text}
      (hpc : s.pc t = .pushExceptionsAt b message (p :: todo)) :
      Transition L s (.next t r)
        ((s.eachListener (ownedBy L b (s.listenersAt p)) (Listener.pushError L.queue message)).goto t
          (.pushExceptionsAt b message todo))
  | informRuntimeError {t : τ} {r : Option Text} {p text : Text} {a : α} {k n : ℕ}
      (hpc : s.pc t = .informRuntimeError p text k n) (hslot : (s.listenersAt p)[k]? = some a) :
      Transition L s (.next t r)
        ((s.setBackend (L.backend a)
          ((s.backend (L.backend a)).informRuntimeError (L.path a))).goto t (.errorLoop p text (k + 1) n))
  | informMissing {t : τ} {r : Option Text} {p text : Text} {k n : ℕ}
      (hpc : s.pc t = .informRuntimeError p text k n) (hslot : (s.listenersAt p)[k]? = none) :
      Transition L s (.next t r) { s with undefined := true }
  | errorLoop {t : τ} {r : Option Text} {p text : Text} {k n : ℕ}
      (hpc : s.pc t = .errorLoop p text k n) :
      Transition L s (.next t r) (s.serveError L t p text k n)
  | publish {p : Text} :
      Transition L s (.publish p)
        { s with published := Function.update s.published p (s.published p + 1) }
  | read {a : α} : Transition L s (.read a) (s.eachListener [a] (Listener.read L.queue))

variable {L : Layout α β} {s s' : State τ α β} {t : τ}

omit [DecidableEq τ] [DecidableEq α] [DecidableEq β] in
theorem mapOwner_eq_none (h : ¬ s.mapOwner.isSome = true) : s.mapOwner = none := by simpa using h

omit [DecidableEq τ] [DecidableEq α] [DecidableEq β] in
theorem notMem_listenersAt_of_lookup {p : Text} {a : α}
    (h : ∀ e, s.subscriptionMap.lookup p = some e → a ∉ e.listeners) : a ∉ s.listenersAt p := by
  unfold listenersAt
  cases hp : s.subscriptionMap.lookup p with
  | none => simp
  | some e => exact h e hp

theorem transition_subscribe {a : α} {attachFails : Bool} (hpc : s.pc t = .idle)
    (h : s.subscribe L t a attachFails = some s') :
    Transition L s (.call t (.subscribe a attachFails)) s' := by
  unfold subscribe at h
  split at h
  · cases h
  · rename_i hguard
    rw [not_or, not_or] at hguard
    have hfree := mapOwner_eq_none hguard.1
    have hcall : s.lastCall a = .never ∨ s.lastCall a = .unsubscribed := by
      cases hl : s.lastCall a <;> simp_all
    split at h
    · rename_i hnew
      cases attachFails with
      | true => cases h; exact .subscribeFails hpc hfree hcall hnew
      | false => cases h; exact .subscribeNew hpc hfree hcall hnew
    · rename_i e hold
      cases h
      exact .subscribeJoins hpc hfree hcall hold

theorem transition_unsubscribe {a : α} (hpc : s.pc t = .idle)
    (h : s.unsubscribe L t a = some s') : Transition L s (.call t (.unsubscribe a)) s' := by
  unfold unsubscribe at h
  split at h
  · cases h
  · rename_i hguard
    have hfree := mapOwner_eq_none hguard
    split at h
    · rename_i hold
      cases h
      exact .unsubscribeIgnored hpc hfree (notMem_listenersAt_of_lookup (by simp [hold]))
    · rename_i e hold
      split at h
      · rename_i hmem
        cases h
        exact .unsubscribeIgnored hpc hfree (notMem_listenersAt_of_lookup (by simpa [hold] using hmem))
      · rename_i hmem
        cases h
        exact .unsubscribeLeaves hpc hfree hold (by simpa using hmem)

theorem transition_call {c : Call α β} (hpc : s.pc t = .idle) (h : s.call L t c = some s') :
    Transition L s (.call t c) s' := by
  cases c with
  | subscribe a attachFails => exact transition_subscribe hpc h
  | unsubscribe a => exact transition_unsubscribe hpc h
  | activateAsyncRead b =>
    simp only [call, Option.some.injEq] at h
    subst h
    split
    · exact .activateChecked hpc ‹_›
    · rename_i hnot
      exact .activateIgnored hpc (by simpa using hnot)
  | close b =>
    simp only [call] at h
    split at h
    · cases h
    · rename_i hguard
      cases h
      exact .close hpc (mapOwner_eq_none hguard)
  | openBackend b rc text =>
    simp only [call, BackendState.openBackend] at h
    by_cases hfail : (s.backend b).lastFailedAddress ≠ [] ∧ rc.isCommunicationError = true
    · rw [if_pos hfail] at h
      cases h
      exact .openFails hpc hfail.2
    · rw [if_neg hfail] at h
      cases h
      exact .openSucceeds hpc
  | setException b message =>
    cases h
    exact .setException hpc
  | data p value =>
    simp only [call] at h
    split at h
    · rename_i hguard
      split at h
      · cases h
        exact .dangling hpc
      · cases h
        exact .data hpc hguard.1 hguard.2.1 hguard.2.2 ‹_›
    · cases h
  | error p text =>
    simp only [call] at h
    split at h
    · split at h
      · cases h
        exact .dangling hpc
      · cases h
        exact .error hpc ‹_› ‹_›
    · cases h

theorem transition_advance {r : Option Text} (h : s.advance L t r (s.pc t) = some s') :
    Transition L s (.next t r) s' := by
  cases hpc : s.pc t with
  | idle => rw [hpc] at h; cases h
  | deactivateSubscription p =>
    rw [hpc] at h
    simp only [advance] at h
    split at h
    · cases h
    · rename_i hguard
      have hfree := mapOwner_eq_none hguard
      split at h
      · rename_i hactive
        split at h
        · cases h
          exact .deactivateActive hpc hfree hactive ‹_›
        · rename_i hstarted
          cases h
          exact .deactivateWaits hpc hfree hactive (by simpa using hstarted)
      · rename_i hactive
        cases h
        exact .deactivateInactive hpc hfree (by simpa using hactive)
  | awaitStarted p =>
    rw [hpc] at h
    simp only [advance] at h
    split at h
    · cases h
      exact .awaitStarted hpc ‹_›
    · cases h
  | detach p => rw [hpc] at h; cases h; exact .detach hpc
  | eraseSubscription p =>
    rw [hpc] at h
    simp only [advance] at h
    split at h
    · cases h
    · rename_i hguard
      split at h
      · rename_i hold
        cases h
        exact .eraseMissing hpc (mapOwner_eq_none hguard) (by simpa using hold)
      · cases h
        exact .eraseSubscription hpc (mapOwner_eq_none hguard)
  | exchangeAsyncRead b =>
    rw [hpc] at h
    simp only [advance, Option.some.injEq] at h
    subst h
    split
    · exact .exchangeSet hpc ‹_›
    · rename_i hunset
      exact .exchangeUnset hpc (by simpa using hunset)
  | activateAllListeners b =>
    rw [hpc] at h
    simp only [advance] at h
    split at h
    · cases h
    · rename_i hguard
      cases h
      exact .activateAllListeners hpc (mapOwner_eq_none hguard)
  | activateListeners b todo =>
    rw [hpc] at h
    cases todo with
    | nil => cases h; exact .activateDone hpc
    | cons p todo =>
      simp only [advance, activateListeners, Option.some.injEq] at h
      subst h
      split
      · exact .activateSkips hpc ‹_›
      · exact .activateListeners hpc ‹_›
  | pollInitialValue p accessors ret => rw [hpc] at h; cases h; exact .poll hpc
  | pushInitialValue p reply accessors ret =>
    rw [hpc] at h
    cases accessors with
    | nil => cases h; exact .pushDone hpc
    | cons a as =>
      cases reply with
      | ok value => cases h; exact .pushPolled hpc
      | error text =>
        simp only [advance, Option.some.injEq] at h
        subst h
        split
        · exact .pushErrorChecked hpc ‹_›
        · rename_i hinactive
          exact .pushErrorIgnored hpc (by simpa using hinactive)
  | clearIsActiveZMQ p text a as ret => rw [hpc] at h; cases h; exact .clearIsActiveZMQ hpc
  | pushException p text a as ret => rw [hpc] at h; cases h; exact .pushException hpc
  | clearOpened b => rw [hpc] at h; cases h; exact .clearOpened hpc
  | clearAsyncRead b => rw [hpc] at h; cases h; exact .clearAsyncRead hpc
  | clearLastFailedAddress b => rw [hpc] at h; cases h; exact .clearLastFailedAddress hpc
  | setExceptionImpl b => rw [hpc] at h; cases h; exact .setExceptionImpl hpc
  | pushExceptions b message =>
    rw [hpc] at h
    simp only [advance] at h
    split at h
    · cases h
    · rename_i hguard
      cases h
      exact .pushExceptions hpc (mapOwner_eq_none hguard)
  | pushExceptionsAt b message todo =>
    rw [hpc] at h
    cases todo with
    | nil => cases h; exact .pushExceptionsDone hpc
    | cons p todo => cases h; exact .pushExceptionsAt hpc
  | informRuntimeError p text k n =>
    rw [hpc] at h
    simp only [advance] at h
    split at h
    · cases h
      exact .informRuntimeError hpc ‹_›
    · cases h
      exact .informMissing hpc ‹_›
  | errorLoop p text k n => rw [hpc] at h; cases h; exact .errorLoop hpc

/-- Every step is a transition. -/
theorem transition_of_step {e : Event τ α β} (h : s.step L e = some s') : Transition L s e s' := by
  cases e with
  | call t c =>
    simp only [step] at h
    split at h
    · exact transition_call ‹_› h
    · cases h
  | next t r =>
    simp only [step] at h
    split at h
    · cases h
    · exact transition_advance h
  | publish p => cases h; exact .publish
  | read a => cases h; exact .read

omit [DecidableEq β] in
/-- One iteration of the error loop serves a listener, ends the loop or goes wrong. -/
theorem serveError_cases (L : Layout α β) (s : State τ α β) (t : τ) (p text : Text) (k n : ℕ) :
    (∃ a, (k < n ∧ (s.listenersAt p)[k]? = some a) ∧ s.serveError L t p text k n =
      (s.eachListener [a] (Listener.pushError L.queue
        ("ZeroMQ connection interrupted: ".toList ++ text))).goto t
          (.informRuntimeError p text k n)) ∨
    s.serveError L t p text k n = s.goto t .idle ∨
    s.serveError L t p text k n = { s with undefined := true } := by
  unfold serveError
  split
  · rename_i hk
    split
    · rename_i a ha
      exact .inl ⟨a, ⟨hk, ha⟩, rfl⟩
    · exact .inr (.inr rfl)
  · exact .inr (.inl rfl)

section
omit [DecidableEq τ] [DecidableEq α] [DecidableEq β]

theorem listenersAt_of_lookup {p : Text} {e : Subscription α}
    (h : s.subscriptionMap.lookup p = some e) : s.listenersAt p = e.listeners := by
  rw [listenersAt, h]
  rfl

theorem listenersAt_of_lookup_none {p : Text} (h : s.subscriptionMap.lookup p = none) :
    s.listenersAt p = [] := by
  rw [listenersAt, h]
  rfl

theorem entry_of_lookup {p : Text} {e : Subscription α}
    (h : s.subscriptionMap.lookup p = some e) : s.entry p = e := by
  rw [entry, h]
  rfl

theorem entry_of_lookup_none {p : Text} (h : s.subscriptionMap.lookup p = none) :
    s.entry p = {} := by
  rw [entry, h]
  rfl

theorem entry_listeners (p : Text) : (s.entry p).listeners = s.listenersAt p := by
  cases h : s.subscriptionMap.lookup p with
  | none => rw [entry_of_lookup_none h, listenersAt_of_lookup_none h]
  | some e => rw [entry_of_lookup h, listenersAt_of_lookup h]

theorem mem_keys_of_mem_listenersAt {p : Text} {a : α} (h : a ∈ s.listenersAt p) :
    p ∈ s.subscriptionMap.keys := by
  rw [← AList.mem_keys, ← AList.lookup_isSome]
  cases hp : s.subscriptionMap.lookup p with
  | none => simp [listenersAt_of_lookup_none hp] at h
  | some e => rfl

theorem mem_paths {p : Text} : p ∈ s.paths ↔ p ∈ s.subscriptionMap.keys :=
  (s.subscriptionMap.keys.perm_insertionSort (· ≤ ·)).mem_iff

theorem mem_paths_of_mem_listenersAt {p : Text} {a : α} (h : a ∈ s.listenersAt p) : p ∈ s.paths :=
  mem_paths.mpr (mem_keys_of_mem_listenersAt h)

end

omit [DecidableEq α] in
theorem mem_ownedBy {b : β} {as : List α} {a : α} :
    a ∈ ownedBy L b as ↔ a ∈ as ∧ L.backend a = b := by
  simp [ownedBy]

omit [DecidableEq τ] [DecidableEq α] in
theorem mem_allListeners {a : α} (h : a ∈ s.listenersAt (L.path a)) :
    a ∈ s.allListeners L (L.backend a) :=
  mem_ownedBy.mpr ⟨List.mem_flatMap.mpr ⟨_, mem_keys_of_mem_listenersAt h, h⟩, rfl⟩

omit [DecidableEq α] [DecidableEq β] in
/-- What a place says of a thread after a step, it says of the place the thread went to, or it said so
before. -/
theorem mem_place_goto {γ : Type} (f : Pc α β → Option γ) {s₁ : State τ α β} {t u : τ} {pc : Pc α β}
    {x : γ} (heq : s₁.pc = s.pc) (hx : x ∈ f ((s₁.goto t pc).pc u)) :
    u = t ∧ x ∈ f pc ∨ x ∈ f (s.pc u) := by
  rw [goto_pc, heq] at hx
  by_cases hu : u = t
  · subst hu
    rw [Function.update_self] at hx
    exact .inl ⟨rfl, hx⟩
  · rw [Function.update_of_ne hu] at hx
    exact .inr hx

omit [DecidableEq α] [DecidableEq β] in
/-- Nothing new is said of a thread which goes to a place that says nothing. -/
theorem mem_place_of_goto {γ : Type} (f : Pc α β → Option γ) {s₁ : State τ α β} {t u : τ} {pc : Pc α β}
    {x : γ} (heq : s₁.pc = s.pc) (hnone : f pc = none) (hx : x ∈ f ((s₁.goto t pc).pc u)) :
    x ∈ f (s.pc u) := by
  obtain ⟨-, hself⟩ | hbefore := mem_place_goto f heq hx
  · rw [hnone] at hself
    cases hself
  · exact hbefore

omit [DecidableEq β] in
/-- The error loop does not come to any place which says something of others. -/
theorem mem_place_of_serveError {γ : Type} (f : Pc α β → Option γ) {s₁ : State τ α β} {t u : τ}
    {p text : Text} {k n : ℕ} {x : γ} (heq : s₁.pc = s.pc) (hidle : f .idle = none)
    (hinform : f (.informRuntimeError p text k n) = none)
    (hx : x ∈ f ((s₁.serveError L t p text k n).pc u)) : x ∈ f (s.pc u) := by
  obtain ⟨a, -, hserved⟩ | hserved | hserved := serveError_cases L s₁ t p text k n
  all_goals rw [hserved] at hx
  · exact mem_place_of_goto f heq hinform hx
  · exact mem_place_of_goto f heq hidle hx
  · rwa [← heq]

omit [DecidableEq α] [DecidableEq β] in
/-- A thread of which a place says nothing, neither before nor after its step. -/
theorem place_goto {γ : Type} (f : Pc α β → Option γ) {s₁ : State τ α β} {t : τ} {pc : Pc α β} {x : γ}
    (hpc : s₁.pc = s.pc) (hbefore : f (s.pc t) ≠ some x) (hafter : f pc ≠ some x) (u : τ) :
    f ((s₁.goto t pc).pc u) = some x ↔ f (s.pc u) = some x := by
  rw [goto_pc, hpc]
  by_cases hu : u = t
  · subst hu
    rw [Function.update_self]
    exact iff_of_false hafter hbefore
  · rw [Function.update_of_ne hu]

/-- The step is one of those which set `isActiveZMQ` of a listener: it subscribes, or is visited by
`activateAllListeners`. -/
def Activates (L : Layout α β) (s : State τ α β) (e : Event τ α β) (a : α) : Prop :=
  a ∈ e.subscriber? ∨ ∃ t ∈ e.thread?, a ∈ s.visited L (s.pc t)

/-- What each operation on a listener preserves, every step preserves. Polled values, and exceptions
instead of them, are pushed without a look at the listener, so that more may have to be known about the
state. -/
theorem listener_step {P : Listener → Prop} {e : Event τ α β} {a : α} (h : Transition L s e s')
    (hs : P (s.listener a)) (hactivate : Activates L s e a → ∀ l got, P l → P (l.activate got))
    (hdeactivate : ∀ l, P l → P l.deactivate)
    (hpolled : ∀ t r p value as ret, e = .next t r →
      s.pc t = .pushInitialValue p (.ok value) (a :: as) ret → P ((s.listener a).pushPolled L.queue value))
    (hexception : ∀ t r p text as ret message, e = .next t r →
      s.pc t = .pushException p text a as ret → P ((s.listener a).pushException L.queue message))
    (hdeliver : ∀ l value, P l → P (l.deliver L.queue value))
    (herror : ∀ l message, P l → P (l.pushError L.queue message))
    (hread : ∀ l, P l → P (l.read L.queue)) : P (s'.listener a) := by
  have subscribes {b : α} {flag got : Bool} (hb : e.subscriber? = some b) :
      P (Function.update s.listener b ((s.listener b).subscribed flag got) a) := by
    by_cases hab : a = b
    · subst hab
      rw [Function.update_self]
      cases flag with
      | false => exact hdeactivate _ hs
      | true => exact hactivate (.inl hb) _ got hs
    · rwa [Function.update_of_ne hab]
  have one {b : α} {f : Listener → Listener} (hf : a = b → P (f (s.listener a))) :
      P (Each.each f [b] s.listener a) := by
    by_cases hab : a = b
    · have hmem : a ∈ [b] := List.mem_singleton.mpr hab
      rw [Each.each_of_mem (List.nodup_singleton b) hmem]
      exact hf hab
    · rwa [Each.each_of_notMem (by simpa using hab)]
  have serveError (u : State τ α β) (hu : u.listener = s.listener) (t : τ) (p text : Text)
      (k n : ℕ) : P ((u.serveError L t p text k n).listener a) := by
    obtain ⟨b, -, heq⟩ | heq | heq := serveError_cases L u t p text k n
    all_goals rw [heq]
    · exact Each.each_preserves (fun l => herror l _) (by rwa [hu])
    · exact (congrFun hu a).symm ▸ hs
    · exact (congrFun hu a).symm ▸ hs
  cases h with
  | subscribeFails | subscribeNew | subscribeJoins => exact subscribes rfl
  | close => exact Each.each_preserves hdeactivate hs
  | data => exact Each.each_preserves (fun l => hdeliver l _) hs
  | @error t p text e => exact serveError (s.setSubscription p _) rfl t p text 0 e.listeners.length
  | @errorLoop t r p text k n => exact serveError s rfl t p text k n
  | @activateListeners t r b p todo e hpc hold =>
    by_cases hmem : a ∈ ownedBy L b e.listeners
    · refine Each.each_preserves (fun l => hactivate (.inr ⟨t, rfl, ?_⟩) l _) hs
      rw [hpc]
      simpa only [visited, listenersAt_of_lookup hold] using hmem
    · rwa [goto_listener, eachListener_listener, Each.each_of_notMem hmem]
  | @pushPolled t r p value b as ret hpc =>
    refine one ?_
    rintro rfl
    exact hpolled t r p value as ret rfl hpc
  | clearIsActiveZMQ => exact Each.each_preserves hdeactivate hs
  | @pushException t r p text b as ret hpc =>
    refine one ?_
    rintro rfl
    exact hexception t r p text as ret _ rfl hpc
  | pushExceptionsAt => exact Each.each_preserves (fun l => herror l _) hs
  | read => exact Each.each_preserves hread hs
  | _ => exact hs

end DoocsBackend.Zmq.State
