import DoocsBackend.Zmq.ExceptionLast
import DoocsBackend.Zmq.Membership

/-! # Initial values

A listener which becomes active after the callback has seen the initial value gets it by a
poll, once. This fails for a listener which subscribes while its backend is being activated:
it is polled by `subscribe` and again by `activateAllListeners`.
-/
namespace DoocsBackend.Zmq

/-- Of an activated listener's values, one is polled if the initial value had been seen, else none. -/
inductive InitialValueOnce : List Happening → Prop
  | inactive : InitialValueOnce []
  | active {got : Bool} {values : List Happening} (data : ∀ x ∈ values, x.isData = true)
      (polled : values.countP Happening.isPolled = got.toNat) :
      InitialValueOnce (.activated got :: values)

/-- The listener has never been active. -/
structure Fresh (l : Listener) : Prop where
  inactive : l.isActiveZMQ = false
  history : l.history = []

/-- The listener has been active from the start and got `n` polled values. -/
structure Polled (got : Bool) (n : ℕ) (l : Listener) : Prop where
  active : l.isActiveZMQ = true
  history : ∃ values, l.history = .activated got :: values ∧ (∀ x ∈ values, x.isData = true) ∧
    values.countP Happening.isPolled = n

namespace Fresh
variable {Q : FutureQueue} {l : Listener}

theorem activate (h : Fresh l) (got : Bool) : Polled got 0 (l.activate got) := by
  refine ⟨l.activate_isActiveZMQ got, [], ?_, by simp, rfl⟩
  rw [Listener.activate, if_neg (by simp [h.inactive])]
  simp [h.history]

theorem deliver (h : Fresh l) (value : ℕ) : Fresh (l.deliver Q value) := by
  rwa [Listener.deliver, if_neg (by simp [h.inactive])]

theorem read (h : Fresh l) : Fresh (l.read Q) := by
  refine ⟨by simp [h.inactive], ?_⟩
  unfold Listener.read
  split <;> exact h.history

end Fresh

namespace Polled
variable {Q : FutureQueue} {got : Bool} {n : ℕ} {l : Listener}

theorem pushPolled (h : Polled got n l) (value : ℕ) :
    Polled got (n + 1) (l.pushPolled Q value) := by
  obtain ⟨values, hl, hdata, hn⟩ := h.history
  refine ⟨h.active, values ++ [.polled value], ?_, ?_, ?_⟩
  · simp [Listener.pushPolled, hl]
  · simpa [or_imp, forall_and, Happening.isData] using hdata
  · simp [hn, Happening.isPolled]

theorem deliver (h : Polled got n l) (value : ℕ) : Polled got n (l.deliver Q value) := by
  obtain ⟨values, hl, hdata, hn⟩ := h.history
  refine ⟨by simp [h.active], values ++ [.delivered value], ?_, ?_, ?_⟩
  · simp [Listener.deliver, h.active, hl]
  · simpa [or_imp, forall_and, Happening.isData] using hdata
  · simp [hn, Happening.isPolled]

theorem read (h : Polled got n l) : Polled got n (l.read Q) := by
  refine ⟨by simp [h.active], ?_⟩
  unfold Listener.read
  split <;> exact h.history

end Polled

namespace State
variable {τ α β : Type} [DecidableEq τ] [DecidableEq α] [DecidableEq β]

/-- Nothing fails, and nothing is closed or unsubscribed. -/
def noFailure : Event τ α β → Bool
  | .call _ (.subscribe _ attachFails) => !attachFails
  | .call _ (.activateAsyncRead _) | .call _ (.data _ _) | .publish _ | .read _ => true
  | .next _ rpcError => rpcError.isNone
  | _ => false

/-- Where a thread can be if nothing fails. -/
def isCalm : Pc α β → Bool
  | .idle | .exchangeAsyncRead _ | .activateAllListeners _ | .activateListeners _ _
  | .pollInitialValue _ _ _ | .pushInitialValue _ (.ok _) _ _ => true
  | _ => false

/-- When `activateAllListeners` visits a subscription whose initial value has been seen, its
listeners are not active already. -/
def VisitsInactive (L : Layout α β) (s : State τ α β) (e : Event τ α β) : Prop :=
  ∀ t ∈ e.thread?, ∀ a ∈ s.visited L (s.pc t),
    (s.entry (L.path a)).gotInitialValue = true → (s.listener a).isActiveZMQ = false

instance (L : Layout α β) (s : State τ α β) (e : Event τ α β) : Decidable (VisitsInactive L s e) :=
  inferInstanceAs (Decidable (∀ t ∈ e.thread?, ∀ a ∈ s.visited L (s.pc t), _ → _))

/-- The listeners a thread is about to push an initial value into. -/
def pending : Pc α β → List α
  | .pollInitialValue _ accessors _ | .pushInitialValue _ _ accessors _ => accessors
  | _ => []

/-- The lists are as the subscriptions made them. -/
structure Undisturbed (L : Layout α β) (s : State τ α β) : Prop where
  listed : Listed L s
  calm : ∀ t, isCalm (s.pc t) = true
  called : ∀ a, s.lastCall a = .never ∨ s.lastCall a = .subscribed

/-- An initial value is due to exactly those active listeners which have been told so and have not
received it. -/
inductive InitialValueDue (s : State τ α β) (a : α) : Prop
  | inactive (fresh : Fresh (s.listener a)) (none : ∀ t, (pending (s.pc t)).count a = 0)
  | settled {got : Bool} (call : s.lastCall a = .subscribed)
      (polled : Polled got got.toNat (s.listener a)) (none : ∀ t, (pending (s.pc t)).count a = 0)
  | awaited {t : τ} (call : s.lastCall a = .subscribed) (polled : Polled true 0 (s.listener a))
      (one : (pending (s.pc t)).count a = 1) (none : ∀ u ≠ t, (pending (s.pc u)).count a = 0)

variable {L : Layout α β} {s s' : State τ α β} {a : α}

namespace Undisturbed

section
omit [DecidableEq τ] [DecidableEq β]

theorem subscribesWhenSettled (h : Undisturbed L s) (e : Event τ α β) :
    SubscribesWhenSettled L s e := by
  have hremoving (t : τ) : removing (s.pc t) = none := by
    have ht := h.calm t
    cases hpc : s.pc t <;> simp_all [isCalm, removing]
  intro a _
  refine ⟨fun t => by simp [hremoving t], ?_⟩
  cases he : s.subscriptionMap.lookup (L.path a) with
  | none => rfl
  | some e =>
    have hne : e.listeners ≠ [] := by
      intro hnil
      obtain ⟨t, ht⟩ := h.listed.nonempty _ e he hnil
      rw [hremoving t] at ht
      cases ht
    obtain hactive | ⟨b, -, hb⟩ := h.listed.active _ e he hne
    · simpa using hactive
    · obtain hcall | hcall := h.called b
      all_goals
        rw [hb] at hcall
        cases hcall

theorem path_eq (h : Undisturbed L s) {p : Text} (ha : a ∈ s.listenersAt p) : L.path a = p := by
  cases he : s.subscriptionMap.lookup p with
  | none => rw [listenersAt_of_lookup_none he] at ha; cases ha
  | some e => exact h.listed.path_eq p e he a (by rwa [listenersAt_of_lookup he] at ha)

theorem call_of_mem (h : Undisturbed L s) {p : Text} (ha : a ∈ s.listenersAt p) :
    s.lastCall a = .subscribed := by
  have hpath := h.path_eq ha
  subst hpath
  have hcount := h.listed.count_eq a
  have hpos := List.count_pos_iff.mpr ha
  obtain hcall | hcall := h.called a
  · rw [hcall] at hcount
    exact absurd hcount hpos.ne'
  · exact hcall

theorem nodup (h : Undisturbed L s) (p : Text) : (s.listenersAt p).Nodup := by
  apply List.nodup_iff_count_le_one.mpr
  intro a
  by_cases ha : a ∈ s.listenersAt p
  · have hpath := h.path_eq ha
    subst hpath
    rw [h.listed.count_eq a]
    exact Bool.toNat_le _
  · rw [List.count_eq_zero_of_not_mem ha]
    exact Nat.zero_le 1

end

end Undisturbed

omit [DecidableEq α] [DecidableEq β] in
theorem isCalm_goto {t : τ} {pc : Pc α β} (h : ∀ u, isCalm (s.pc u) = true)
    (hpc : isCalm pc = true) : ∀ u, isCalm ((s.goto t pc).pc u) = true :=
  (Function.forall_update_iff s.pc fun _ pc => isCalm pc = true).mpr ⟨hpc, fun u _ => h u⟩

omit [DecidableEq τ] [DecidableEq β] in
theorem called_setLastCall {b : α} (h : ∀ a, s.lastCall a = .never ∨ s.lastCall a = .subscribed)
    (a : α) : Function.update s.lastCall b .subscribed a = .never ∨
      Function.update s.lastCall b .subscribed a = .subscribed :=
  (Function.forall_update_iff s.lastCall fun _ c => c = .never ∨ c = .subscribed).mpr
    ⟨.inr rfl, fun a _ => h a⟩ a

theorem undisturbed_step {e : Event τ α β} (hs : Undisturbed L s) (hcalm : noFailure e)
    (h : Transition L s e s') : Undisturbed L s' := by
  have hlisted := listed_step hs.listed (hs.subscribesWhenSettled e) h
  have impossible {t : τ} {pc : Pc α β} (hpc : s.pc t = pc) (hno : isCalm pc = false) : False := by
    have ht := hs.calm t
    rw [hpc, hno] at ht
    cases ht
  cases h with
  | subscribeFails | unsubscribeIgnored | unsubscribeLeaves | close | openFails | openSucceeds
  | setException | error => cases hcalm
  | subscribeNew => exact ⟨hlisted, isCalm_goto hs.calm rfl, called_setLastCall hs.called⟩
  | subscribeJoins =>
    exact ⟨hlisted, isCalm_goto hs.calm (by split <;> rfl), called_setLastCall hs.called⟩
  | activateIgnored | data | dangling | publish | read => exact ⟨hlisted, hs.calm, hs.called⟩
  | activateListeners =>
    exact ⟨hlisted, isCalm_goto hs.calm (by split <;> rfl), hs.called⟩
  | poll =>
    obtain rfl := Option.isNone_iff_eq_none.mp hcalm
    exact ⟨hlisted, isCalm_goto hs.calm rfl, hs.called⟩
  | @pushDone t r p reply ret hpc =>
    exact ⟨hlisted, isCalm_goto hs.calm (by cases ret <;> rfl), hs.called⟩
  | activateChecked | exchangeSet | exchangeUnset | activateAllListeners | activateDone
  | activateSkips | pushPolled => exact ⟨hlisted, isCalm_goto hs.calm rfl, hs.called⟩
  | deactivateInactive hpc | deactivateActive hpc | deactivateWaits hpc | awaitStarted hpc
  | detach hpc | eraseSubscription hpc | eraseMissing hpc | pushErrorIgnored hpc
  | pushErrorChecked hpc | clearIsActiveZMQ hpc | pushException hpc | clearOpened hpc
  | clearAsyncRead hpc | clearLastFailedAddress hpc | setExceptionImpl hpc | pushExceptions hpc
  | pushExceptionsDone hpc | pushExceptionsAt hpc | informRuntimeError hpc | informMissing hpc
  | errorLoop hpc => exact (impossible hpc rfl).elim

namespace InitialValueDue

omit [DecidableEq τ] [DecidableEq β] in
/-- What keeps the history of the listener and the threads about to push into it. -/
theorem of_same (h : InitialValueDue s a) (hfresh : Fresh (s.listener a) → Fresh (s'.listener a))
    (hpolled : ∀ got n, Polled got n (s.listener a) → Polled got n (s'.listener a))
    (hcall : s.lastCall a = .subscribed → s'.lastCall a = .subscribed)
    (hpending : ∀ t, (pending (s'.pc t)).count a = (pending (s.pc t)).count a) :
    InitialValueDue s' a := by
  cases h with
  | inactive fresh none => exact .inactive (hfresh fresh) fun t => (hpending t).trans (none t)
  | settled call polled none =>
    exact .settled (hcall call) (hpolled _ _ polled) fun t => (hpending t).trans (none t)
  | awaited call polled one none =>
    exact .awaited (hcall call) (hpolled _ _ polled) ((hpending _).trans one) fun u hu =>
      (hpending u).trans (none u hu)

omit [DecidableEq β] in
/-- A thread goes on without a change for the listener. -/
theorem moves (h : InitialValueDue s a) {t : τ} {pc : Pc α β}
    (hlistener : s'.listener a = s.listener a) (hcall : s'.lastCall a = s.lastCall a)
    (hpc : s'.pc = Function.update s.pc t pc)
    (hpending : (pending pc).count a = (pending (s.pc t)).count a) : InitialValueDue s' a := by
  refine h.of_same (by rw [hlistener]; exact id) (fun _ _ => by rw [hlistener]; exact id)
    (by rw [hcall]; exact id) ?_
  rw [hpc]
  exact (Function.forall_update_iff s.pc fun u pc =>
    (pending pc).count a = (pending (s.pc u)).count a).mpr ⟨hpending, fun _ _ => rfl⟩

omit [DecidableEq τ] [DecidableEq β] in
theorem each (h : InitialValueDue s a) {as : List α} {f : Listener → Listener}
    (hlistener : s'.listener = Each.each f as s.listener) (hcall : s'.lastCall = s.lastCall)
    (hpc : s'.pc = s.pc) (hfresh : ∀ l, Fresh l → Fresh (f l))
    (hpolled : ∀ got n l, Polled got n l → Polled got n (f l)) : InitialValueDue s' a := by
  refine h.of_same (fun fresh => ?_) (fun got n polled => ?_) (by rw [hcall]; exact id) fun t => by
    rw [hpc]
  · rw [hlistener]
    exact Each.each_preserves hfresh fresh
  · rw [hlistener]
    exact Each.each_preserves (hpolled got n) polled

omit [DecidableEq β] in
/-- An inactive listener is activated while the thread decides about the poll. -/
theorem activated (h : InitialValueDue s a) (hoff : (s.listener a).isActiveZMQ = false) {t : τ}
    {got : Bool} (hlistener : s'.listener a = (s.listener a).activate got)
    (hcall : s'.lastCall a = .subscribed) (hself : (pending (s'.pc t)).count a = got.toNat)
    (hother : ∀ u ≠ t, s'.pc u = s.pc u) : InitialValueDue s' a := by
  cases h with
  | inactive fresh none =>
    have hpolled : Polled got 0 (s'.listener a) := by
      rw [hlistener]
      exact fresh.activate got
    have hrest (u : τ) (hu : u ≠ t) : (pending (s'.pc u)).count a = 0 := by
      rw [hother u hu]
      exact none u
    cases got with
    | true => exact .awaited hcall hpolled hself hrest
    | false =>
      refine .settled hcall hpolled fun u => ?_
      by_cases hu : u = t
      · subst hu
        exact hself
      · exact hrest u hu
  | settled _ polled | awaited _ polled =>
    rw [polled.active] at hoff
    cases hoff

omit [DecidableEq β] in
/-- The thread which owes the listener its initial value pushes it. -/
theorem pushed (h : InitialValueDue s a) {t : τ} {value : ℕ} (as : List α) {pc : Pc α β}
    (hpc : pending (s.pc t) = a :: as) (hnext : pending pc = as) :
    InitialValueDue ((s.eachListener [a] (Listener.pushPolled L.queue value)).goto t pc) a := by
  have hcount : (pending (s.pc t)).count a = as.count a + 1 := by
    rw [hpc, List.count_cons_self]
  cases h with
  | inactive _ none | settled _ _ none =>
    rw [none t] at hcount
    cases hcount
  | @awaited u call polled one none =>
    have hut : u = t := by
      by_contra hne
      rw [none t (Ne.symm hne)] at hcount
      cases hcount
    subst hut
    have hsettled : Polled true true.toNat
        (((s.eachListener [a] (Listener.pushPolled L.queue value)).goto u pc).listener a) := by
      have hpushed := polled.pushPolled (Q := L.queue) value
      rwa [← Function.update_self a ((s.listener a).pushPolled L.queue value) s.listener] at hpushed
    have hlast : (pending pc).count a = 0 := by
      rw [hnext]
      omega
    exact .settled call hsettled ((Function.forall_update_iff s.pc fun _ pc =>
      (pending pc).count a = 0).mpr ⟨hlast, none⟩)

end InitialValueDue

omit [DecidableEq τ] [DecidableEq β] in
/-- Whoever has not subscribed yet is not active. -/
theorem inactive_of_never (hs : InitialValueDue s a) (hcall : s.lastCall a ≠ .subscribed) :
    (s.listener a).isActiveZMQ = false := by
  cases hs with
  | inactive fresh => exact fresh.inactive
  | settled call | awaited call => exact absurd call hcall

omit [DecidableEq β] in
/-- An accessor subscribes; whether its initial value is polled follows from the flag and from the
entry. -/
theorem initialValueDue_entered (hs : ∀ a, InitialValueDue s a) (b : α) (active : Bool) {t : τ}
    {pc : Pc α β} (hidle : pending (s.pc t) = [])
    (hcall : s.lastCall b = .never ∨ s.lastCall b = .unsubscribed)
    (hlistener : ∀ c, s'.listener c = (s.entered L b active).listener c)
    (hlast : s'.lastCall = Function.update s.lastCall b .subscribed)
    (hpc : s'.pc = Function.update s.pc t pc)
    (hpending : pending pc = if ((s.backend (L.backend b)).asyncReadActivated &&
      (s.entry (L.path b)).gotInitialValue) = true then [b] else []) : InitialValueDue s' a := by
  have hother (u : τ) (hu : u ≠ t) : s'.pc u = s.pc u := by rw [hpc, Function.update_of_ne hu]
  by_cases hab : a = b
  · subst hab
    have hoff : (s.listener a).isActiveZMQ = false :=
      inactive_of_never (hs a) (by rcases hcall with h | h <;> simp [h])
    have hl : s'.listener a = (s.listener a).subscribed (s.backend (L.backend a)).asyncReadActivated
        (s.entry (L.path a)).gotInitialValue := by
      rw [hlistener]
      exact Function.update_self _ _ _
    have hlast' : s'.lastCall a = .subscribed := by rw [hlast, Function.update_self]
    have hself : (pending (s'.pc t)).count a = ((s.backend (L.backend a)).asyncReadActivated &&
        (s.entry (L.path a)).gotInitialValue).toNat := by
      rw [hpc, Function.update_self, hpending]
      cases (s.backend (L.backend a)).asyncReadActivated &&
        (s.entry (L.path a)).gotInitialValue <;> simp
    cases hflag : (s.backend (L.backend a)).asyncReadActivated with
    | true =>
      rw [hflag] at hl hself
      exact (hs a).activated hoff hl hlast' hself hother
    | false =>
      rw [hflag] at hl hself
      refine (hs a).of_same (fun fresh => ?_) (fun got n polled => ?_) (fun _ => hlast') fun u => ?_
      · rw [hl]
        exact ⟨rfl, fresh.history⟩
      · rw [polled.active] at hoff
        cases hoff
      · by_cases hu : u = t
        · subst hu
          rw [hself, hidle]
          rfl
        · rw [hother u hu]
  · have hl : s'.listener a = s.listener a := by
      rw [hlistener]
      exact Function.update_of_ne hab _ _
    refine (hs a).of_same (by rw [hl]; exact id) (fun _ _ => by rw [hl]; exact id)
      (by rw [hlast, Function.update_of_ne hab]; exact id) fun u => ?_
    by_cases hu : u = t
    · subst hu
      rw [hpc, Function.update_self, hpending, hidle]
      split
      · exact List.count_eq_zero_of_not_mem (by simpa using hab)
      · rfl
    · rw [hother u hu]

theorem initialValueDue_step {e : Event τ α β} (hundisturbed : Undisturbed L s)
    (hs : ∀ a, InitialValueDue s a) (hcalm : noFailure e) (hok : VisitsInactive L s e)
    (h : Transition L s e s') (a : α) : InitialValueDue s' a := by
  have impossible {t : τ} {pc : Pc α β} (hpc : s.pc t = pc) (hno : isCalm pc = false) : False := by
    have ht := hundisturbed.calm t
    rw [hpc, hno] at ht
    cases ht
  cases h with
  | subscribeFails | unsubscribeIgnored | unsubscribeLeaves | close | openFails | openSucceeds
  | setException | error => cases hcalm
  | @subscribeNew t b hpc hfree hcall hnew =>
    refine initialValueDue_entered hs b true (by rw [hpc]; rfl) hcall
      (fun _ => rfl) rfl rfl ?_
    rw [entry_of_lookup_none hnew]
    simp [pending]
  | @subscribeJoins t b attachFails e hpc hfree hcall hold =>
    refine initialValueDue_entered hs b e.active (by rw [hpc]; rfl) hcall
      (fun _ => rfl) rfl rfl ?_
    rw [entry_of_lookup hold, Listener.subscribed_isActiveZMQ]
    cases (s.backend (L.backend b)).asyncReadActivated <;> cases e.gotInitialValue <;> rfl
  | activateIgnored | dangling | publish =>
    exact (hs a).of_same id (fun _ _ => id) id fun _ => rfl
  | data =>
    exact (hs a).each rfl rfl rfl (fun _ h => h.deliver _) fun _ _ _ h => h.deliver _
  | read => exact (hs a).each rfl rfl rfl (fun _ h => h.read) fun _ _ _ h => h.read
  | @activateListeners t r b p todo e hpc hold =>
    have hlist : s.listenersAt p = e.listeners := listenersAt_of_lookup hold
    have hnodup : (ownedBy L b e.listeners).Nodup := hlist ▸ (hundisturbed.nodup p).filter _
    by_cases howned : a ∈ ownedBy L b e.listeners
    · have hlistener : Each.each (Listener.activate e.gotInitialValue) (ownedBy L b e.listeners)
          s.listener a = (s.listener a).activate e.gotInitialValue := Each.each_of_mem hnodup howned
      cases hon : (s.listener a).isActiveZMQ with
      | false =>
        refine (hs a).activated hon (t := t) hlistener
          (hundisturbed.call_of_mem (hlist ▸ (mem_ownedBy.mp howned).1)) ?_
          fun u hu => Function.update_of_ne hu _ _
        rw [goto_pc, Function.update_self]
        split
        · rename_i hgot
          rw [hgot]
          exact List.count_eq_one_of_mem hnodup howned
        · rename_i hgot
          rw [Bool.eq_false_iff.mpr hgot]
          rfl
      | true =>
        have hgot : e.gotInitialValue = false := by
          by_contra hgot
          have hpath : L.path a = p :=
            hundisturbed.listed.path_eq p e hold a (mem_ownedBy.mp howned).1
          have hoff := hok t rfl a (by rwa [hpc, visited, hlist])
          rw [hpath, entry_of_lookup hold, hon] at hoff
          exact Bool.noConfusion (hoff (by simpa using hgot))
        refine (hs a).moves (hlistener.trans ?_) rfl rfl (by rw [hpc, hgot]; rfl)
        rw [Listener.activate, if_pos hon]
    · refine (hs a).moves (Each.each_of_notMem howned) rfl rfl ?_
      rw [hpc]
      split
      · exact List.count_eq_zero_of_not_mem howned
      · rfl
  | @pushDone t r p reply ret hpc =>
    exact (hs a).moves rfl rfl rfl (by rw [hpc]; cases ret <;> rfl)
  | @pushPolled t r p value b as ret hpc =>
    by_cases hab : a = b
    · subst hab
      exact (hs a).pushed as (by rw [hpc]; rfl) rfl
    · refine (hs a).moves (Function.update_of_ne hab _ _) rfl rfl ?_
      rw [hpc]
      exact (List.count_cons_of_ne (Ne.symm hab)).symm
  | activateChecked hpc | exchangeSet hpc | exchangeUnset hpc | activateAllListeners hpc
  | activateDone hpc | activateSkips hpc | poll hpc =>
    exact (hs a).moves rfl rfl rfl (by rw [hpc]; rfl)
  | deactivateInactive hpc | deactivateActive hpc | deactivateWaits hpc | awaitStarted hpc
  | detach hpc | eraseSubscription hpc | eraseMissing hpc | pushErrorIgnored hpc
  | pushErrorChecked hpc | clearIsActiveZMQ hpc | pushException hpc | clearOpened hpc
  | clearAsyncRead hpc | clearLastFailedAddress hpc | setExceptionImpl hpc | pushExceptions hpc
  | pushExceptionsDone hpc | pushExceptionsAt hpc | informRuntimeError hpc | informMissing hpc
  | errorLoop hpc => exact (impossible hpc rfl).elim

section
omit [DecidableEq τ] [DecidableEq β]

theorem InitialValueDue.initialValueOnce (h : InitialValueDue s a)
    (hnone : ∀ t, a ∉ pending (s.pc t)) : InitialValueOnce (s.listener a).history := by
  cases h with
  | inactive fresh =>
    rw [fresh.history]
    exact .inactive
  | settled call polled =>
    obtain ⟨values, hl, hdata, hn⟩ := polled.history
    rw [hl]
    exact .active hdata hn
  | @awaited t _ _ one =>
    have hmem : a ∈ pending (s.pc t) := List.count_pos_iff.mp (by rw [one]; exact Nat.one_pos)
    exact absurd hmem (hnone t)

/-- While the poll may still be on its way. -/
theorem InitialValueDue.polled_le (h : InitialValueDue s a) :
    (s.listener a).history = [] ∨ ∃ got values, (s.listener a).history = .activated got :: values ∧
      (∀ x ∈ values, x.isData = true) ∧ values.countP Happening.isPolled ≤ got.toNat := by
  have of_polled {got : Bool} {n : ℕ} (polled : Polled got n (s.listener a)) (hn : n ≤ got.toNat) :
      ∃ got values, (s.listener a).history = .activated got :: values ∧
        (∀ x ∈ values, x.isData = true) ∧ values.countP Happening.isPolled ≤ got.toNat := by
    obtain ⟨values, hl, hdata, hcount⟩ := polled.history
    exact ⟨got, values, hl, hdata, hcount.trans_le hn⟩
  cases h with
  | inactive fresh => exact .inl fresh.history
  | settled _ polled => exact .inr (of_polled polled le_rfl)
  | awaited _ polled => exact .inr (of_polled polled (Nat.zero_le _))

theorem InitialValueDue.countP_le_one (h : InitialValueDue s a) :
    (s.listener a).history.countP Happening.isPolled ≤ 1 := by
  obtain hnil | ⟨got, values, hl, -, hcount⟩ := h.polled_le
  · rw [hnil]
    exact Nat.zero_le 1
  · rw [hl, List.countP_cons_of_neg (by simp [Happening.isPolled])]
    exact hcount.trans (Bool.toNat_le got)

/-- Without a poll, the first value is the callback's. -/
theorem InitialValueDue.delivered_first (h : InitialValueDue s a) {x : Happening}
    {values : List Happening} (hhistory : (s.listener a).history = .activated false :: x :: values) :
    ∃ value, x = .delivered value := by
  obtain hnil | ⟨got, values', hl, hdata, hcount⟩ := h.polled_le
  · rw [hnil] at hhistory
    cases hhistory
  · rw [hhistory] at hl
    obtain ⟨hgot, rfl⟩ := List.cons_eq_cons.mp hl
    cases hgot
    have hx := hdata x (List.mem_cons_self ..)
    have hnot := List.countP_eq_zero.mp (Nat.le_zero.mp hcount) x (List.mem_cons_self ..)
    cases x with
    | delivered value => exact ⟨value, rfl⟩
    | polled value => exact absurd rfl hnot
    | activated got | exception message => cases hx

end

/-- In a run without errors in which activations do not meet listeners that are active already,
a listener gets at most one polled value, and it has got what it is due as soon as no thread is
about to push into it. Where none is due, its first value comes from the callback. -/
theorem initial_value_once {backend : β → Backend.BackendState} {es : List (Event τ α β)}
    (run : Runs.Run (step L) (fun s e => noFailure e ∧ VisitsInactive L s e) (initial backend) es s)
    (a : α) :
    (s.listener a).history.countP Happening.isPolled ≤ 1 ∧
      ((∀ t, a ∉ pending (s.pc t)) → InitialValueOnce (s.listener a).history) ∧
      ∀ x values, (s.listener a).history = .activated false :: x :: values →
        ∃ value, x = .delivered value := by
  have hdue := (run.invariant (I := fun s => Undisturbed L s ∧ ∀ a, InitialValueDue s a)
    (fun _ _ _ hs hok h =>
      have h := transition_of_step h
      ⟨undisturbed_step hs.1 hok.1 h, initialValueDue_step hs.1 hs.2 hok.1 hok.2 h⟩)
    ⟨⟨listed_initial backend, fun _ => rfl, fun _ => .inl rfl⟩,
      fun _ => .inactive ⟨rfl, rfl⟩ fun _ => rfl⟩).2 a
  exact ⟨hdue.countP_le_one, hdue.initialValueOnce, fun _ _ => hdue.delivered_first⟩

/-- The backend is activated while its second listener subscribes; both find the initial value
seen. -/
def subscribesMeanwhile : List (Event Bool Bool Unit) :=
  [.call true (.subscribe true false), .call true (.data "F/D/L/P".toList 0),
    .call true (.activateAsyncRead ()), .next true none, .call false (.subscribe false false),
    .next false none, .next false none, .next false none, .next true none, .next true none,
    .next true none, .next true none, .next true none, .next true none, .next true none]

/-- One activation, two polled values. -/
theorem not_initial_value_once :
    ∃ s, Runs.exec (step onePath) (initial fun _ => { opened := true }) subscribesMeanwhile = some s ∧
      (∀ e ∈ subscribesMeanwhile, noFailure e) ∧ (∀ t, s.pc t = .idle) ∧
      (s.listener false).history = [.activated true, .polled 0, .polled 0] := by
  refine ⟨_, rfl, by decide, fun t => ?_, by decide⟩
  cases t <;> rfl

/-- The second listener subscribes after the activation. -/
def subscribesAfterwards : List (Event Bool Bool Unit) :=
  [.call true (.subscribe true false), .call true (.data "F/D/L/P".toList 0),
    .call true (.activateAsyncRead ()), .next true none, .next true none, .next true none,
    .next true none, .next true none, .next true none, .next true none,
    .call false (.subscribe false false), .next false none, .next false none, .next false none]

theorem initial_value_once_afterwards :
    ∃ s, Runs.exec (step onePath) (initial fun _ => { opened := true }) subscribesAfterwards = some s ∧
      InitialValueOnce (s.listener false).history := by
  have run : Runs.Run (step onePath) (fun s e => noFailure e ∧ VisitsInactive onePath s e)
      (initial fun _ => { opened := true }) subscribesAfterwards _ :=
    Runs.Along.run (by decide) rfl
  refine ⟨_, run.exec_eq, (initial_value_once run false).2.1 fun t => ?_⟩
  cases t <;> decide

end State

end DoocsBackend.Zmq
