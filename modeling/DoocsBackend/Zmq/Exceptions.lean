import DoocsBackend.Zmq.ExceptionLast
import DoocsBackend.Zmq.Lists

/-! # Exceptions are counted

A listener which is active is owed an exception by whoever has one to push, and pushing it
deactivates the listener. `pollInitialValue` works without the lock: between its test of
`isActiveZMQ` and its push another thread may find the listener active as well. While no
test falls into such a window, nobody pushes an exception for which another one has paid.
-/
namespace DoocsBackend.Zmq

namespace Listener

/-- The exceptions the listener has got so far. -/
def exceptions (l : Listener) : ℕ := l.history.countP Happening.isException

/-- The exceptions the listener has got, and the one it may still get: an exception deactivates it. -/
def balance (l : Listener) : ℕ := l.exceptions + l.isActiveZMQ.toNat

/-- Neither an exception nor a change of the flag has come between two states of a listener. -/
structure Unexcepted (l' l : Listener) : Prop where
  exceptions_eq : l'.exceptions = l.exceptions
  active_eq : l'.isActiveZMQ = l.isActiveZMQ

/-- What happens between two states of a listener which is not activated. -/
structure Follows (l' l : Listener) : Prop where
  balance_eq : l'.balance = l.balance
  active : l'.isActiveZMQ = true → l.isActiveZMQ = true

variable (Q : FutureQueue) {l l' l'' : Listener}

theorem exceptions_pushException (message : Text) :
    (l.pushException Q message).exceptions = l.exceptions + 1 :=
  List.countP_append.trans rfl

namespace Unexcepted

theorem refl (l : Listener) : l.Unexcepted l := ⟨rfl, rfl⟩

theorem trans (h : l'.Unexcepted l) (h' : l''.Unexcepted l') : l''.Unexcepted l :=
  ⟨h'.exceptions_eq.trans h.exceptions_eq, h'.active_eq.trans h.active_eq⟩

theorem balance_eq (h : l'.Unexcepted l) : l'.balance = l.balance := by
  unfold balance
  rw [h.exceptions_eq, h.active_eq]

theorem pushPolled (l : Listener) (value : ℕ) : (l.pushPolled Q value).Unexcepted l :=
  ⟨List.countP_append.trans rfl, rfl⟩

theorem deliver (l : Listener) (value : ℕ) : (l.deliver Q value).Unexcepted l := by
  unfold Listener.deliver
  split
  · exact ⟨List.countP_append.trans rfl, rfl⟩
  · exact refl l

theorem read (l : Listener) : (l.read Q).Unexcepted l := by
  unfold Listener.read
  split <;> exact ⟨rfl, rfl⟩

end Unexcepted

namespace Follows

theorem refl (l : Listener) : l.Follows l := ⟨rfl, id⟩

theorem trans (h : l'.Follows l) (h' : l''.Follows l') : l''.Follows l :=
  ⟨h'.balance_eq.trans h.balance_eq, h.active ∘ h'.active⟩

theorem pushError (l : Listener) (message : Text) : (l.pushError Q message).Follows l := by
  refine ⟨?_, fun h => by simp at h⟩
  unfold Listener.pushError
  split
  · rename_i hactive
    unfold balance
    rw [exceptions_pushException, hactive]
    rfl
  · rfl

theorem exceptions_le (h : l'.Follows l) : l.exceptions ≤ l'.exceptions := by
  have hbalance := h.balance_eq
  unfold balance at hbalance
  cases hactive : l'.isActiveZMQ with
  | true =>
    rw [hactive, h.active hactive] at hbalance
    exact (Nat.add_right_cancel hbalance).ge
  | false =>
    rw [hactive] at hbalance
    exact (Nat.le_add_right _ _).trans hbalance.ge

end Follows

/-- Nothing more is owed to a listener which is inactive. -/
theorem exceptions_of_inactive (h : l.isActiveZMQ = false) : l.exceptions = l.balance := by
  rw [balance, h]
  rfl

end Listener

namespace State
variable {τ α β : Type} [DecidableEq τ] [DecidableEq α] [DecidableEq β]

/-- The listener for which a thread is in the middle of a `pushError` without lock. -/
def inPushError : Pc α β → Option α
  | .clearIsActiveZMQ _ _ a _ _ | .pushException _ _ a _ _ => some a
  | _ => none

/-- The listeners whose `isActiveZMQ` a thread tests next, to push an exception. -/
def tested (s : State τ α β) (L : Layout α β) : Pc α β → List α
  | .pushInitialValue _ (.error _) (a :: _) _ => [a]
  | .errorLoop p _ k n => if k < n then ((s.listenersAt p)[k]?).toList else []
  | .pushExceptionsAt b _ (p :: _) => ownedBy L b (s.listenersAt p)
  | _ => []

/-- The listeners whose `isActiveZMQ` is tested by a step, to push an exception. -/
def tests (s : State τ α β) (L : Layout α β) : Event τ α β → List α
  | .call _ (.error p _) => (s.listenersAt p)[0]?.toList
  | .next t _ => s.tested L (s.pc t)
  | _ => []

/-- No `pushError` for the listener begins in the middle of another one. -/
def PushesApart (L : Layout α β) (a : α) (s : State τ α β) (e : Event τ α β) : Prop :=
  a ∈ s.tests L e → ∀ u, inPushError (s.pc u) ≠ some a

instance [Fintype τ] (L : Layout α β) (a : α) (s : State τ α β) (e : Event τ α β) :
    Decidable (PushesApart L a s e) :=
  inferInstanceAs (Decidable (a ∈ s.tests L e → ∀ _, _))

/-- In the end the listener will have got `total` exceptions, unless it is activated again. -/
inductive ExceptionDue (s : State τ α β) (a : α) (total : ℕ) : Prop
  | settled (balance : (s.listener a).balance = total) (none : ∀ t, inPushError (s.pc t) ≠ some a)
  | begun {t : τ} (exceptions : (s.listener a).exceptions + 1 = total)
      (one : inPushError (s.pc t) = some a) (alone : ∀ u ≠ t, inPushError (s.pc u) ≠ some a)
      (inactive : excepted (s.pc t) = some a → (s.listener a).isActiveZMQ = false)

/-- No `pushError` for the listener begins or ends. -/
def SamePlaces (s s' : State τ α β) (a : α) : Prop :=
  ∀ u, (inPushError (s'.pc u) = some a ↔ inPushError (s.pc u) = some a) ∧
    (excepted (s'.pc u) = some a ↔ excepted (s.pc u) = some a)

/-- What a step does to the exceptions of a listener it does not activate. -/
inductive ExceptionStep (L : Layout α β) (s s' : State τ α β) (e : Event τ α β) (a : α) : Prop
  | aside (same : (s'.listener a).Unexcepted (s.listener a)) (places : SamePlaces s s' a)
  | pushesAtOnce (tested : a ∈ s.tests L e) (inactive : (s'.listener a).isActiveZMQ = false)
      (follows : (s'.listener a).Follows (s.listener a)) (places : SamePlaces s s' a)
  | checks {t : τ} {pc : Pc α β} (tested : a ∈ s.tests L e)
      (active : (s.listener a).isActiveZMQ = true) (same : s'.listener a = s.listener a)
      (moves : s'.pc = Function.update s.pc t pc) (begun : inPushError pc = some a)
      (notYet : excepted pc = none)
  | clears {t : τ} {pc : Pc α β} (begun : inPushError (s.pc t) = some a)
      (cleared : s'.listener a = (s.listener a).deactivate)
      (moves : s'.pc = Function.update s.pc t pc) (stays : inPushError pc = some a)
  | pushes {t : τ} {pc : Pc α β} {message : Text} (begun : excepted (s.pc t) = some a)
      (pushed : s'.listener a = (s.listener a).pushException L.queue message)
      (moves : s'.pc = Function.update s.pc t pc) (ended : inPushError pc = none)

variable {L : Layout α β} {s s' : State τ α β} {a : α} {total : ℕ}

omit [DecidableEq α] [DecidableEq β] in
theorem inPushError_of_excepted {pc : Pc α β} (h : excepted pc = some a) : inPushError pc = some a := by
  cases pc with
  | pushException p text b as ret => exact h
  | _ => cases h

omit [DecidableEq α] [DecidableEq β] in
theorem excepted_of_not_inPushError {pc : Pc α β} (h : inPushError pc ≠ some a) :
    excepted pc ≠ some a :=
  fun hexcepted => h (inPushError_of_excepted hexcepted)

omit [DecidableEq τ] [DecidableEq α] [DecidableEq β] in
theorem samePlaces_of_pc (h : s'.pc = s.pc) : SamePlaces s s' a := by
  intro u
  rw [h]
  exact ⟨Iff.rfl, Iff.rfl⟩

omit [DecidableEq α] [DecidableEq β] in
theorem samePlaces_goto {s₁ : State τ α β} {t : τ} {pc : Pc α β} (hpc : s₁.pc = s.pc)
    (hbefore : inPushError (s.pc t) ≠ some a) (hafter : inPushError pc ≠ some a) :
    SamePlaces s (s₁.goto t pc) a :=
  fun u => ⟨place_goto inPushError hpc hbefore hafter u,
    place_goto excepted hpc (excepted_of_not_inPushError hbefore)
      (excepted_of_not_inPushError hafter) u⟩

omit [DecidableEq α] [DecidableEq β] in
theorem samePlaces_outside {s₁ : State τ α β} {t : τ} {pc : Pc α β} (hpc : s₁.pc = s.pc)
    (hbefore : inPushError (s.pc t) = none) (hafter : inPushError pc = none) :
    SamePlaces s (s₁.goto t pc) a :=
  samePlaces_goto hpc (by rw [hbefore]; nofun) (by rw [hafter]; nofun)

namespace ExceptionStep
variable {e : Event τ α β}

omit [DecidableEq α] in
/-- A thread goes on, neither of its places in a `pushError` for the listener. -/
theorem of_goto {s₁ : State τ α β} {t : τ} {pc : Pc α β}
    (same : (s₁.listener a).Unexcepted (s.listener a)) (hpc : s₁.pc = s.pc)
    (hbefore : inPushError (s.pc t) = none) (hafter : inPushError pc = none) :
    ExceptionStep L s (s₁.goto t pc) e a :=
  .aside same (samePlaces_outside hpc hbefore hafter)

omit [DecidableEq α] in
/-- A thread goes on with a `pushError` for another listener. -/
theorem of_other {s₁ : State τ α β} {t : τ} {pc : Pc α β} {b : α} (hab : a ≠ b)
    (same : (s₁.listener a).Unexcepted (s.listener a)) (hpc : s₁.pc = s.pc)
    (hbefore : ∀ c ∈ inPushError (s.pc t), c = b) (hafter : ∀ c ∈ inPushError pc, c = b) :
    ExceptionStep L s (s₁.goto t pc) e a :=
  .aside same (samePlaces_goto hpc (fun h => hab (hbefore a h)) fun h => hab (hafter a h))

theorem of_serveError {s₁ : State τ α β} {t : τ} {p text : Text} {k n : ℕ}
    (hlistener : s₁.listener = s.listener) (hpc : s₁.pc = s.pc)
    (hlists : s₁.listenersAt = s.listenersAt) (hbefore : inPushError (s.pc t) = none)
    (htests : ∀ b ∈ (s.listenersAt p)[k]?, k < n → b ∈ s.tests L e) :
    ExceptionStep L s (s₁.serveError L t p text k n) e a := by
  have hsame : (s₁.listener a).Unexcepted (s.listener a) := by
    rw [hlistener]
    exact .refl _
  unfold serveError
  split
  · rename_i hk
    rw [hlists]
    split
    · rename_i b hb
      by_cases hab : a = b
      · subst hab
        refine .pushesAtOnce (htests a hb hk) ?_ ?_ (samePlaces_outside hpc hbefore rfl)
        · exact Each.each_establishes (P := fun l : Listener => l.isActiveZMQ = false) (by simp)
            (List.mem_singleton_self a)
        · rw [← hlistener]
          exact Each.each_preserves (P := fun l : Listener => l.Follows (s₁.listener a))
            (fun l h => h.trans (.pushError _ l _)) (.refl _)
      · refine of_goto ?_ hpc hbefore rfl
        rwa [eachListener_listener, Each.each_of_notMem (by simpa using hab)]
    · exact .aside hsame (samePlaces_of_pc hpc)
  · exact of_goto hsame hpc hbefore rfl

theorem of_transition (h : Transition L s e s') (hactivates : ¬ Activates L s e a)
    (hclose : ∀ t b, e ≠ .call t (.close b)) : ExceptionStep L s s' e a := by
  have hrefl : (s.listener a).Unexcepted (s.listener a) := .refl _
  have entered {b : α} {l : Listener} (hb : e.subscriber? = some b) :
      (Function.update s.listener b l a).Unexcepted (s.listener a) := by
    rw [Function.update_of_ne]
    · exact hrefl
    · rintro rfl
      exact hactivates (.inl hb)
  have each {as : List α} {f : Listener → Listener} (hf : ∀ l, (f l).Unexcepted l) :
      (Each.each f as s.listener a).Unexcepted (s.listener a) :=
    Each.each_preserves (P := fun l : Listener => l.Unexcepted (s.listener a))
      (fun l h => h.trans (hf l)) hrefl
  have other {b : α} {f : Listener → Listener} (hab : a ≠ b) :
      (Each.each f [b] s.listener a).Unexcepted (s.listener a) := by
    rwa [Each.each_of_notMem (by simpa using hab)]
  have self {f : Listener → Listener} : Each.each f [a] s.listener a = f (s.listener a) :=
    Each.each_of_mem (List.nodup_singleton a) (List.mem_singleton_self a)
  cases h with
  | subscribeFails => exact .aside (entered rfl) (samePlaces_of_pc rfl)
  | subscribeNew hpc => exact .of_goto (entered rfl) rfl (by rw [hpc]; rfl) rfl
  | subscribeJoins hpc =>
    refine .of_goto (entered rfl) rfl (by rw [hpc]; rfl) ?_
    split <;> rfl
  | unsubscribeLeaves hpc =>
    refine .of_goto hrefl rfl (by rw [hpc]; rfl) ?_
    split <;> rfl
  | close => exact absurd rfl (hclose _ _)
  | data => exact .aside (each fun l => .deliver _ l _) (samePlaces_of_pc rfl)
  | read => exact .aside (each fun l => .read _ l) (samePlaces_of_pc rfl)
  | unsubscribeIgnored | activateIgnored | openSucceeds | dangling | eraseMissing | informMissing
  | publish => exact .aside hrefl (samePlaces_of_pc rfl)
  | @error t p text e hpc hattached hold =>
    refine .of_serveError rfl rfl ?_ (by rw [hpc]; rfl) fun b hb _ => by simpa [tests] using hb
    exact listenersAt_setSubscription_of_eq (listenersAt_of_lookup hold).symm
  | @errorLoop t r p text k n hpc =>
    refine .of_serveError rfl rfl rfl (by rw [hpc]; rfl) fun b hb hk => ?_
    rw [tests, hpc, tested, if_pos hk, Option.mem_toList]
    exact hb
  | @activateListeners t r b p todo e hpc hold =>
    have hnot : a ∉ ownedBy L b e.listeners := by
      intro hmem
      refine hactivates (.inr ⟨t, rfl, ?_⟩)
      rw [hpc, visited, listenersAt_of_lookup hold]
      exact hmem
    refine .of_goto ?_ rfl (by rw [hpc]; rfl) (by split <;> rfl)
    rwa [eachListener_listener, Each.each_of_notMem hnot]
  | @pushDone t r p reply ret hpc =>
    exact .of_goto hrefl rfl (by rw [hpc]; rfl) (by cases ret <;> rfl)
  | pushPolled hpc => exact .of_goto (each fun l => .pushPolled _ l _) rfl (by rw [hpc]; rfl) rfl
  | @pushErrorChecked t r p text b as ret hpc hactive =>
    by_cases hab : a = b
    · subst hab
      exact .checks (by rw [tests, hpc]; exact List.mem_singleton_self a) hactive rfl rfl rfl rfl
    · refine .of_other hab hrefl rfl ?_ ?_
      · rw [hpc]
        rintro c ⟨⟩
      · rintro c ⟨⟩
        rfl
  | @clearIsActiveZMQ t r p text b as ret hpc =>
    by_cases hab : a = b
    · subst hab
      exact .clears (by rw [hpc]; rfl) self rfl rfl
    · refine .of_other hab (other hab) rfl ?_ ?_
      · rw [hpc]
        rintro c ⟨⟩
        rfl
      · rintro c ⟨⟩
        rfl
  | @pushException t r p text b as ret hpc =>
    by_cases hab : a = b
    · subst hab
      exact .pushes (by rw [hpc]; rfl) self rfl rfl
    · refine .of_other hab (other hab) rfl ?_ ?_
      · rw [hpc]
        rintro c ⟨⟩
        rfl
      · rintro c ⟨⟩
  | @pushExceptionsAt t r b message p todo hpc =>
    by_cases hmem : a ∈ ownedBy L b (s.listenersAt p)
    · refine .pushesAtOnce (by rwa [tests, hpc]) ?_ ?_
        (samePlaces_outside rfl (by rw [hpc]; rfl) rfl)
      · exact Each.each_establishes (P := fun l : Listener => l.isActiveZMQ = false) (by simp) hmem
      · exact Each.each_preserves (P := fun l : Listener => l.Follows (s.listener a))
          (fun l h => h.trans (.pushError _ l _)) (.refl _)
    · refine .of_goto ?_ rfl (by rw [hpc]; rfl) rfl
      rwa [eachListener_listener, Each.each_of_notMem hmem]
  | activateChecked hpc | openFails hpc | setException hpc
  | deactivateInactive hpc | deactivateActive hpc | deactivateWaits hpc | awaitStarted hpc
  | detach hpc | eraseSubscription hpc | exchangeSet hpc | exchangeUnset hpc
  | activateAllListeners hpc | activateDone hpc | activateSkips hpc | poll hpc
  | pushErrorIgnored hpc | clearOpened hpc | clearAsyncRead hpc | clearLastFailedAddress hpc
  | setExceptionImpl hpc | pushExceptions hpc | pushExceptionsDone hpc | informRuntimeError hpc =>
    exact .of_goto hrefl rfl (by rw [hpc]; rfl) rfl

section
omit [DecidableEq α]

theorem active (h : ExceptionStep L s s' e a) (hactive : (s'.listener a).isActiveZMQ = true) :
    (s.listener a).isActiveZMQ = true := by
  cases h with
  | aside same => rwa [← same.active_eq]
  | pushesAtOnce _ inactive =>
    rw [inactive] at hactive
    cases hactive
  | checks _ active => exact active
  | clears _ cleared =>
    rw [cleared] at hactive
    cases hactive
  | pushes _ pushed => rwa [pushed] at hactive

theorem exceptions_le (h : ExceptionStep L s s' e a) :
    (s.listener a).exceptions ≤ (s'.listener a).exceptions := by
  cases h with
  | aside same => exact same.exceptions_eq.ge
  | pushesAtOnce _ _ follows => exact follows.exceptions_le
  | checks _ _ same => rw [same]
  | clears _ cleared =>
    rw [cleared]
    exact le_rfl
  | pushes _ pushed =>
    rw [pushed, Listener.exceptions_pushException]
    exact Nat.le_succ _

/-- For an inactive listener no `pushError` begins. -/
theorem apart (h : ExceptionStep L s s' e a) (hinactive : (s.listener a).isActiveZMQ = false)
    (hnone : ∀ u, inPushError (s.pc u) ≠ some a) (u : τ) : inPushError (s'.pc u) ≠ some a := by
  cases h with
  | aside _ places | pushesAtOnce _ _ _ places => exact fun hu => hnone u ((places u).1.mp hu)
  | checks _ active =>
    rw [hinactive] at active
    cases active
  | clears begun => exact absurd begun (hnone _)
  | pushes begun => exact absurd (inPushError_of_excepted begun) (hnone _)

end

end ExceptionStep

omit [DecidableEq α] in
theorem ExceptionDue.step (hs : ExceptionDue s a total) {e : Event τ α β}
    (hok : PushesApart L a s e) (h : ExceptionStep L s s' e a) : ExceptionDue s' a total := by
  -- whoever is in a `pushError` for the listener is the thread known to be there
  have begun_by {t : τ} (ht : inPushError (s.pc t) = some a) :
      (s.listener a).exceptions + 1 = total ∧ (∀ u ≠ t, inPushError (s.pc u) ≠ some a) ∧
        (excepted (s.pc t) = some a → (s.listener a).isActiveZMQ = false) := by
    cases hs with
    | settled balance none => exact absurd ht (none t)
    | @begun u exceptions one alone inactive =>
      obtain rfl : t = u := by
        by_contra hne
        exact alone t hne ht
      exact ⟨exceptions, alone, inactive⟩
  cases h with
  | aside same places =>
    cases hs with
    | settled balance none =>
      refine .settled (same.balance_eq.trans balance) fun t ht => ?_
      exact none t ((places t).1.mp ht)
    | begun exceptions one alone inactive =>
      refine .begun (by rw [same.exceptions_eq, exceptions]) ((places _).1.mpr one)
        (fun u hu ht => alone u hu ((places u).1.mp ht)) fun hwaits => ?_
      rw [same.active_eq]
      exact inactive ((places _).2.mp hwaits)
  | pushesAtOnce tested inactive follows places =>
    cases hs with
    | settled balance none =>
      refine .settled (follows.balance_eq.trans balance) fun t ht => ?_
      exact none t ((places t).1.mp ht)
    | begun exceptions one => exact absurd one (hok tested _)
  | @checks t pc tested active same moves begun notYet =>
    cases hs with
    | settled balance none =>
      refine .begun (t := t) ?_ ?_ (fun u hu => ?_) fun hwaits => ?_
      · rw [same, ← balance, Listener.balance, active]
        rfl
      · rwa [moves, Function.update_self]
      · rw [moves, Function.update_of_ne hu]
        exact none u
      · rw [moves, Function.update_self, notYet] at hwaits
        cases hwaits
    | begun exceptions one => exact absurd one (hok tested _)
  | @clears t pc begun cleared moves stays =>
    obtain ⟨exceptions, alone, -⟩ := begun_by begun
    refine .begun (t := t) ?_ ?_ (fun u hu => ?_) fun _ => ?_
    · rw [cleared]
      exact exceptions
    · rwa [moves, Function.update_self]
    · rw [moves, Function.update_of_ne hu]
      exact alone u hu
    · rw [cleared]
      rfl
  | @pushes t pc message begun pushed moves ended =>
    obtain ⟨exceptions, alone, inactive⟩ := begun_by (inPushError_of_excepted begun)
    refine .settled ?_ fun u => ?_
    · rw [pushed, Listener.balance, Listener.exceptions_pushException, exceptions,
        Listener.pushException_isActiveZMQ, inactive begun]
      rfl
    · by_cases hu : u = t
      · subst hu
        rw [moves, Function.update_self, ended]
        nofun
      · rw [moves, Function.update_of_ne hu]
        exact alone u hu

section
omit [DecidableEq τ] [DecidableEq α] [DecidableEq β]

theorem ExceptionDue.total_le (hs : ExceptionDue s a total) :
    total ≤ (s.listener a).exceptions + 1 := by
  cases hs with
  | settled balance =>
    rw [← balance]
    exact Nat.add_le_add_left (Bool.toNat_le _) _
  | begun exceptions => exact exceptions.ge

theorem ExceptionDue.le_total (hs : ExceptionDue s a total) : (s.listener a).exceptions ≤ total := by
  cases hs with
  | settled balance => exact (Nat.le_add_right _ _).trans balance.le
  | begun exceptions => exact (Nat.le_succ _).trans exceptions.le

/-- What an inactive listener has got, if nobody is about to push to it. -/
theorem ExceptionDue.exceptions_eq (hs : ExceptionDue s a total)
    (hinactive : (s.listener a).isActiveZMQ = false) (hnone : ∀ t, inPushError (s.pc t) ≠ some a) :
    (s.listener a).exceptions = total := by
  cases hs with
  | settled balance => exact (Listener.exceptions_of_inactive hinactive).trans balance
  | begun exceptions one => exact absurd one (hnone _)

end

end State

end DoocsBackend.Zmq
