import DoocsBackend.Zmq.Manager

/-! # Subscriptions without interleaving

What is left of the subscription manager if its functions are called one after the other: the
listeners entered for each path, and which listeners are active.
-/
namespace DoocsBackend.Zmq

/-- A registry between two calls of the manager. A subscription without listeners is deleted by the
call which removes the last one. -/
structure Registry (α : Type) where
  subscription : Text → Option (Subscription α)
  isActiveZMQ : α → Bool
  nonempty : ∀ p e, subscription p = some e → e.listeners ≠ []

namespace Registry
variable {α : Type} [DecidableEq α]

/-- Replace the subscription of a path. -/
def set (r : Registry α) (p : Text) (e : Subscription α) (he : e.listeners ≠ []) : Registry α where
  subscription := Function.update r.subscription p (some e)
  isActiveZMQ := r.isActiveZMQ
  nonempty q e' h := by
    by_cases hq : q = p
    · subst hq
      rw [Function.update_self] at h
      rwa [← Option.some.inj h]
    · rw [Function.update_of_ne hq] at h
      exact r.nonempty q e' h

omit [DecidableEq α] in
theorem set_subscription_self (r : Registry α) {p : Text} {e : Subscription α}
    (he : e.listeners ≠ []) : (r.set p e he).subscription p = some e := by
  simp [set]

omit [DecidableEq α] in
theorem set_subscription_of_ne (r : Registry α) {p q : Text} {e : Subscription α}
    (he : e.listeners ≠ []) (hq : q ≠ p) : (r.set p e he).subscription q = r.subscription q := by
  simp [set, hq]

/-- Delete the subscription of a path. -/
def erase (r : Registry α) (p : Text) : Registry α where
  subscription := Function.update r.subscription p none
  isActiveZMQ := r.isActiveZMQ
  nonempty q e' h := by
    by_cases hq : q = p
    · subst hq
      rw [Function.update_self] at h
      cases h
    · rw [Function.update_of_ne hq] at h
      exact r.nonempty q e' h

omit [DecidableEq α] in
theorem erase_subscription_self (r : Registry α) (p : Text) : (r.erase p).subscription p = none := by
  simp [erase]

omit [DecidableEq α] in
theorem erase_subscription_of_ne (r : Registry α) {p q : Text} (hq : q ≠ p) :
    (r.erase p).subscription q = r.subscription q := by
  simp [erase, hq]

/-- `isActiveZMQ` of one listener. -/
def setActive (r : Registry α) (a : α) (active : Bool) : Registry α where
  subscription := r.subscription
  isActiveZMQ := Function.update r.isActiveZMQ a active
  nonempty := r.nonempty

/-- `ZMQSubscriptionManager::subscribe`, and whether it throws. -/
def subscribe (r : Registry α) (p : Text) (a : α) (asyncReadActivated attachFails : Bool) :
    Registry α × Bool :=
  let r := r.setActive a asyncReadActivated
  match r.subscription p with
  | none =>
    (r.set p { listeners := [a], active := !attachFails } (List.cons_ne_nil a []), attachFails)
  | some e => (r.set p { e with listeners := e.listeners ++ [a] } (List.concat_ne_nil a _), false)

/-- `ZMQSubscriptionManager::unsubscribe`, once the callback has been called where it waits for
that. -/
def unsubscribe (r : Registry α) (p : Text) (a : α) : Registry α :=
  match r.subscription p with
  | none => r
  | some e =>
    if a ∈ e.listeners then
      if h : State.eraseRemoved a e.listeners = [] then r.erase p
      else r.set p { e with listeners := State.eraseRemoved a e.listeners } h
    else r

/-- An object which is still under construction is not in the list of any path. -/
def Fresh (r : Registry α) (a : α) : Prop := ∀ p e, r.subscription p = some e → a ∉ e.listeners

/-- The same subscriptions, and the same listeners are active apart from the given one. -/
structure SameFor {α : Type} (a : α) (r r' : Registry α) : Prop where
  subscription : ∀ p, r'.subscription p = r.subscription p
  isActiveZMQ : ∀ b, b ≠ a → r'.isActiveZMQ b = r.isActiveZMQ b

variable {r : Registry α} {p : Text} {a : α}

theorem SameFor.refl {α : Type} (a : α) (r : Registry α) : SameFor a r r := ⟨fun _ => rfl, fun _ _ => rfl⟩

theorem eraseRemoved_concat {xs : List α} (h : a ∉ xs) : State.eraseRemoved a (xs ++ [a]) = xs := by
  have hkept : (xs ++ [a]).filter (fun x => decide (x ≠ a)) = xs := by
    rw [List.filter_append, List.filter_eq_self.mpr]
    · simp
    · intro x hx
      apply decide_eq_true
      rintro rfl
      exact h hx
  rw [State.eraseRemoved, hkept]
  simp

/-- Nothing is removed for an object which is not entered. -/
theorem unsubscribe_of_notMem (h : ∀ e, r.subscription p = some e → a ∉ e.listeners) :
    r.unsubscribe p a = r := by
  unfold unsubscribe
  split
  · rfl
  · rename_i e he
    rw [if_neg (h e he)]

/-- Removing the only listener deletes the subscription. -/
theorem unsubscribe_of_last {e : Subscription α} (h : r.subscription p = some e)
    (ha : a ∈ e.listeners) (hl : State.eraseRemoved a e.listeners = []) :
    r.unsubscribe p a = r.erase p := by
  unfold unsubscribe
  rw [h]
  simp only
  rw [if_pos ha, dif_pos hl]

theorem unsubscribe_of_others {e : Subscription α} (h : r.subscription p = some e)
    (ha : a ∈ e.listeners) (hl : State.eraseRemoved a e.listeners ≠ []) :
    r.unsubscribe p a = r.set p { e with listeners := State.eraseRemoved a e.listeners } hl := by
  unfold unsubscribe
  rw [h]
  simp only
  rw [if_pos ha, dif_neg hl]

theorem subscribe_of_none (h : r.subscription p = none) (asyncReadActivated attachFails : Bool) :
    r.subscribe p a asyncReadActivated attachFails =
      ((r.setActive a asyncReadActivated).set p { listeners := [a], active := !attachFails }
        (List.cons_ne_nil a []), attachFails) := by
  have h' : (r.setActive a asyncReadActivated).subscription p = none := h
  simp only [subscribe]
  rw [h']

theorem subscribe_of_some {e : Subscription α} (h : r.subscription p = some e)
    (asyncReadActivated attachFails : Bool) :
    r.subscribe p a asyncReadActivated attachFails =
      ((r.setActive a asyncReadActivated).set p { e with listeners := e.listeners ++ [a] }
        (List.concat_ne_nil a _), false) := by
  have h' : (r.setActive a asyncReadActivated).subscription p = some e := h
  simp only [subscribe]
  rw [h']

/-- Only a new subscription can fail. -/
theorem subscribe_throws_iff {asyncReadActivated attachFails : Bool} :
    (r.subscribe p a asyncReadActivated attachFails).2 = true ↔
      r.subscription p = none ∧ attachFails = true := by
  cases h : r.subscription p with
  | none => simp [subscribe_of_none h]
  | some e => simp [subscribe_of_some h]

/-- Unsubscribing takes back all a new object has changed by subscribing, whether it succeeded or
not. -/
theorem sameFor_unsubscribe_subscribe (h : r.Fresh a) (p : Text)
    (asyncReadActivated attachFails : Bool) :
    SameFor a r ((r.subscribe p a asyncReadActivated attachFails).1.unsubscribe p a) := by
  have hactive (b : α) (hb : b ≠ a) :
      (r.setActive a asyncReadActivated).isActiveZMQ b = r.isActiveZMQ b :=
    Function.update_of_ne hb _ _
  cases he : r.subscription p with
  | none =>
    rw [subscribe_of_none he, unsubscribe_of_last (set_subscription_self _ _) List.mem_cons_self
      (eraseRemoved_concat List.not_mem_nil)]
    refine ⟨fun q => ?_, hactive⟩
    by_cases hq : q = p
    · rw [hq, he, erase_subscription_self]
    · rw [erase_subscription_of_ne _ hq, set_subscription_of_ne _ _ hq]
      rfl
  | some e =>
    have hl := eraseRemoved_concat (h p e he)
    rw [subscribe_of_some he, unsubscribe_of_others (set_subscription_self _ _)
      (List.mem_append_right _ List.mem_cons_self) (by rw [hl]; exact r.nonempty p e he)]
    refine ⟨fun q => ?_, hactive⟩
    by_cases hq : q = p
    · rw [hq, he, set_subscription_self, hl]
    · rw [set_subscription_of_ne _ _ hq, set_subscription_of_ne _ _ hq]
      rfl

/-! ## The threads of the manager without interleaving -/

section Represents
variable {τ β : Type} [DecidableEq τ] [DecidableEq β] {L : Layout α β} {s s' : State τ α β}

/-- The registry is what the subscription map and the listeners hold. -/
structure Represents (r : Registry α) (s : State τ α β) : Prop where
  subscription : ∀ p, s.subscriptionMap.lookup p = r.subscription p
  isActiveZMQ : ∀ a, (s.listener a).isActiveZMQ = r.isActiveZMQ a

omit [DecidableEq α] [DecidableEq τ] [DecidableEq β] in
theorem Represents.congr (h : Represents r s) (hmap : s'.subscriptionMap = s.subscriptionMap)
    (hlistener : s'.listener = s.listener) : Represents r s' :=
  ⟨fun q => by rw [hmap, h.subscription], fun b => by rw [hlistener, h.isActiveZMQ]⟩

omit [DecidableEq α] [DecidableEq τ] [DecidableEq β] in
theorem lookup_setSubscription (h : Represents r s) {e : Subscription α} (he : e.listeners ≠ [])
    (q : Text) :
    (s.setSubscription p e).subscriptionMap.lookup q = (r.set p e he).subscription q := by
  by_cases hq : q = p
  · subst hq
    rw [State.setSubscription_subscriptionMap, AList.lookup_insert, set_subscription_self]
  · rw [State.setSubscription_subscriptionMap, AList.lookup_insert_ne hq, h.subscription,
      set_subscription_of_ne _ _ hq]

omit [DecidableEq τ] [DecidableEq β] in
theorem Represents.entered (h : Represents r s) {active : Bool} {e : Subscription α}
    (he : e.listeners ≠ [])
    (heq : e = { s.entry (L.path a) with
      listeners := (s.entry (L.path a)).listeners ++ [a], active := active }) :
    Represents ((r.setActive a (s.backend (L.backend a)).asyncReadActivated).set (L.path a) e he)
      (s.entered L a active) where
  subscription q := by
    subst heq
    exact lookup_setSubscription h he q
  isActiveZMQ b := by
    change (Function.update s.listener a _ b).isActiveZMQ = Function.update r.isActiveZMQ a _ b
    by_cases hb : b = a
    · subst hb
      rw [Function.update_self, Function.update_self, Listener.subscribed_isActiveZMQ]
    · rw [Function.update_of_ne hb, Function.update_of_ne hb, h.isActiveZMQ]

omit [DecidableEq β] in
/-- The first step of `subscribe` is the whole of what it does to the registry. -/
theorem Represents.subscribe (h : Represents r s) {t : τ} {attachFails : Bool}
    (hs : s.subscribe L t a attachFails = some s') :
    Represents (r.subscribe (L.path a) a (s.backend (L.backend a)).asyncReadActivated
      attachFails).1 s' := by
  unfold State.subscribe at hs
  split at hs
  · cases hs
  · split at hs
    · rename_i hlookup
      rw [subscribe_of_none (by rw [← h.subscription, hlookup])]
      have hentry : s.entry (L.path a) = {} := by
        rw [State.entry, hlookup]
        rfl
      have hent (active : Bool) : Represents
          ((r.setActive a (s.backend (L.backend a)).asyncReadActivated).set (L.path a)
            { listeners := [a], active := active } (List.cons_ne_nil a [])) (s.entered L a active) :=
        h.entered _ (by rw [hentry]; rfl)
      cases attachFails with
      | true =>
        cases hs
        exact (hent false).congr rfl rfl
      | false =>
        cases hs
        exact (hent true).congr rfl rfl
    · rename_i e hlookup
      rw [subscribe_of_some (by rw [← h.subscription, hlookup])]
      have hentry : s.entry (L.path a) = e := by
        rw [State.entry, hlookup]
        rfl
      have hent : Represents
          ((r.setActive a (s.backend (L.backend a)).asyncReadActivated).set (L.path a)
            { e with listeners := e.listeners ++ [a] } (List.concat_ne_nil a _))
          (s.entered L a e.active) := h.entered _ (by rw [hentry])
      cases hs
      exact hent.congr rfl rfl

/-- The registry apart from the subscription of one path, which is about to be deleted. -/
structure RepresentsBut (p : Text) (r : Registry α) (s : State τ α β) : Prop where
  subscription : ∀ q, q ≠ p → s.subscriptionMap.lookup q = r.subscription q
  isActiveZMQ : ∀ a, (s.listener a).isActiveZMQ = r.isActiveZMQ a

omit [DecidableEq α] [DecidableEq τ] [DecidableEq β] in
/-- Once the subscription is gone, the registry is the one without it. -/
theorem RepresentsBut.erase (h : RepresentsBut p r s) (hp : s.subscriptionMap.lookup p = none) :
    Represents (r.erase p) s where
  subscription q := by
    by_cases hq : q = p
    · rw [hq, hp, erase_subscription_self]
    · rw [h.subscription q hq, erase_subscription_of_ne r hq]
  isActiveZMQ := h.isActiveZMQ

omit [DecidableEq α] [DecidableEq τ] [DecidableEq β] in
theorem RepresentsBut.set (h : RepresentsBut p r s) (e : Subscription α) :
    RepresentsBut p r (s.setSubscription p e) where
  subscription q hq := by
    rw [State.setSubscription_subscriptionMap, AList.lookup_insert_ne hq, h.subscription q hq]
  isActiveZMQ := h.isActiveZMQ

omit [DecidableEq α] [DecidableEq β] in
theorem RepresentsBut.goto (h : RepresentsBut p r s) (t : τ) (pc : Pc α β) :
    RepresentsBut p r (s.goto t pc) := ⟨h.subscription, h.isActiveZMQ⟩

/-- The rest of `unsubscribe` after the last listener has been removed. -/
def IsDeleting (p : Text) : Pc α β → Prop
  | .deactivateSubscription q | .awaitStarted q | .detach q | .eraseSubscription q => q = p
  | _ => False

/-- A thread which deletes a subscription goes on deleting it until it is gone. -/
theorem RepresentsBut.step (h : RepresentsBut p r s) {t : τ} {e : Event τ α β}
    (he : e.thread? = some t) (hpc : IsDeleting p (s.pc t)) (hs : s.step L e = some s') :
    RepresentsBut p r s' ∧ (IsDeleting p (s'.pc t) ∨
      s'.pc t = .idle ∧ s'.subscriptionMap.lookup p = none) := by
  cases e with
  | call | publish | read => cases he
  | next t' rpcError =>
    cases he
    simp only [State.step] at hs
    split at hs
    · cases hs
    · cases hat : s.pc t with
      | deactivateSubscription q =>
        obtain rfl : q = p := by rwa [hat] at hpc
        rw [hat] at hs
        simp only [State.advance] at hs
        split at hs
        · cases hs
        · split at hs
          · split at hs
            · cases hs
              exact ⟨(h.set _).goto _ _, .inl (by simp [IsDeleting])⟩
            · cases hs
              exact ⟨⟨(h.set _).subscription, h.isActiveZMQ⟩, .inl (by simp [IsDeleting])⟩
          · cases hs
            exact ⟨(h.set _).goto _ _, .inl (by simp [IsDeleting])⟩
      | awaitStarted q =>
        obtain rfl : q = p := by rwa [hat] at hpc
        rw [hat] at hs
        simp only [State.advance] at hs
        split at hs
        · cases hs
          exact ⟨⟨(h.set _).subscription, h.isActiveZMQ⟩, .inl (by simp [IsDeleting])⟩
        · cases hs
      | detach q =>
        obtain rfl : q = p := by rwa [hat] at hpc
        rw [hat] at hs
        cases hs
        exact ⟨⟨h.subscription, h.isActiveZMQ⟩, .inl (by simp [IsDeleting])⟩
      | eraseSubscription q =>
        obtain rfl : q = p := by rwa [hat] at hpc
        rw [hat] at hs
        simp only [State.advance] at hs
        split at hs
        · cases hs
        · split at hs
          · cases hs
            exact ⟨⟨h.subscription, h.isActiveZMQ⟩, .inl (by simp [IsDeleting, hat])⟩
          · cases hs
            refine ⟨⟨fun p hp => ?_, h.isActiveZMQ⟩, .inr ⟨by simp, by simp⟩⟩
            rw [State.goto_subscriptionMap, AList.lookup_erase_ne hp, h.subscription p hp]
      | _ =>
        rw [hat] at hpc
        exact hpc.elim

/-- A thread which has returned takes no further step by itself. -/
theorem eq_of_exec_idle {t : τ} {es : List (Event τ α β)} (hidle : s.pc t = .idle)
    (hes : ∀ e ∈ es, e.thread? = some t) (hs : Runs.exec (State.step L) s es = some s') :
    s' = s := by
  cases es with
  | nil => exact (Option.some.inj hs).symm
  | cons e es =>
    have he := hes e List.mem_cons_self
    cases e with
    | call | publish | read => cases he
    | next t' rpcError =>
      cases he
      simp [State.step, hidle, State.advance] at hs

/-- Deleting a subscription takes nothing else from the registry. -/
theorem RepresentsBut.exec (h : RepresentsBut p r s) {t : τ} {es : List (Event τ α β)}
    (hpc : IsDeleting p (s.pc t)) (hes : ∀ e ∈ es, e.thread? = some t)
    (hs : Runs.exec (State.step L) s es = some s') (hidle : s'.pc t = .idle) :
    Represents (r.erase p) s' := by
  induction es generalizing s with
  | nil =>
    cases hs
    rw [hidle] at hpc
    exact hpc.elim
  | cons e es ih =>
    obtain ⟨u, hu, hs⟩ := Option.bind_eq_some_iff.mp hs
    have hes' : ∀ e ∈ es, e.thread? = some t := fun e he => hes e (List.mem_cons_of_mem _ he)
    obtain ⟨hrep, hnext⟩ := h.step (hes e List.mem_cons_self) hpc hu
    rcases hnext with hnext | ⟨hdone, hgone⟩
    · exact ih hrep hnext hes' hs
    · rw [eq_of_exec_idle hdone hes' hs]
      exact hrep.erase hgone

/-- A thread which unsubscribes and is not interrupted by others leaves the registry behind. -/
theorem Represents.unsubscribe (h : Represents r s) {t : τ} {es : List (Event τ α β)}
    (hs : Runs.exec (State.step L) s (.call t (.unsubscribe a) :: es) = some s')
    (hes : ∀ e ∈ es, e.thread? = some t) (hidle : s'.pc t = .idle) :
    Represents (r.unsubscribe (L.path a) a) s' := by
  obtain ⟨u, hu, hs⟩ := Option.bind_eq_some_iff.mp hs
  simp only [State.step] at hu
  split at hu
  · rename_i hpc
    simp only [State.call, State.unsubscribe] at hu
    split at hu
    · cases hu
    · split at hu
      · rename_i hlookup
        cases hu
        have hnone : r.subscription (L.path a) = none := by rw [← h.subscription, hlookup]
        rw [eq_of_exec_idle (s := s.setLastCall a .unsubscribed) hpc hes hs,
          unsubscribe_of_notMem (by simp [hnone])]
        exact h.congr rfl rfl
      · rename_i e hlookup
        have he : r.subscription (L.path a) = some e := by rw [← h.subscription, hlookup]
        split at hu
        · rename_i hmem
          cases hu
          rw [eq_of_exec_idle (s := s.setLastCall a .unsubscribed) hpc hes hs,
            unsubscribe_of_notMem (by simpa [he] using hmem)]
          exact h.congr rfl rfl
        · rename_i hmem
          rw [not_not] at hmem
          by_cases hl : State.eraseRemoved a e.listeners = []
          · rw [unsubscribe_of_last he hmem hl]
            rw [if_pos hl] at hu
            cases hu
            have hbut : RepresentsBut (L.path a) r s := ⟨fun q _ => h.subscription q, h.isActiveZMQ⟩
            have hset := hbut.set { e with listeners := State.eraseRemoved a e.listeners }
            refine RepresentsBut.exec ?_ ?_ hes hs hidle
            · exact ⟨hset.subscription, hset.isActiveZMQ⟩
            · simp [IsDeleting]
          · rw [unsubscribe_of_others he hmem hl]
            rw [if_neg hl] at hu
            cases hu
            rw [eq_of_exec_idle (by simp) hes hs]
            exact ⟨lookup_setSubscription h hl, h.isActiveZMQ⟩
  · cases hu

end Represents

end Registry

end DoocsBackend.Zmq
