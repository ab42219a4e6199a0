import DoocsBackend.Zmq.Steps

/-! # What a step does to the listener lists

Listeners enter and leave the lists one by one, and a list goes with the entry of its path. What
holds of the lists in every run is proved along these changes.
-/
namespace DoocsBackend.Zmq
variable {τ α β : Type} [DecidableEq τ] [DecidableEq α] [DecidableEq β]

namespace Event

/-- The accessor which unsubscribes. -/
def unsubscriber? : Event τ α β → Option α
  | .call _ (.unsubscribe a) => some a
  | _ => none

/-- The thread which takes the step. -/
def actor? : Event τ α β → Option τ
  | .call t _ | .next t _ => some t
  | _ => none

end Event

namespace State
open Backend (BackendState)

/-- What a step does to the listener lists and to the calls made for the accessors. -/
inductive ListChange (L : Layout α β) (s s' : State τ α β) : Event τ α β → Prop
  | kept {e : Event τ α β} (lists : s'.listenersAt = s.listenersAt)
      (calls : s'.lastCall = s.lastCall) : ListChange L s s' e
  | enters {t : τ} {a : α} {attachFails : Bool} {c : LastCall}
      (before : (s.lastCall a).isEntered = false) (after : c.isEntered = true)
      (lists : s'.listenersAt =
        Function.update s.listenersAt (L.path a) (s.listenersAt (L.path a) ++ [a]))
      (calls : s'.lastCall = Function.update s.lastCall a c) :
      ListChange L s s' (.call t (.subscribe a attachFails))
  | leaves {t : τ} {a : α} {left : List α}
      (hleft : left = if a ∈ s.listenersAt (L.path a) then eraseRemoved a (s.listenersAt (L.path a))
        else s.listenersAt (L.path a))
      (lists : s'.listenersAt = Function.update s.listenersAt (L.path a) left)
      (calls : s'.lastCall = Function.update s.lastCall a .unsubscribed) :
      ListChange L s s' (.call t (.unsubscribe a))
  | erased {t : τ} {r : Option Text} {p : Text} (hpc : s.pc t = .eraseSubscription p)
      (lists : s'.listenersAt = Function.update s.listenersAt p [])
      (calls : s'.lastCall = s.lastCall) : ListChange L s s' (.next t r)

variable {L : Layout α β} {s s' : State τ α β}

theorem mem_of_mem_eraseRemoved {a b : α} {xs : List α} (h : b ∈ eraseRemoved a xs) : b ∈ xs := by
  obtain h | h := List.mem_append.mp h
  · exact List.mem_of_mem_filter h
  · exact List.mem_of_mem_drop h

/-- Of a list which holds the accessor once, nothing else is erased. -/
theorem eraseRemoved_of_count {a : α} {xs : List α} (h : xs.count a = 1) :
    eraseRemoved a xs = xs.filter fun x => decide (x ≠ a) := by
  have hlen := List.length_eq_length_filter_add (l := xs) fun x => decide (x ≠ a)
  have hcount : (xs.filter fun x => !decide (x ≠ a)).length = 1 := by
    rw [← h, List.count_eq_length_filter]
    congr 2
    funext x
    by_cases hx : x = a <;> simp [hx]
  rw [eraseRemoved, List.drop_of_length_le (by omega), List.append_nil]

theorem length_eraseRemoved {a : α} {xs : List α} (h : a ∈ xs) :
    (eraseRemoved a xs).length + 1 = xs.length := by
  have hlt : (xs.filter fun x => decide (x ≠ a)).length < xs.length :=
    List.length_filter_lt_length_iff_exists.mpr ⟨a, h, by simp⟩
  rw [eraseRemoved, List.length_append, List.length_drop]
  omega

omit [DecidableEq τ] [DecidableEq α] [DecidableEq β] in
theorem listenersAt_setSubscription (p : Text) (e : Subscription α) :
    (s.setSubscription p e).listenersAt = Function.update s.listenersAt p e.listeners := by
  funext q
  by_cases hq : q = p
  · subst hq
    rw [Function.update_self, listenersAt_of_lookup (AList.lookup_insert _)]
  · rw [Function.update_of_ne hq, listenersAt, setSubscription_subscriptionMap,
      AList.lookup_insert_ne hq]
    rfl

omit [DecidableEq τ] [DecidableEq α] [DecidableEq β] in
/-- Changing an entry but not its listeners. -/
theorem listenersAt_setSubscription_of_eq {p : Text} {e : Subscription α}
    (h : e.listeners = s.listenersAt p) : (s.setSubscription p e).listenersAt = s.listenersAt := by
  rw [listenersAt_setSubscription, h, Function.update_eq_self]

omit [DecidableEq τ] [DecidableEq β] in
theorem listenersAt_entered (a : α) (active : Bool) :
    (s.entered L a active).listenersAt =
      Function.update s.listenersAt (L.path a) (s.listenersAt (L.path a) ++ [a]) := by
  rw [← entry_listeners]
  exact listenersAt_setSubscription _ _

omit [DecidableEq β] in
theorem serveError_listenersAt (t : τ) (p text : Text) (k n : ℕ) :
    (s.serveError L t p text k n).listenersAt = s.listenersAt := by
  obtain ⟨a, -, heq⟩ | heq | heq := serveError_cases L s t p text k n
  all_goals exact (congrArg State.listenersAt heq).trans rfl

omit [DecidableEq β] in
theorem serveError_lastCall (t : τ) (p text : Text) (k n : ℕ) :
    (s.serveError L t p text k n).lastCall = s.lastCall := by
  obtain ⟨a, -, heq⟩ | heq | heq := serveError_cases L s t p text k n
  all_goals exact (congrArg State.lastCall heq).trans rfl

theorem isEntered_eq_false {c : LastCall} (h : c = .never ∨ c = .unsubscribed) :
    c.isEntered = false := by
  obtain rfl | rfl := h <;> rfl

theorem listChange {e : Event τ α β} (h : Transition L s e s') : ListChange L s s' e := by
  cases h with
  | subscribeFails _ _ hcall | subscribeNew _ _ hcall | subscribeJoins _ _ hcall =>
    exact .enters (isEntered_eq_false hcall) rfl (listenersAt_entered _ _) rfl
  | unsubscribeIgnored _ _ hnot =>
    refine .leaves rfl ?_ rfl
    rw [if_neg hnot, Function.update_eq_self]
    rfl
  | @unsubscribeLeaves t a e _ _ hold hmem =>
    refine .leaves rfl ?_ rfl
    rw [listenersAt_of_lookup hold, if_pos hmem]
    exact listenersAt_setSubscription _ _
  | data _ _ _ _ hold =>
    exact .kept (listenersAt_setSubscription_of_eq (listenersAt_of_lookup hold).symm) rfl
  | error _ _ hold =>
    exact .kept ((serveError_listenersAt _ _ _ _ _).trans
      (listenersAt_setSubscription_of_eq (listenersAt_of_lookup hold).symm))
        (serveError_lastCall _ _ _ _ _)
  | errorLoop => exact .kept (serveError_listenersAt _ _ _ _ _) (serveError_lastCall _ _ _ _ _)
  | deactivateInactive | deactivateActive | deactivateWaits | awaitStarted =>
    exact .kept (listenersAt_setSubscription_of_eq (entry_listeners _)) rfl
  | @eraseSubscription t r p hpc =>
    refine .erased hpc (funext fun q => ?_) rfl
    by_cases hq : q = p
    · subst hq
      rw [Function.update_self]
      exact listenersAt_of_lookup_none (AList.lookup_erase _ _)
    · rw [Function.update_of_ne hq, listenersAt, goto_subscriptionMap, AList.lookup_erase_ne hq]
      rfl
  | _ => exact .kept rfl rfl

/-- Only `subscribe` adds listeners, each at its own path. -/
theorem mem_listenersAt_step {e : Event τ α β} (h : Transition L s e s') {q : Text} {b : α}
    (hb : b ∈ s'.listenersAt q) :
    b ∈ s.listenersAt q ∨ q = L.path b ∧ ∃ t attachFails, e = .call t (.subscribe b attachFails) := by
  have changed {p : Text} {list : List α}
      (hlists : s'.listenersAt = Function.update s.listenersAt p list) :
      q = p ∧ b ∈ list ∨ b ∈ s.listenersAt q := by
    rw [hlists] at hb
    by_cases hq : q = p
    · subst hq
      rw [Function.update_self] at hb
      exact .inl ⟨rfl, hb⟩
    · rw [Function.update_of_ne hq] at hb
      exact .inr hb
  cases listChange h with
  | kept lists =>
    rw [lists] at hb
    exact .inl hb
  | @enters t a attachFails c before after lists =>
    obtain ⟨rfl, hlist⟩ | hold := changed lists
    · obtain hmem | hnew := List.mem_append.mp hlist
      · exact .inl hmem
      · cases List.mem_singleton.mp hnew
        exact .inr ⟨rfl, t, attachFails, rfl⟩
    · exact .inl hold
  | @leaves t a left hleft lists =>
    obtain ⟨rfl, hlist⟩ | hold := changed lists
    · rw [hleft] at hlist
      split at hlist
      · exact .inl (mem_of_mem_eraseRemoved hlist)
      · exact .inl hlist
    · exact .inl hold
  | erased hpc lists =>
    obtain ⟨-, hlist⟩ | hold := changed lists
    · cases hlist
    · exact .inl hold

/-- Listeners are listed at their own paths. -/
def Placed (L : Layout α β) (s : State τ α β) : Prop := ∀ p, ∀ a ∈ s.listenersAt p, L.path a = p

omit [DecidableEq τ] [DecidableEq α] [DecidableEq β] in
theorem placed_initial (backend : β → BackendState) : Placed L (initial backend : State τ α β) := by
  intro p a h
  cases h

theorem placed_step {e : Event τ α β} (hs : Placed L s) (h : Transition L s e s') : Placed L s' := by
  intro p a ha
  obtain ha | ⟨rfl, -⟩ := mem_listenersAt_step h ha
  · exact hs p a ha
  · rfl

/-- No accessor is in the list of its path more than once, nor before it has subscribed or after it
has unsubscribed. Only failed and overlapping calls leave out accessors which are subscribed. -/
def AtMostOnce (L : Layout α β) (s : State τ α β) : Prop :=
  ∀ a, (s.listenersAt (L.path a)).count a ≤ (s.lastCall a).isEntered.toNat

section
omit [DecidableEq τ] [DecidableEq β]

theorem atMostOnce_initial (backend : β → BackendState) :
    AtMostOnce L (initial backend : State τ α β) := by
  intro a
  exact le_rfl

theorem AtMostOnce.update (h : AtMostOnce L s) {a : α} {c : LastCall} {list : List α}
    (hlists : s'.listenersAt = Function.update s.listenersAt (L.path a) list)
    (hcalls : s'.lastCall = Function.update s.lastCall a c)
    (hself : list.count a ≤ c.isEntered.toNat)
    (hother : ∀ b, b ≠ a → list.count b ≤ (s.listenersAt (L.path a)).count b) :
    AtMostOnce L s' := by
  intro b
  rw [hlists, hcalls]
  by_cases hb : b = a
  · subst hb
    rw [Function.update_self, Function.update_self]
    exact hself
  · rw [Function.update_of_ne hb]
    by_cases hp : L.path b = L.path a
    · have hle := h b
      rw [hp] at hle
      rw [hp, Function.update_self]
      exact (hother b hb).trans hle
    · rw [Function.update_of_ne hp]
      exact h b

theorem AtMostOnce.eraseRemoved_eq (h : AtMostOnce L s) {a : α}
    (hmem : a ∈ s.listenersAt (L.path a)) :
    eraseRemoved a (s.listenersAt (L.path a)) =
      (s.listenersAt (L.path a)).filter fun b => decide (b ≠ a) := by
  apply eraseRemoved_of_count
  have hpos := List.count_pos_iff.mpr hmem
  have hle := (h a).trans (Bool.toNat_le _)
  omega

theorem AtMostOnce.entered (h : AtMostOnce L s) {a : α} (hmem : a ∈ s.listenersAt (L.path a)) :
    (s.lastCall a).isEntered = true := by
  have hpos := (List.count_pos_iff.mpr hmem).trans_le (h a)
  cases hentered : (s.lastCall a).isEntered with
  | true => rfl
  | false =>
    rw [hentered] at hpos
    exact absurd hpos (lt_irrefl 0)

end

theorem atMostOnce_step {e : Event τ α β} (hs : AtMostOnce L s) (h : Transition L s e s') :
    AtMostOnce L s' := by
  cases listChange h with
  | kept lists calls =>
    intro a
    rw [lists, calls]
    exact hs a
  | @enters t a attachFails c before after lists calls =>
    refine hs.update lists calls ?_ fun b hb => ?_
    · have hle := hs a
      rw [before] at hle
      rw [List.count_append, after]
      simpa using hle
    · simp [List.count_append, Ne.symm hb]
  | @leaves t a left hleft lists calls =>
    refine hs.update lists calls ?_ fun b hb => ?_
    · rw [hleft]
      split
      · rename_i hmem
        rw [hs.eraseRemoved_eq hmem, List.count_eq_zero_of_not_mem (by simp)]
        exact Nat.zero_le _
      · rename_i hnot
        rw [List.count_eq_zero_of_not_mem hnot]
        exact Nat.zero_le _
    · rw [hleft]
      split
      · rename_i hmem
        rw [hs.eraseRemoved_eq hmem, List.count_filter (by simpa using hb)]
      · rfl
  | @erased t r p hpc lists calls =>
    intro a
    rw [lists, calls]
    by_cases hp : L.path a = p
    · rw [hp, Function.update_self]
      exact Nat.zero_le _
    · rw [Function.update_of_ne hp]
      exact hs a

/-- An accessor counts as entered until it unsubscribes. -/
theorem entered_step {e : Event τ α β} {a : α} (h : Transition L s e s')
    (hstays : e.unsubscriber? ≠ some a) (hentered : (s.lastCall a).isEntered = true) :
    (s'.lastCall a).isEntered = true := by
  cases listChange h with
  | kept _ calls | erased _ _ calls =>
    rw [calls]
    exact hentered
  | @enters t b attachFails c before after _ calls =>
    rw [calls]
    by_cases hab : a = b
    · rw [hab, Function.update_self]
      exact after
    · rw [Function.update_of_ne hab]
      exact hentered
  | @leaves t b left hleft _ calls =>
    rw [calls, Function.update_of_ne fun hab => hstays (congrArg some hab.symm)]
    exact hentered

/-- A step leaves the other threads where they are. -/
theorem pc_of_ne {e : Event τ α β} {u : τ} (h : Transition L s e s') (hu : e.actor? ≠ some u) :
    s'.pc u = s.pc u := by
  have hne {s₁ : State τ α β} {t : τ} {pc : Pc α β} (hpc : s₁.pc = s.pc)
      (ht : some t ≠ some u) : (s₁.goto t pc).pc u = s.pc u :=
    (Function.update_of_ne (fun hut => ht (congrArg some hut.symm)) _ _).trans (congrFun hpc u)
  have hserve {s₁ : State τ α β} {t : τ} {p text : Text} {k n : ℕ} (hpc : s₁.pc = s.pc)
      (ht : some t ≠ some u) : (s₁.serveError L t p text k n).pc u = s.pc u := by
    obtain ⟨a, -, heq⟩ | heq | heq := serveError_cases L s₁ t p text k n
    · rw [heq]
      exact hne hpc ht
    · rw [heq]
      exact hne hpc ht
    · rw [heq]
      exact congrFun hpc u
  cases h with
  | error => exact hserve rfl hu
  | errorLoop => exact hserve rfl hu
  | subscribeFails | unsubscribeIgnored | activateIgnored | openSucceeds | data | dangling
  | eraseMissing | informMissing | publish | read => rfl
  | _ => exact hne rfl hu

end State
end DoocsBackend.Zmq
