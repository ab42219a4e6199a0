import DoocsBackend.Zmq.Lists

/-! # Membership in the listener lists

While `unsubscribe` removes a subscription it holds no lock, and a listener which enters
in this window is lost with the entry. Otherwise the lists hold exactly the accessors
which are subscribed.
-/
namespace DoocsBackend.Zmq.State
variable {τ α β : Type} [DecidableEq τ] [DecidableEq α] [DecidableEq β]

/-- The listener lists agree with the calls made, and everything listed is subscribed to. -/
structure Membership (L : Layout α β) (s : State τ α β) : Prop where
  listed_iff : ∀ a, (s.listenersAt (L.path a)).count a = 1 ↔ s.lastCall a = .subscribed
  entry_iff : ∀ p, (s.subscriptionMap.lookup p).isSome ↔ ∃ a, a ∈ s.listenersAt p
  active : ∀ p e, s.subscriptionMap.lookup p = some e → e.active = true

/-- The path whose listener list the thread has found empty, so that it will erase the entry. -/
def removing : Pc α β → Option Text
  | .deactivateSubscription p | .awaitStarted p | .detach p | .eraseSubscription p => some p
  | _ => none

/-- An accessor subscribes while nobody is removing the subscription of its path and no failed
attempt is left behind there. -/
def SubscribesWhenSettled (L : Layout α β) (s : State τ α β) (e : Event τ α β) : Prop :=
  ∀ a ∈ e.subscriber?, (∀ t, removing (s.pc t) ≠ some (L.path a)) ∧
    (s.subscriptionMap.lookup (L.path a)).all Subscription.active = true

instance [Fintype τ] (L : Layout α β) (s : State τ α β) (e : Event τ α β) :
    Decidable (SubscribesWhenSettled L s e) :=
  inferInstanceAs (Decidable (∀ a ∈ e.subscriber?, _ ∧ _))

/-- The lists, the entries and the threads removing entries fit together. -/
structure Listed (L : Layout α β) (s : State τ α β) : Prop where
  path_eq : ∀ p e, s.subscriptionMap.lookup p = some e → ∀ a ∈ e.listeners, L.path a = p
  count_eq : ∀ a, (s.listenersAt (L.path a)).count a = (s.lastCall a).isEntered.toNat
  window : ∀ t p, removing (s.pc t) = some p →
    ∃ e, s.subscriptionMap.lookup p = some e ∧ e.listeners = []
  unique : ∀ t u p, removing (s.pc t) = some p → removing (s.pc u) = some p → t = u
  nonempty : ∀ p e, s.subscriptionMap.lookup p = some e → e.listeners = [] →
    ∃ t, removing (s.pc t) = some p
  active : ∀ p e, s.subscriptionMap.lookup p = some e → e.listeners ≠ [] →
    e.active = true ∨ ∃ a, e.listeners = [a] ∧ s.lastCall a = .subscribeFailed

variable {L : Layout α β} {s s' : State τ α β}

omit [DecidableEq τ] [DecidableEq β] in
theorem listed_initial (backend : β → Backend.BackendState) :
    Listed L (initial backend : State τ α β) where
  path_eq _ _ h := by cases h
  count_eq _ := rfl
  window _ _ h := by cases h
  unique _ _ _ h := by cases h
  nonempty _ _ h := by cases h
  active _ _ h := by cases h

omit [DecidableEq τ] [DecidableEq β] in
/-- When no call is in progress, the lists are right exactly if no failed subscription is waiting
to be undone. -/
theorem Listed.membership_iff_of_idle (hs : Listed L s) (hidle : ∀ t, s.pc t = .idle) :
    Membership L s ↔ ∀ a, s.lastCall a ≠ .subscribeFailed := by
  have hnonempty (p : Text) (e : Subscription α) (he : s.subscriptionMap.lookup p = some e) :
      e.listeners ≠ [] := by
    intro hnil
    obtain ⟨t, ht⟩ := hs.nonempty p e he hnil
    rw [hidle] at ht
    cases ht
  constructor
  · intro h a ha
    have hcount := hs.count_eq a
    rw [ha] at hcount
    rw [(h.listed_iff a).mp hcount] at ha
    cases ha
  · intro h
    refine ⟨fun a => ?_, fun p => ⟨fun hp => ?_, fun ⟨a, ha⟩ => ?_⟩, fun p e he => ?_⟩
    · rw [hs.count_eq]
      cases hc : s.lastCall a <;> simp_all [LastCall.isEntered]
    · obtain ⟨e, he⟩ := Option.isSome_iff_exists.mp hp
      rw [listenersAt_of_lookup he]
      exact List.exists_mem_of_ne_nil _ (hnonempty p e he)
    · cases he : s.subscriptionMap.lookup p with
      | none => simp [listenersAt_of_lookup_none he] at ha
      | some e => rfl
    · obtain hactive | ⟨a, -, ha⟩ := hs.active p e he (hnonempty p e he)
      · exact hactive
      · exact absurd ha (h a)

/-- What matters of an entry: its listeners and, if there are any, whether it is active. -/
def members (e : Subscription α) : List α × Bool := (e.listeners, e.listeners.isEmpty || e.active)

/-- Nothing happens to the lists or to a thread which removes an entry. -/
structure SameMembers (s s' : State τ α β) : Prop where
  members_eq : ∀ p, (s'.subscriptionMap.lookup p).map members =
    (s.subscriptionMap.lookup p).map members
  lastCall : s'.lastCall = s.lastCall
  removing_eq : ∀ t, removing (s'.pc t) = removing (s.pc t)

section
omit [DecidableEq τ] [DecidableEq α] [DecidableEq β]

theorem SameMembers.lookup (h : SameMembers s s') {p : Text} {e' : Subscription α}
    (he' : s'.subscriptionMap.lookup p = some e') :
    ∃ e, s.subscriptionMap.lookup p = some e ∧ e.listeners = e'.listeners ∧
      (e.listeners ≠ [] → e.active = e'.active) := by
  have hp := h.members_eq p
  rw [he'] at hp
  cases he : s.subscriptionMap.lookup p with
  | none => rw [he] at hp; cases hp
  | some e =>
    rw [he] at hp
    simp only [Option.map_some, Option.some.injEq, members, Prod.mk.injEq] at hp
    obtain ⟨hl, hactive⟩ := hp
    refine ⟨e, rfl, hl.symm, fun hne => ?_⟩
    have hfull : e.listeners.isEmpty = false := by simpa using hne
    rw [hl, hfull, Bool.false_or, Bool.false_or] at hactive
    exact hactive.symm

theorem SameMembers.symm (h : SameMembers s s') : SameMembers s' s where
  members_eq p := (h.members_eq p).symm
  lastCall := h.lastCall.symm
  removing_eq t := (h.removing_eq t).symm

theorem SameMembers.listenersAt (h : SameMembers s s') (p : Text) :
    s'.listenersAt p = s.listenersAt p := by
  cases he : s'.subscriptionMap.lookup p with
  | none =>
    have hp := h.members_eq p
    rw [he, Option.map_none, eq_comm, Option.map_eq_none_iff] at hp
    rw [listenersAt_of_lookup_none he, listenersAt_of_lookup_none hp]
  | some e' =>
    obtain ⟨e, hold, hl, -⟩ := h.lookup he
    rw [listenersAt_of_lookup he, listenersAt_of_lookup hold, hl]

end

omit [DecidableEq τ] [DecidableEq β] in
theorem Listed.of_same (hs : Listed L s) (h : SameMembers s s') : Listed L s' where
  path_eq p e' he' := by
    obtain ⟨e, he, hl, -⟩ := h.lookup he'
    rw [← hl]
    exact hs.path_eq p e he
  count_eq a := by rw [h.listenersAt, h.lastCall]; exact hs.count_eq a
  window t p ht := by
    obtain ⟨e, he, hnil⟩ := hs.window t p (by rw [← h.removing_eq]; exact ht)
    obtain ⟨e', he', hl, -⟩ := h.symm.lookup he
    exact ⟨e', he', hl.trans hnil⟩
  unique t u p ht hu := by
    rw [h.removing_eq] at ht hu
    exact hs.unique t u p ht hu
  nonempty p e' he' hnil := by
    obtain ⟨e, he, hl, -⟩ := h.lookup he'
    obtain ⟨t, ht⟩ := hs.nonempty p e he (hl.trans hnil)
    exact ⟨t, by rw [h.removing_eq]; exact ht⟩
  active p e' he' hne := by
    obtain ⟨e, he, hl, hactive⟩ := h.lookup he'
    have hne' : e.listeners ≠ [] := by rwa [hl]
    rw [← hl, ← hactive hne', h.lastCall]
    exact hs.active p e he hne'

section
omit [DecidableEq α] [DecidableEq β]

theorem removing_goto {t : τ} {pc : Pc α β} (h : removing pc = removing (s.pc t)) (u : τ) :
    removing ((s.goto t pc).pc u) = removing (s.pc u) :=
  (Function.forall_update_iff s.pc fun u pc => removing pc = removing (s.pc u)).mpr
    ⟨h, fun _ _ => rfl⟩ u

theorem removing_resume (ret : Return β) : removing (resume ret : Pc α β) = none := by
  cases ret <;> rfl

/-- A thread goes from one place to another, neither of them in the removal of an entry or both in
that of the same. -/
theorem SameMembers.of_goto {s₁ : State τ α β} {t : τ} {pc : Pc α β}
    (hmembers : ∀ p, (s₁.subscriptionMap.lookup p).map members =
      (s.subscriptionMap.lookup p).map members)
    (hcall : s₁.lastCall = s.lastCall) (hpc : s₁.pc = s.pc)
    (hself : removing pc = removing (s.pc t)) : SameMembers s (s₁.goto t pc) where
  members_eq := hmembers
  lastCall := hcall
  removing_eq u := by
    rw [removing_goto (by rw [hpc]; exact hself), hpc]

end

omit [DecidableEq τ] [DecidableEq α] [DecidableEq β] in
theorem members_setSubscription {p : Text} {e e' : Subscription α}
    (he : s.subscriptionMap.lookup p = some e) (hm : members e' = members e) (q : Text) :
    ((s.setSubscription p e').subscriptionMap.lookup q).map members =
      (s.subscriptionMap.lookup q).map members := by
  by_cases hq : q = p
  · subst hq
    simp [he, hm]
  · simp [hq]

omit [DecidableEq τ] [DecidableEq β] in
theorem Listed.path_of_mem (hs : Listed L s) {p : Text} {a : α} (h : a ∈ s.listenersAt p) :
    L.path a = p := by
  cases he : s.subscriptionMap.lookup p with
  | none => simp [listenersAt_of_lookup_none he] at h
  | some e =>
    rw [listenersAt_of_lookup he] at h
    exact hs.path_eq p e he a h

/-- Only the entry of the path of an accessor and its last call change. -/
structure ChangesAt (L : Layout α β) (s s' : State τ α β) (a : α) (c : LastCall)
    (e' : Subscription α) : Prop where
  lookup_self : s'.subscriptionMap.lookup (L.path a) = some e'
  lookup_other : ∀ q, q ≠ L.path a → s'.subscriptionMap.lookup q = s.subscriptionMap.lookup q
  lastCall : s'.lastCall = Function.update s.lastCall a c

namespace ChangesAt
variable {a : α} {c : LastCall} {e' : Subscription α}

section
omit [DecidableEq τ] [DecidableEq β]

theorem lookup_cases (h : ChangesAt L s s' a c e') {q : Text} {e : Subscription α}
    (he : s'.subscriptionMap.lookup q = some e) :
    q = L.path a ∧ e = e' ∨ q ≠ L.path a ∧ s.subscriptionMap.lookup q = some e := by
  by_cases hq : q = L.path a
  · subst hq
    rw [h.lookup_self, Option.some.injEq] at he
    exact .inl ⟨rfl, he.symm⟩
  · rw [h.lookup_other q hq] at he
    exact .inr ⟨hq, he⟩

theorem path_eq (h : ChangesAt L s s' a c e') (hs : Listed L s)
    (hself : ∀ b ∈ e'.listeners, L.path b = L.path a) (q : Text) (e : Subscription α)
    (he : s'.subscriptionMap.lookup q = some e) : ∀ b ∈ e.listeners, L.path b = q := by
  obtain ⟨rfl, rfl⟩ | ⟨hq, he⟩ := h.lookup_cases he
  · exact hself
  · exact hs.path_eq q e he

theorem count_eq (h : ChangesAt L s s' a c e') (hs : Listed L s)
    (hself : e'.listeners.count a = c.isEntered.toNat)
    (hsame : ∀ b ≠ a, e'.listeners.count b = (s.listenersAt (L.path a)).count b) (b : α) :
    (s'.listenersAt (L.path b)).count b = (s'.lastCall b).isEntered.toNat := by
  by_cases hb : b = a
  · subst hb
    rw [listenersAt_of_lookup h.lookup_self, h.lastCall, Function.update_self]
    exact hself
  · rw [h.lastCall, Function.update_of_ne hb, ← hs.count_eq b]
    by_cases hp : L.path b = L.path a
    · rw [hp, listenersAt_of_lookup h.lookup_self]
      exact hsame b hb
    · rw [listenersAt, h.lookup_other _ hp]
      rfl

theorem active (h : ChangesAt L s s' a c e') (hs : Listed L s)
    (hself : e'.listeners ≠ [] → e'.active = true ∨ e'.listeners = [a] ∧ c = .subscribeFailed)
    (p : Text) (e : Subscription α) (he : s'.subscriptionMap.lookup p = some e)
    (hne : e.listeners ≠ []) :
    e.active = true ∨ ∃ b, e.listeners = [b] ∧ s'.lastCall b = .subscribeFailed := by
  obtain ⟨rfl, rfl⟩ | ⟨hp, he⟩ := h.lookup_cases he
  · refine (hself hne).imp_right fun hfailed => ⟨a, hfailed.1, ?_⟩
    rw [h.lastCall, Function.update_self]
    exact hfailed.2
  · refine (hs.active p e he hne).imp_right fun ⟨b, hb, hfailed⟩ => ⟨b, hb, ?_⟩
    have hba : b ≠ a := by
      rintro rfl
      exact hp (hs.path_eq p e he b (by simp [hb])).symm
    rw [h.lastCall, Function.update_of_ne hba]
    exact hfailed

end

end ChangesAt

omit [DecidableEq τ] [DecidableEq β] in
/-- An accessor enters the list of its path. -/
theorem Listed.enter (hs : Listed L s) {a : α} {c : LastCall} {e' : Subscription α}
    (h : ChangesAt L s s' a c e') (hl : e'.listeners = s.listenersAt (L.path a) ++ [a])
    (hremoving : ∀ t, removing (s'.pc t) = removing (s.pc t))
    (hsettled : ∀ t, removing (s.pc t) ≠ some (L.path a))
    (hbefore : (s.lastCall a).isEntered = false) (hafter : c.isEntered = true)
    (hactive : e'.active = true ∨
      s.subscriptionMap.lookup (L.path a) = none ∧ c = .subscribeFailed) : Listed L s' where
  path_eq := by
    apply h.path_eq hs
    intro b hb
    rw [hl, List.mem_append, List.mem_singleton] at hb
    obtain hb | rfl := hb
    · exact hs.path_of_mem hb
    · rfl
  count_eq := by
    refine h.count_eq hs ?_ fun b hb => ?_
    · rw [hl, List.count_append, hs.count_eq a, hbefore, hafter]
      simp
    · rw [hl, List.count_append]
      simp [Ne.symm hb]
  window t p ht := by
    rw [hremoving] at ht
    have hp : p ≠ L.path a := fun h => hsettled t (h ▸ ht)
    rw [h.lookup_other p hp]
    exact hs.window t p ht
  unique t u p ht hu := by
    rw [hremoving] at ht hu
    exact hs.unique t u p ht hu
  nonempty p e he hnil := by
    obtain ⟨rfl, rfl⟩ | ⟨hp, he⟩ := h.lookup_cases he
    · simp [hl] at hnil
    · obtain ⟨t, ht⟩ := hs.nonempty p e he hnil
      exact ⟨t, by rw [hremoving]; exact ht⟩
  active := by
    refine h.active hs fun _ => hactive.imp_right fun hfailed => ⟨?_, hfailed.2⟩
    rw [hl, listenersAt_of_lookup_none hfailed.1, List.nil_append]

omit [DecidableEq β] in
/-- An accessor leaves the list of its path; if it was the last one, its thread removes the entry. -/
theorem Listed.leave (hs : Listed L s) {t : τ} {a : α} {e e' : Subscription α}
    (hold : s.subscriptionMap.lookup (L.path a) = some e) (hmem : a ∈ e.listeners)
    (h : ChangesAt L s s' a .unsubscribed e') (hl : e'.listeners = eraseRemoved a e.listeners)
    (hactive : e'.active = e.active) (hpc : ∀ u, u ≠ t → s'.pc u = s.pc u)
    (hbefore : removing (s.pc t) = none)
    (hafter : removing (s'.pc t) = if e'.listeners = [] then some (L.path a) else none) :
    Listed L s' := by
  have hcount : e.listeners.count a = 1 := by
    have hcount := hs.count_eq a
    rw [listenersAt_of_lookup hold] at hcount
    have hpos := List.count_pos_iff.mpr hmem
    cases hent : (s.lastCall a).isEntered <;> simp_all
  rw [eraseRemoved_of_count hcount] at hl
  have hnone (u : τ) : removing (s.pc u) ≠ some (L.path a) := by
    intro hu
    obtain ⟨e₀, he₀, hnil⟩ := hs.window u _ hu
    rw [hold, Option.some.injEq] at he₀
    rw [he₀, hnil] at hmem
    cases hmem
  have only (u : τ) (p : Text) (hu : removing (s'.pc u) = some p) :
      (u = t ∧ p = L.path a ∧ e'.listeners = []) ∨ p ≠ L.path a ∧ removing (s.pc u) = some p := by
    by_cases hut : u = t
    · subst hut
      rw [hafter] at hu
      split at hu
      · rename_i hnil
        cases hu
        exact .inl ⟨rfl, rfl, hnil⟩
      · cases hu
    · rw [hpc u hut] at hu
      exact .inr ⟨fun hp => hnone u (hp ▸ hu), hu⟩
  constructor
  · apply h.path_eq hs
    intro b hb
    rw [hl] at hb
    exact hs.path_eq _ e hold b (List.mem_of_mem_filter hb)
  · refine h.count_eq hs ?_ fun b hb => ?_
    · rw [hl]
      simp [LastCall.isEntered, List.count_eq_zero]
    · rw [listenersAt_of_lookup hold, hl, List.count_filter (by simpa using hb)]
  · intro u p hu
    obtain ⟨-, rfl, hnil⟩ | ⟨hp, hu⟩ := only u p hu
    · exact ⟨e', h.lookup_self, hnil⟩
    · rw [h.lookup_other p hp]
      exact hs.window u p hu
  · intro u v p hu hv
    obtain ⟨rfl, rfl, -⟩ | ⟨hp, hu⟩ := only u p hu
    · obtain ⟨rfl, -⟩ | ⟨hp, -⟩ := only v _ hv
      · rfl
      · exact absurd rfl hp
    · obtain ⟨-, hp', -⟩ | ⟨-, hv⟩ := only v p hv
      · exact absurd hp' hp
      · exact hs.unique u v p hu hv
  · intro p e₀ he hnil
    obtain ⟨rfl, rfl⟩ | ⟨hp, he⟩ := h.lookup_cases he
    · exact ⟨t, by rw [hafter, if_pos hnil]⟩
    · obtain ⟨u, hu⟩ := hs.nonempty p e₀ he hnil
      have hut : u ≠ t := by
        rintro rfl
        rw [hbefore] at hu
        cases hu
      exact ⟨u, by rw [hpc u hut]; exact hu⟩
  · apply h.active hs
    intro hne
    obtain hactive' | ⟨b, hb, -⟩ := hs.active _ e hold (List.ne_nil_of_mem hmem)
    · exact .inl (hactive.trans hactive')
    · rw [hb, List.mem_singleton] at hmem
      subst hmem
      rw [hl, hb] at hne
      simp at hne

omit [DecidableEq β] in
/-- The entry of an empty list is erased. -/
theorem Listed.erase (hs : Listed L s) {t : τ} {p : Text} (hpc : removing (s.pc t) = some p)
    (hmap : s'.subscriptionMap = s.subscriptionMap.erase p) (hcall : s'.lastCall = s.lastCall)
    (hother : ∀ u, u ≠ t → s'.pc u = s.pc u) (hself : removing (s'.pc t) = none) :
    Listed L s' := by
  obtain ⟨e, he, hnil⟩ := hs.window t p hpc
  have hkeep (q : Text) (hq : q ≠ p) : s'.subscriptionMap.lookup q = s.subscriptionMap.lookup q := by
    rw [hmap, AList.lookup_erase_ne hq]
  have hgone : s'.subscriptionMap.lookup p = none := by rw [hmap, AList.lookup_erase]
  have hlookup (q : Text) (e₀ : Subscription α) (h : s'.subscriptionMap.lookup q = some e₀) :
      q ≠ p ∧ s.subscriptionMap.lookup q = some e₀ := by
    by_cases hq : q = p
    · rw [hq, hgone] at h
      cases h
    · exact ⟨hq, by rw [← hkeep q hq]; exact h⟩
  have hremoving (u : τ) (q : Text) (hu : removing (s'.pc u) = some q) :
      u ≠ t ∧ removing (s.pc u) = some q := by
    by_cases hut : u = t
    · rw [hut, hself] at hu
      cases hu
    · exact ⟨hut, by rw [← hother u hut]; exact hu⟩
  constructor
  · exact fun q e₀ h => hs.path_eq q e₀ (hlookup q e₀ h).2
  · intro a
    rw [hcall, ← hs.count_eq a]
    by_cases hq : L.path a = p
    · rw [hq, listenersAt_of_lookup_none hgone, listenersAt_of_lookup he, hnil]
    · rw [listenersAt, hkeep _ hq]
      rfl
  · intro u q hu
    obtain ⟨hut, hu⟩ := hremoving u q hu
    have hq : q ≠ p := fun h => hut (hs.unique u t p (h ▸ hu) hpc)
    rw [hkeep q hq]
    exact hs.window u q hu
  · exact fun u v q hu hv => hs.unique u v q (hremoving u q hu).2 (hremoving v q hv).2
  · intro q e₀ h hempty
    obtain ⟨hq, h⟩ := hlookup q e₀ h
    obtain ⟨u, hu⟩ := hs.nonempty q e₀ h hempty
    have hut : u ≠ t := by
      rintro rfl
      rw [hpc, Option.some.injEq] at hu
      exact hq hu.symm
    exact ⟨u, by rw [hother u hut]; exact hu⟩
  · intro q e₀ h hne
    rw [hcall]
    exact hs.active q e₀ (hlookup q e₀ h).2 hne

omit [DecidableEq τ] [DecidableEq β] in
/-- A call for an accessor which is not in the list of its path. -/
theorem Listed.ignore (hs : Listed L s) {a : α} (h : a ∉ s.listenersAt (L.path a)) :
    Listed L (s.setLastCall a .unsubscribed) where
  path_eq := hs.path_eq
  count_eq b := by
    by_cases hb : b = a
    · subst hb
      simpa [LastCall.isEntered, List.count_eq_zero, listenersAt] using h
    · rw [setLastCall_lastCall, Function.update_of_ne hb]
      exact hs.count_eq b
  window := hs.window
  unique := hs.unique
  nonempty := hs.nonempty
  active p e he hne := by
    obtain hactive | ⟨b, hb, hfailed⟩ := hs.active p e he hne
    · exact .inl hactive
    · have hba : b ≠ a := by
        rintro rfl
        have hp := hs.path_eq p e he b (by simp [hb])
        have hlist : s.listenersAt p = e.listeners := listenersAt_of_lookup he
        exact h (by rw [hp, hlist, hb]; simp)
      exact .inr ⟨b, hb, by rw [setLastCall_lastCall, Function.update_of_ne hba]; exact hfailed⟩

omit [DecidableEq β] in
theorem sameMembers_serveError {s₁ : State τ α β} {t : τ} {p text : Text} {k n : ℕ}
    (hmembers : ∀ p, (s₁.subscriptionMap.lookup p).map members =
      (s.subscriptionMap.lookup p).map members)
    (hcall : s₁.lastCall = s.lastCall) (hpc : s₁.pc = s.pc) (h : removing (s.pc t) = none) :
    SameMembers s (s₁.serveError L t p text k n) := by
  obtain ⟨a, -, heq⟩ | heq | heq := serveError_cases L s₁ t p text k n
  · rw [heq]
    exact .of_goto hmembers hcall hpc h.symm
  · rw [heq]
    exact .of_goto hmembers hcall hpc h.symm
  · rw [heq]
    exact ⟨hmembers, hcall, fun u => congrArg (fun pc => removing (pc u)) hpc⟩

omit [DecidableEq β] in
/-- In the removal of an entry, its flags are cleared. -/
theorem Listed.deactivate (hs : Listed L s) {t : τ} {p : Text} {pc : Pc α β} {e' : Subscription α}
    {owner : Option τ} (hremoving : removing (s.pc t) = some p) (hafter : removing pc = some p)
    (hl : e'.listeners = (s.entry p).listeners) :
    Listed L ({ s.setSubscription p e' with mapOwner := owner }.goto t pc) := by
  obtain ⟨e, he, hnil⟩ := hs.window t p hremoving
  rw [entry_of_lookup he] at hl
  refine hs.of_same (.of_goto (members_setSubscription he ?_) rfl rfl (hafter.trans hremoving.symm))
  rw [members, members, hl, hnil]
  rfl

theorem listed_step {e : Event τ α β} (hs : Listed L s) (hok : SubscribesWhenSettled L s e)
    (h : Transition L s e s') : Listed L s' := by
  cases h with
  | @subscribeFails t a hpc hfree hcall hnew =>
    refine hs.enter (a := a) ⟨AList.lookup_insert _, fun q hq => AList.lookup_insert_ne hq, rfl⟩ ?_
      (fun u => rfl) (hok _ rfl).1 (isEntered_eq_false hcall) rfl (.inr ⟨hnew, rfl⟩)
    rw [entry_of_lookup_none hnew, listenersAt_of_lookup_none hnew]
  | @subscribeNew t a hpc hfree hcall hnew =>
    have hidle : removing (s.pc t) = none := by rw [hpc]; rfl
    refine hs.enter (a := a) ⟨AList.lookup_insert _, fun q hq => AList.lookup_insert_ne hq, rfl⟩ ?_
      (removing_goto hidle.symm) (hok _ rfl).1 (isEntered_eq_false hcall) rfl (.inl rfl)
    rw [entry_of_lookup_none hnew, listenersAt_of_lookup_none hnew]
  | @subscribeJoins t a attachFails e hpc hfree hcall hold =>
    have hidle : removing (s.pc t) = none := by rw [hpc]; rfl
    refine hs.enter (a := a) ⟨AList.lookup_insert _, fun q hq => AList.lookup_insert_ne hq, rfl⟩ ?_
      (removing_goto (Eq.trans ?_ hidle.symm)) (hok _ rfl).1 (isEntered_eq_false hcall) rfl
      (.inl (by simpa [hold] using (hok _ rfl).2))
    · rw [entry_of_lookup hold, listenersAt_of_lookup hold]
    · split <;> rfl
  | unsubscribeIgnored hpc hfree hnot => exact hs.ignore hnot
  | @unsubscribeLeaves t a e hpc hfree hold hmem =>
    refine hs.leave (t := t) hold hmem
      ⟨AList.lookup_insert _, fun q hq => AList.lookup_insert_ne hq, rfl⟩ rfl rfl
        (fun u hu => Function.update_of_ne hu _ _)
      (by rw [hpc]; rfl) ?_
    rw [goto_pc, Function.update_self]
    split <;> rfl
  | deactivateInactive hpc | deactivateActive hpc | deactivateWaits hpc | awaitStarted hpc =>
    exact hs.deactivate (by rw [hpc]; rfl) rfl rfl
  | @eraseSubscription t r p hpc hfree =>
    exact hs.erase (t := t) (by rw [hpc]; rfl) rfl rfl (fun u hu => Function.update_of_ne hu _ _)
      (by rw [goto_pc, Function.update_self]; rfl)
  | data hpc hattached hlow hhigh hold =>
    exact hs.of_same ⟨members_setSubscription hold rfl, rfl, fun _ => rfl⟩
  | error hpc hattached hold =>
    exact hs.of_same
      (sameMembers_serveError (members_setSubscription hold rfl) rfl rfl (by rw [hpc]; rfl))
  | errorLoop hpc =>
    exact hs.of_same (sameMembers_serveError (fun _ => rfl) rfl rfl (by rw [hpc]; rfl))
  | activateIgnored | openSucceeds | dangling | eraseMissing | informMissing | publish | read =>
    exact hs.of_same ⟨fun _ => rfl, rfl, fun _ => rfl⟩
  | pushDone hpc => exact hs.of_same (.of_goto (fun _ => rfl) rfl rfl (by rw [hpc, removing_resume]; rfl))
  | activateListeners hpc hold =>
    refine hs.of_same (.of_goto (fun _ => rfl) rfl rfl ?_)
    rw [hpc]
    split <;> rfl
  | activateChecked hpc | close hpc | openFails hpc | setException hpc | detach hpc
  | exchangeSet hpc | exchangeUnset hpc | activateAllListeners hpc | activateDone hpc
  | activateSkips hpc | poll hpc | pushPolled hpc | pushErrorIgnored hpc | pushErrorChecked hpc
  | clearIsActiveZMQ hpc | pushException hpc | clearOpened hpc | clearAsyncRead hpc
  | clearLastFailedAddress hpc | setExceptionImpl hpc | pushExceptions hpc
  | pushExceptionsDone hpc | pushExceptionsAt hpc | informRuntimeError hpc =>
    exact hs.of_same (.of_goto (fun _ => rfl) rfl rfl (by rw [hpc]; rfl))

/-- In a run in which accessors subscribe when their path is settled, the lists are right whenever
no call is in progress, unless a failed subscription has not been undone. -/
theorem membership_iff {backend : β → Backend.BackendState} {es : List (Event τ α β)}
    (run : Runs.Run (step L) (SubscribesWhenSettled L) (initial backend) es s)
    (hidle : ∀ t, s.pc t = .idle) :
    Membership L s ↔ ∀ a, s.lastCall a ≠ .subscribeFailed :=
  (run.invariant (fun _ _ _ hs hok h => listed_step hs hok (transition_of_step h))
    (listed_initial backend)).membership_iff_of_idle hidle

/-- Two accessors of one path. -/
def onePath : Layout Bool Unit where
  path _ := "F/D/L/P".toList
  backend _ := ()
  queue := plainQueue

/-- The second accessor subscribes after the first one has left and before the entry is erased. -/
def entersWindow : List (Event Bool Bool Unit) :=
  [.call true (.subscribe true false), .call false (.data "F/D/L/P".toList 0),
    .call true (.unsubscribe true), .call false (.subscribe false false), .next true none,
    .next true none, .next true none]

theorem not_membership : ∃ s, Runs.exec (step onePath) (initial fun _ => {}) entersWindow = some s ∧
    (∀ t, s.pc t = .idle) ∧ ¬ Membership onePath s := by
  refine ⟨_, rfl, by rintro (_ | _) <;> rfl, fun h => ?_⟩
  have hlisted := (h.listed_iff false).mpr rfl
  revert hlisted
  decide

/-- Two accessors which subscribe one after the other. -/
def subscribeBoth : List (Event Bool Bool Unit) :=
  [.call true (.subscribe true false), .call false (.subscribe false false)]

theorem membership_subscribeBoth :
    ∃ s, Runs.exec (step onePath) (initial fun _ => {}) subscribeBoth = some s ∧
      Membership onePath s := by
  obtain ⟨s, hs⟩ : ∃ s, Runs.exec (step onePath) (initial fun _ => {}) subscribeBoth = some s :=
    Option.isSome_iff_exists.mp rfl
  have run : Runs.Run (step onePath) (SubscribesWhenSettled onePath) (initial fun _ => {})
      subscribeBoth s := Runs.Along.run (by decide) hs
  have hpc (t : Bool) : s.pc t = .idle := by
    have h := congrArg (Option.map fun s => s.pc t) hs
    cases t <;> exact (Option.some.inj h).symm
  have hcall (a : Bool) : s.lastCall a = .subscribed := by
    have h := congrArg (Option.map fun s => s.lastCall a) hs
    cases a <;> exact (Option.some.inj h).symm
  refine ⟨s, hs, (membership_iff run hpc).mpr fun a => ?_⟩
  rw [hcall a]
  exact LastCall.noConfusion

end DoocsBackend.Zmq.State
