import DoocsBackend.Zmq.Membership
import DoocsBackend.Zmq.Ownership

/-! # Subscriptions made with DOOCS

While accessors subscribe only where nothing is being removed, DOOCS calls back for the paths
whose entry is active and for those which a thread is about to detach. So a callback always
finds its entry, and when nothing is in progress exactly the subscribed paths are attached.
-/
namespace DoocsBackend.Zmq.State
variable {τ α β : Type} [DecidableEq τ] [DecidableEq α] [DecidableEq β]

/-- The path whose subscription the thread has already marked as inactive. -/
def marked : Pc α β → Option Text
  | .detach p | .eraseSubscription p => some p
  | _ => none

/-- The path the thread is about to detach from DOOCS. -/
def detaching : Pc α β → Option Text
  | .detach p => some p
  | _ => none

/-- The entry of the path exists and is active. -/
def ActiveAt (s : State τ α β) (p : Text) : Prop :=
  ∃ e, s.subscriptionMap.lookup p = some e ∧ e.active = true

/-- What DOOCS knows of the subscriptions agrees with the map. -/
structure Connected (L : Layout α β) (s : State τ α β) : Prop where
  attached_iff : ∀ p, s.attached p = true ↔ s.ActiveAt p ∨ ∃ t, detaching (s.pc t) = some p
  inactive : ∀ t p, marked (s.pc t) = some p → ¬ s.ActiveAt p
  subscribed : ∀ p e, s.subscriptionMap.lookup p = some e → e.active = true →
    ∀ a ∈ e.listeners, s.lastCall a = .subscribed

variable {L : Layout α β} {s s' : State τ α β}

omit [DecidableEq τ] [DecidableEq α] [DecidableEq β] in
theorem connected_initial (backend : β → Backend.BackendState) :
    Connected L (initial backend : State τ α β) where
  attached_iff p := by
    constructor
    · intro h
      cases h
    · rintro (⟨e, he, -⟩ | ⟨t, ht⟩)
      · cases he
      · cases ht
  inactive t p h := by cases h
  subscribed p e h := by cases h

omit [DecidableEq α] [DecidableEq β] in
theorem removing_of_marked {pc : Pc α β} {p : Text} (h : marked pc = some p) :
    removing pc = some p := by
  cases pc with
  | detach q | eraseSubscription q => exact h
  | _ => cases h

omit [DecidableEq α] [DecidableEq β] in
theorem marked_of_detaching {pc : Pc α β} {p : Text} (h : detaching pc = some p) :
    marked pc = some p := by
  cases pc with
  | detach q => exact h
  | _ => cases h

/-- The listeners of an entry and whether it is active. -/
def connection (e : Subscription α) : List α × Bool := (e.listeners, e.active)

/-- Neither the connections nor a thread which takes one down go on. -/
structure SameConnections (s s' : State τ α β) : Prop where
  connection_eq : ∀ p, (s'.subscriptionMap.lookup p).map connection =
    (s.subscriptionMap.lookup p).map connection
  lastCall : s'.lastCall = s.lastCall
  attached : s'.attached = s.attached
  detaching_eq : ∀ t, detaching (s'.pc t) = detaching (s.pc t)
  marked_eq : ∀ t, marked (s'.pc t) = marked (s.pc t)

section
omit [DecidableEq τ] [DecidableEq α] [DecidableEq β]

theorem SameConnections.lookup (h : SameConnections s s') {p : Text} {e' : Subscription α}
    (he' : s'.subscriptionMap.lookup p = some e') :
    ∃ e, s.subscriptionMap.lookup p = some e ∧ e.listeners = e'.listeners ∧ e.active = e'.active := by
  have hp := h.connection_eq p
  rw [he'] at hp
  cases he : s.subscriptionMap.lookup p with
  | none => rw [he] at hp; cases hp
  | some e =>
    rw [he] at hp
    simp only [Option.map_some, Option.some.injEq, connection, Prod.mk.injEq] at hp
    exact ⟨e, rfl, hp.1.symm, hp.2.symm⟩

theorem SameConnections.symm (h : SameConnections s s') : SameConnections s' s where
  connection_eq p := (h.connection_eq p).symm
  lastCall := h.lastCall.symm
  attached := h.attached.symm
  detaching_eq t := (h.detaching_eq t).symm
  marked_eq t := (h.marked_eq t).symm

theorem SameConnections.activeAt (h : SameConnections s s') {p : Text} (hp : s'.ActiveAt p) :
    s.ActiveAt p := by
  obtain ⟨e', he', hactive⟩ := hp
  obtain ⟨e, he, -, heq⟩ := h.lookup he'
  exact ⟨e, he, heq.trans hactive⟩

theorem Connected.of_same (hs : Connected L s) (h : SameConnections s s') : Connected L s' where
  attached_iff p := by
    rw [h.attached, hs.attached_iff]
    apply or_congr
    · exact ⟨h.symm.activeAt, h.activeAt⟩
    · exact exists_congr fun t => by rw [h.detaching_eq]
  inactive t p ht hp := by
    rw [h.marked_eq] at ht
    exact hs.inactive t p ht (h.activeAt hp)
  subscribed p e' he' hactive a ha := by
    obtain ⟨e, he, hl, heq⟩ := h.lookup he'
    rw [h.lastCall]
    exact hs.subscribed p e he (heq.trans hactive) a (hl ▸ ha)

end

section
omit [DecidableEq α] [DecidableEq β]

theorem detaching_of_not_marked {pc : Pc α β} (h : marked pc = none) : detaching pc = none := by
  cases hd : detaching pc with
  | none => rfl
  | some p =>
    rw [marked_of_detaching hd] at h
    cases h

/-- A thread goes from one place to another, neither of them in the removal of an entry. -/
theorem places_goto {s₁ : State τ α β} {t : τ} {pc : Pc α β} (hpc : s₁.pc = s.pc)
    (hbefore : marked (s.pc t) = none) (hafter : marked pc = none) (u : τ) :
    detaching ((s₁.goto t pc).pc u) = detaching (s.pc u) ∧
      marked ((s₁.goto t pc).pc u) = marked (s.pc u) := by
  rw [goto_pc, hpc]
  by_cases hu : u = t
  · subst hu
    rw [Function.update_self, detaching_of_not_marked hbefore, detaching_of_not_marked hafter,
      hbefore, hafter]
    exact ⟨rfl, rfl⟩
  · rw [Function.update_of_ne hu]
    exact ⟨rfl, rfl⟩

theorem SameConnections.of_goto {s₁ : State τ α β} {t : τ} {pc : Pc α β}
    (hconnection : ∀ p, (s₁.subscriptionMap.lookup p).map connection =
      (s.subscriptionMap.lookup p).map connection)
    (hcall : s₁.lastCall = s.lastCall) (hattached : s₁.attached = s.attached)
    (hpc : s₁.pc = s.pc) (hbefore : marked (s.pc t) = none) (hafter : marked pc = none) :
    SameConnections s (s₁.goto t pc) where
  connection_eq := hconnection
  lastCall := hcall
  attached := hattached
  detaching_eq u := (places_goto hpc hbefore hafter u).1
  marked_eq u := (places_goto hpc hbefore hafter u).2

end

omit [DecidableEq τ] [DecidableEq α] [DecidableEq β] in
theorem connection_setSubscription {p : Text} {e e' : Subscription α}
    (he : s.subscriptionMap.lookup p = some e) (hc : connection e' = connection e) (q : Text) :
    ((s.setSubscription p e').subscriptionMap.lookup q).map connection =
      (s.subscriptionMap.lookup q).map connection := by
  by_cases hq : q = p
  · subst hq
    simp [he, hc]
  · simp [hq]

/-- A step which concerns the subscription of one path only. -/
structure ChangesPath (L : Layout α β) (s s' : State τ α β) (p : Text) : Prop where
  lookup_other : ∀ q, q ≠ p → s'.subscriptionMap.lookup q = s.subscriptionMap.lookup q
  attached_other : ∀ q, q ≠ p → s'.attached q = s.attached q
  call_other : ∀ a, L.path a ≠ p → s'.lastCall a = s.lastCall a
  detaching_other : ∀ t q, q ≠ p → (detaching (s'.pc t) = some q ↔ detaching (s.pc t) = some q)
  marked_other : ∀ t q, q ≠ p → marked (s'.pc t) = some q → marked (s.pc t) = some q

omit [DecidableEq τ] [DecidableEq α] [DecidableEq β] in
theorem ChangesPath.activeAt_iff {p q : Text} (h : ChangesPath L s s' p) (hq : q ≠ p) :
    s'.ActiveAt q ↔ s.ActiveAt q := by
  rw [ActiveAt, ActiveAt, h.lookup_other q hq]

omit [DecidableEq τ] [DecidableEq β] in
theorem Connected.of_changesPath (hs : Connected L s) (hl : Listed L s) {p : Text}
    (h : ChangesPath L s s' p)
    (hattached : s'.attached p = true ↔ s'.ActiveAt p ∨ ∃ t, detaching (s'.pc t) = some p)
    (hinactive : ∀ t, marked (s'.pc t) = some p → ¬ s'.ActiveAt p)
    (hsubscribed : ∀ e, s'.subscriptionMap.lookup p = some e → e.active = true →
      ∀ a ∈ e.listeners, s'.lastCall a = .subscribed) : Connected L s' where
  attached_iff q := by
    by_cases hq : q = p
    · subst hq
      exact hattached
    · rw [h.attached_other q hq, hs.attached_iff, h.activeAt_iff hq]
      exact or_congr Iff.rfl (exists_congr fun t => (h.detaching_other t q hq).symm)
  inactive t q ht := by
    by_cases hq : q = p
    · subst hq
      exact hinactive t ht
    · rw [h.activeAt_iff hq]
      exact hs.inactive t q (h.marked_other t q hq ht)
  subscribed q e he hactive a ha := by
    by_cases hq : q = p
    · subst hq
      exact hsubscribed e he hactive a ha
    · rw [h.lookup_other q hq] at he
      rw [h.call_other a (hl.path_eq q e he a ha ▸ hq)]
      exact hs.subscribed q e he hactive a ha

omit [DecidableEq τ] [DecidableEq α] [DecidableEq β] in
theorem activeAt_of_lookup {p : Text} {e : Subscription α}
    (h : s.subscriptionMap.lookup p = some e) : s.ActiveAt p ↔ e.active = true := by
  constructor
  · rintro ⟨e', he', hactive⟩
    rw [h, Option.some.injEq] at he'
    rwa [he']
  · intro hactive
    exact ⟨e, h, hactive⟩

omit [DecidableEq τ] [DecidableEq α] [DecidableEq β] in
theorem not_activeAt_of_lookup_none {p : Text} (h : s.subscriptionMap.lookup p = none) :
    ¬ s.ActiveAt p := by
  rintro ⟨e, he, -⟩
  rw [h] at he
  cases he

omit [DecidableEq α] [DecidableEq β] [DecidableEq τ] in
/-- No thread takes down a connection at a path where nothing is being removed. -/
theorem not_marked_of_settled {p : Text} (h : ∀ t, removing (s.pc t) ≠ some p) (t : τ) :
    marked (s.pc t) ≠ some p := by
  intro hm
  exact h t (removing_of_marked hm)

omit [DecidableEq α] [DecidableEq β] [DecidableEq τ] in
theorem not_detaching_of_settled {p : Text} (h : ∀ t, removing (s.pc t) ≠ some p) (t : τ) :
    detaching (s.pc t) ≠ some p := by
  intro hd
  exact h t (removing_of_marked (marked_of_detaching hd))

omit [DecidableEq τ] [DecidableEq β] in
/-- An accessor enters the list of its path. -/
theorem Connected.enter (hs : Connected L s) (hl : Listed L s) {a : α} {c : LastCall}
    {e' : Subscription α} (h : ChangesAt L s s' a c e')
    (hattached : ∀ q, q ≠ L.path a → s'.attached q = s.attached q)
    (hplaces : ∀ t, detaching (s'.pc t) = detaching (s.pc t) ∧ marked (s'.pc t) = marked (s.pc t))
    (hsettled : ∀ t, removing (s.pc t) ≠ some (L.path a))
    (hself : s'.attached (L.path a) = e'.active)
    (hsubscribed : e'.active = true → ∀ b ∈ e'.listeners, s'.lastCall b = .subscribed) :
    Connected L s' := by
  apply hs.of_changesPath hl (p := L.path a)
  · refine ⟨h.lookup_other, hattached, fun b hb => ?_, fun t q _ => by rw [(hplaces t).1],
      fun t q _ ht => by rwa [← (hplaces t).2]⟩
    rw [h.lastCall, Function.update_of_ne]
    rintro rfl
    exact hb rfl
  · rw [hself, activeAt_of_lookup h.lookup_self]
    apply (or_iff_left _).symm
    rintro ⟨t, ht⟩
    rw [(hplaces t).1] at ht
    exact not_detaching_of_settled hsettled t ht
  · intro t ht
    rw [(hplaces t).2] at ht
    exact absurd ht (not_marked_of_settled hsettled t)
  · intro e he hactive
    rw [h.lookup_self, Option.some.injEq] at he
    subst he
    exact hsubscribed hactive

omit [DecidableEq α] [DecidableEq β] [DecidableEq τ] in
/-- Where nothing is being removed, a path is attached exactly if its entry is active. -/
theorem Connected.attached_of_settled (hs : Connected L s) {p : Text}
    (h : ∀ t, removing (s.pc t) ≠ some p) : s.attached p = true ↔ s.ActiveAt p := by
  rw [hs.attached_iff]
  apply or_iff_left
  rintro ⟨t, ht⟩
  exact not_detaching_of_settled h t ht

omit [DecidableEq β] [DecidableEq τ] in
/-- While one thread removes an entry, no other does. -/
theorem Listed.marked_eq (hl : Listed L s) {t u : τ} {p : Text} (ht : removing (s.pc t) = some p)
    (hu : marked (s.pc u) = some p) : u = t :=
  hl.unique u t p (removing_of_marked hu) ht

omit [DecidableEq β] [DecidableEq τ] in
/-- Nobody but the thread itself is about to detach the path it is removing. -/
theorem Listed.not_detaching (hl : Listed L s) {t : τ} {p : Text}
    (ht : removing (s.pc t) = some p) (hd : detaching (s.pc t) ≠ some p) :
    ¬ ∃ u, detaching (s.pc u) = some p := by
  rintro ⟨u, hu⟩
  have hut : u = t := hl.marked_eq ht (marked_of_detaching hu)
  subst hut
  exact hd hu

omit [DecidableEq α] [DecidableEq β] in
/-- A step of the thread which removes the entry of a path. -/
theorem changesPath_of_removing {s₁ : State τ α β} {t : τ} {pc : Pc α β} {p : Text}
    (hlookup : ∀ q, q ≠ p → s₁.subscriptionMap.lookup q = s.subscriptionMap.lookup q)
    (hattached : ∀ q, q ≠ p → s₁.attached q = s.attached q) (hcall : s₁.lastCall = s.lastCall)
    (hpc : s₁.pc = s.pc) (hbefore : removing (s.pc t) = some p)
    (hafter : removing pc = some p ∨ removing pc = none) : ChangesPath L s (s₁.goto t pc) p := by
  have away {q : Text} (hq : q ≠ p) {x : Pc α β} (hx : removing x = some p ∨ removing x = none) :
      marked x ≠ some q := by
    intro h
    rw [removing_of_marked h] at hx
    obtain hx | hx := hx
    · exact hq (Option.some.inj hx)
    · cases hx
  refine ⟨hlookup, hattached, fun a _ => congrFun hcall a, fun u q hq => ?_, fun u q hq hu => ?_⟩
  · apply place_goto detaching hpc
    · exact fun h => away hq (.inl hbefore) (marked_of_detaching h)
    · exact fun h => away hq hafter (marked_of_detaching h)
  · exact (place_goto marked hpc (away hq (.inl hbefore)) (away hq hafter) u).mp hu

omit [DecidableEq τ] [DecidableEq β] in
/-- An accessor leaves the list of its path; the subscription with DOOCS stays as it is. -/
theorem Connected.leave (hs : Connected L s) (hl : Listed L s) (hl' : Listed L s') {a : α}
    {e e' : Subscription α} (h : ChangesAt L s s' a .unsubscribed e')
    (hold : s.subscriptionMap.lookup (L.path a) = some e) (hactive : e'.active = e.active)
    (hmem : ∀ b ∈ e'.listeners, b ∈ e.listeners) (hattached : s'.attached = s.attached)
    (hplaces : ∀ t, detaching (s'.pc t) = detaching (s.pc t) ∧ marked (s'.pc t) = marked (s.pc t)) :
    Connected L s' := by
  have hiff : s'.ActiveAt (L.path a) ↔ s.ActiveAt (L.path a) := by
    rw [activeAt_of_lookup h.lookup_self, activeAt_of_lookup hold, hactive]
  apply hs.of_changesPath hl (p := L.path a)
  · refine ⟨h.lookup_other, fun q _ => congrFun hattached q, fun b hb => ?_,
      fun t q _ => by rw [(hplaces t).1], fun t q _ ht => by rwa [← (hplaces t).2]⟩
    rw [h.lastCall, Function.update_of_ne]
    rintro rfl
    exact hb rfl
  · rw [hattached, hs.attached_iff, hiff]
    exact or_congr Iff.rfl (exists_congr fun t => by rw [(hplaces t).1])
  · intro t ht
    rw [(hplaces t).2] at ht
    exact hiff.not.mpr (hs.inactive t _ ht)
  · intro e₀ he₀ hactive₀ b hb
    rw [h.lookup_self, Option.some.injEq] at he₀
    subst he₀
    rw [h.lastCall]
    by_cases hba : b = a
    · subst hba
      have hcount := hl'.count_eq b
      rw [listenersAt_of_lookup h.lookup_self, h.lastCall, Function.update_self] at hcount
      exact absurd hb (List.count_eq_zero.mp hcount)
    · rw [Function.update_of_ne hba]
      exact hs.subscribed _ e hold (hactive ▸ hactive₀) b (hmem b hb)

omit [DecidableEq β] in
/-- A step of the thread which removes the entry of a path, after which the entry is inactive or
gone. -/
theorem Connected.remove (hs : Connected L s) (hl : Listed L s) {s₁ : State τ α β} {t : τ}
    {pc : Pc α β} {p : Text}
    (hlookup : ∀ q, q ≠ p → s₁.subscriptionMap.lookup q = s.subscriptionMap.lookup q)
    (hattached : ∀ q, q ≠ p → s₁.attached q = s.attached q) (hcall : s₁.lastCall = s.lastCall)
    (hpc : s₁.pc = s.pc) (hbefore : removing (s.pc t) = some p)
    (hafter : removing pc = some p ∨ removing pc = none) (hoff : ¬ s₁.ActiveAt p)
    (hself : s₁.attached p = true ↔ detaching pc = some p) : Connected L (s₁.goto t pc) := by
  apply hs.of_changesPath hl (changesPath_of_removing hlookup hattached hcall hpc hbefore hafter)
  · refine hself.trans ⟨fun h => .inr ⟨t, ?_⟩, ?_⟩
    · rwa [goto_pc, Function.update_self]
    · rintro (hactive | ⟨u, hu⟩)
      · exact absurd hactive hoff
      · by_cases hut : u = t
        · subst hut
          rwa [goto_pc, Function.update_self] at hu
        · rw [goto_pc, Function.update_of_ne hut, hpc] at hu
          exact absurd (hl.marked_eq hbefore (marked_of_detaching hu)) hut
  · exact fun _ _ => hoff
  · exact fun e he hactive => absurd ⟨e, he, hactive⟩ hoff

omit [DecidableEq β] in
theorem sameConnections_serveError {s₁ : State τ α β} {t : τ} {p text : Text} {k n : ℕ}
    (hconnection : ∀ p, (s₁.subscriptionMap.lookup p).map connection =
      (s.subscriptionMap.lookup p).map connection)
    (hcall : s₁.lastCall = s.lastCall) (hattached : s₁.attached = s.attached) (hpc : s₁.pc = s.pc)
    (h : marked (s.pc t) = none) : SameConnections s (s₁.serveError L t p text k n) := by
  obtain ⟨a, -, heq⟩ | heq | heq := serveError_cases L s₁ t p text k n
  · rw [heq]
    exact .of_goto hconnection hcall hattached hpc h rfl
  · rw [heq]
    exact .of_goto hconnection hcall hattached hpc h rfl
  · rw [heq]
    exact ⟨hconnection, hcall, hattached, fun u => congrArg (fun pc => detaching (pc u)) hpc,
      fun u => congrArg (fun pc => marked (pc u)) hpc⟩

/-- The path at whose entry the thread waits for the callback. -/
def awaiting : Pc α β → Option Text
  | .awaitStarted p => some p
  | _ => none

/-- Whoever waits for the callback waits at an active entry. -/
def AwaitsActive (s : State τ α β) : Prop := ∀ t, ∀ p ∈ awaiting (s.pc t), s.ActiveAt p

omit [DecidableEq τ] [DecidableEq α] [DecidableEq β] in
theorem awaitsActive_initial (backend : β → Backend.BackendState) :
    AwaitsActive (initial backend : State τ α β) := by
  intro t p h
  cases h

omit [DecidableEq α] [DecidableEq β] in
theorem keepsMap_of_awaiting {pc : Pc α β} {p : Text} (h : p ∈ awaiting pc) : pc.keepsMap = true := by
  cases pc with
  | awaitStarted q => rfl
  | _ => cases h

/-- While the map is kept, only the thread which waits can make an entry inactive. -/
theorem activeAt_of_owned {e : Event τ α β} (h : Transition L s e s') (howned : s.mapOwner ≠ none)
    (hwaits : ∀ t ∈ e.thread?, awaiting (s.pc t) = none) {p : Text} (hp : s.ActiveAt p) :
    s'.ActiveAt p := by
  cases h with
  | subscribeFails _ hfree | subscribeNew _ hfree | subscribeJoins _ hfree
  | unsubscribeLeaves _ hfree | deactivateInactive _ hfree | deactivateActive _ hfree
  | deactivateWaits _ hfree | eraseSubscription _ hfree => exact absurd hfree howned
  | awaitStarted hpc =>
    have hnone := hwaits _ rfl
    rw [hpc] at hnone
    cases hnone
  | @data t q value e hpc hattached hlow hhigh hold =>
    have hsame : SameConnections s
        (s.setSubscription q { e with started := true, gotInitialValue := true }) :=
      ⟨connection_setSubscription hold rfl, rfl, rfl, fun _ => rfl, fun _ => rfl⟩
    exact hsame.symm.activeAt hp
  | @error t q text e hpc hattached hold =>
    have hsame : SameConnections s ((s.setSubscription q
        { e with started := true, gotInitialValue := false }).serveError L t q text 0
          e.listeners.length) :=
      sameConnections_serveError (connection_setSubscription hold rfl) rfl rfl rfl (by rw [hpc]; rfl)
    exact hsame.symm.activeAt hp
  | @errorLoop t r q text k n hpc =>
    have hsame : SameConnections s (s.serveError L t q text k n) :=
      sameConnections_serveError (fun _ => rfl) rfl rfl rfl (by rw [hpc]; rfl)
    exact hsame.symm.activeAt hp
  | _ => exact hp

/-- A thread begins to wait at an active entry, while nobody keeps the map. -/
theorem awaiting_of_step {e : Event τ α β} (h : Transition L s e s') {t : τ} {p : Text}
    (ht : p ∈ awaiting (s'.pc t)) :
    p ∈ awaiting (s.pc t) ∨ s.mapOwner = none ∧ s'.ActiveAt p := by
  cases h with
  | deactivateWaits hpc hfree hactive =>
    obtain ⟨-, hp⟩ | hbefore := mem_place_goto awaiting rfl ht
    · cases hp
      exact .inr ⟨hfree, _, AList.lookup_insert _, hactive⟩
    · exact .inl hbefore
  | error | errorLoop => exact .inl (mem_place_of_serveError awaiting (by rfl) rfl rfl ht)
  | subscribeJoins | unsubscribeLeaves | activateListeners =>
    exact .inl (mem_place_of_goto awaiting rfl (by split <;> rfl) ht)
  | @pushDone u r q reply ret =>
    exact .inl (mem_place_of_goto awaiting rfl (by cases ret <;> rfl) ht)
  | subscribeFails | unsubscribeIgnored | activateIgnored | openSucceeds | data | dangling
  | eraseMissing | informMissing | publish | read => exact .inl ht
  | _ => exact .inl (mem_place_of_goto awaiting rfl rfl ht)

theorem awaitsActive_step {e : Event τ α β} (ho : MapOwned s) (hs : AwaitsActive s)
    (h : Transition L s e s') : AwaitsActive s' := by
  intro t p ht
  obtain hbefore | ⟨-, hactive⟩ := awaiting_of_step h ht
  · have howner := (ho t).mp (keepsMap_of_awaiting hbefore)
    refine activeAt_of_owned h (by simp [howner]) (fun u hu => ?_) (hs t p hbefore)
    -- whoever waits keeps the map, and the thread which keeps it is still waiting
    apply Option.eq_none_iff_forall_not_mem.mpr
    intro q hq
    have hut : u = t :=
      Option.some.inj (((ho u).mp (keepsMap_of_awaiting hq)).symm.trans howner)
    subst hut
    cases h with
    | awaitStarted =>
      cases hu
      rw [goto_pc, Function.update_self] at ht
      cases ht
    | _ => simp_all only [awaiting, reduceCtorEq, Event.thread?, Option.mem_def, Option.some.injEq]
  · exact hactive

theorem connected_step {e : Event τ α β} (hs : Connected L s) (hl : Listed L s)
    (hwaits : AwaitsActive s) (hok : SubscribesWhenSettled L s e) (h : Transition L s e s') : Connected L s' := by
  have hl' := listed_step hl hok h
  cases h with
  | @subscribeFails t a hpc hfree hcall hnew =>
    have hsettled := (hok _ rfl).1
    refine hs.enter hl (a := a) ⟨AList.lookup_insert _, fun q hq => AList.lookup_insert_ne hq, rfl⟩
      (fun q _ => rfl) (fun u => ⟨rfl, rfl⟩) hsettled ?_ (fun h => absurd h Bool.false_ne_true)
    have hoff := (hs.attached_of_settled hsettled).not.mpr (not_activeAt_of_lookup_none hnew)
    exact Bool.eq_false_iff.mpr hoff
  | @subscribeNew t a hpc hfree hcall hnew =>
    refine hs.enter hl (a := a) ⟨AList.lookup_insert _, fun q hq => AList.lookup_insert_ne hq, rfl⟩
      (fun q hq => Function.update_of_ne hq _ _) (places_goto rfl (by rw [hpc]; rfl) rfl)
      (hok _ rfl).1 (Function.update_self _ _ _) fun _ b hb => ?_
    have hb : b = a := by
      simpa [entry_listeners, listenersAt_of_lookup_none hnew] using hb
    subst hb
    exact Function.update_self _ _ _
  | @subscribeJoins t a attachFails e hpc hfree hcall hold =>
    have hsettled := (hok _ rfl).1
    refine hs.enter hl (a := a) ⟨AList.lookup_insert _, fun q hq => AList.lookup_insert_ne hq, rfl⟩
      (fun q _ => rfl) (places_goto rfl (by rw [hpc]; rfl) (by split <;> rfl)) hsettled ?_
      fun hactive b hb => ?_
    · have hiff := (hs.attached_of_settled hsettled).trans (activeAt_of_lookup hold)
      exact Bool.eq_iff_iff.mpr hiff
    · by_cases hba : b = a
      · subst hba
        exact Function.update_self _ _ _
      · refine (Function.update_of_ne hba _ _).trans (hs.subscribed _ e hold hactive b ?_)
        simpa [entry_of_lookup hold, hba] using hb
  | @unsubscribeIgnored t a hpc hfree hnot =>
    refine ⟨hs.attached_iff, hs.inactive, fun p e he hactive b hb => ?_⟩
    refine (Function.update_of_ne ?_ _ _).trans (hs.subscribed p e he hactive b hb)
    rintro rfl
    have hp := hl.path_eq p e he b hb
    subst hp
    have hlist : s.listenersAt (L.path b) = e.listeners := listenersAt_of_lookup he
    exact hnot (hlist ▸ hb)
  | @unsubscribeLeaves t a e hpc hfree hold hmem =>
    refine hs.leave hl hl' (a := a)
      ⟨AList.lookup_insert _, fun q hq => AList.lookup_insert_ne hq, rfl⟩ hold rfl
      (fun b hb => mem_of_mem_eraseRemoved hb) rfl (places_goto rfl (by rw [hpc]; rfl) ?_)
    split <;> rfl
  | @deactivateInactive t r p hpc hfree hactive =>
    have ht : removing (s.pc t) = some p := by rw [hpc]; rfl
    obtain ⟨e, he, -⟩ := hl.window t p ht
    rw [entry_of_lookup he] at hactive ⊢
    refine hs.remove hl (fun q hq => AList.lookup_insert_ne hq) (fun q _ => rfl) rfl rfl ht (.inl rfl)
      ?_ ?_
    · rw [activeAt_of_lookup (AList.lookup_insert _), hactive]
      exact Bool.false_ne_true
    · refine iff_of_false ?_ (by simp [detaching])
      rw [setSubscription_attached, hs.attached_iff, activeAt_of_lookup he, hactive, not_or]
      exact ⟨Bool.false_ne_true, hl.not_detaching ht (by simp [hpc, detaching])⟩
  | @deactivateActive t r p hpc hfree hactive =>
    have ht : removing (s.pc t) = some p := by rw [hpc]; rfl
    obtain ⟨e, he, -⟩ := hl.window t p ht
    rw [entry_of_lookup he] at hactive ⊢
    refine hs.remove hl (fun q hq => AList.lookup_insert_ne hq) (fun q _ => rfl) rfl rfl ht (.inl rfl)
      ?_ (iff_of_true ?_ rfl)
    · rw [activeAt_of_lookup (AList.lookup_insert _)]
      exact Bool.false_ne_true
    · exact (hs.attached_iff p).mpr (.inl ⟨e, he, hactive⟩)
  | @deactivateWaits t r p hpc =>
    have ht : removing (s.pc t) = some p := by rw [hpc]; rfl
    obtain ⟨e, he, -⟩ := hl.window t p ht
    refine hs.of_same (.of_goto (connection_setSubscription he ?_) rfl rfl rfl (by rw [hpc]; rfl) rfl)
    rw [entry_of_lookup he]
  | @awaitStarted t r p hpc =>
    have ht : removing (s.pc t) = some p := by rw [hpc]; rfl
    refine hs.remove hl (fun q hq => AList.lookup_insert_ne hq) (fun q _ => rfl) rfl rfl ht (.inl rfl)
      ?_ (iff_of_true ?_ rfl)
    · rw [activeAt_of_lookup (AList.lookup_insert _)]
      exact Bool.false_ne_true
    · exact (hs.attached_iff p).mpr (.inl (hwaits t p (by rw [hpc]; rfl)))
  | @detach t r p hpc =>
    have ht : marked (s.pc t) = some p := by rw [hpc]; rfl
    refine hs.remove hl (fun q _ => rfl) (fun q hq => Function.update_of_ne hq _ _) rfl rfl
      (removing_of_marked ht) (.inl rfl) (hs.inactive t p ht) (iff_of_false ?_ (by simp [detaching]))
    simp
  | @eraseSubscription t r p hpc hfree =>
    have ht : marked (s.pc t) = some p := by rw [hpc]; rfl
    refine hs.remove hl (fun q hq => AList.lookup_erase_ne hq) (fun q _ => rfl) rfl rfl
      (removing_of_marked ht) (.inr rfl) ?_ (iff_of_false ?_ (by simp [detaching]))
    · exact not_activeAt_of_lookup_none (AList.lookup_erase _ _)
    · refine (hs.attached_iff p).not.mpr (not_or.mpr ⟨hs.inactive t p ht, ?_⟩)
      exact hl.not_detaching (removing_of_marked ht) (by simp [hpc, detaching])
  | data hpc hattached hlow hhigh hold =>
    exact hs.of_same ⟨connection_setSubscription hold rfl, rfl, rfl, fun _ => rfl, fun _ => rfl⟩
  | error hpc hattached hold =>
    exact hs.of_same (sameConnections_serveError (connection_setSubscription hold rfl) rfl rfl rfl
      (by rw [hpc]; rfl))
  | errorLoop hpc =>
    exact hs.of_same (sameConnections_serveError (fun _ => rfl) rfl rfl rfl (by rw [hpc]; rfl))
  | activateIgnored | openSucceeds | dangling | eraseMissing | informMissing | publish | read =>
    exact hs.of_same ⟨fun _ => rfl, rfl, rfl, fun _ => rfl, fun _ => rfl⟩
  | @pushDone t r p reply ret hpc =>
    refine hs.of_same (.of_goto (fun _ => rfl) rfl rfl rfl (by rw [hpc]; rfl) ?_)
    cases ret <;> rfl
  | activateListeners hpc hold =>
    refine hs.of_same (.of_goto (fun _ => rfl) rfl rfl rfl (by rw [hpc]; rfl) ?_)
    split <;> rfl
  | activateChecked hpc | close hpc | openFails hpc | setException hpc
  | exchangeSet hpc | exchangeUnset hpc | activateAllListeners hpc | activateDone hpc
  | activateSkips hpc | poll hpc | pushPolled hpc | pushErrorIgnored hpc | pushErrorChecked hpc
  | clearIsActiveZMQ hpc | pushException hpc | clearOpened hpc | clearAsyncRead hpc
  | clearLastFailedAddress hpc | setExceptionImpl hpc | pushExceptions hpc
  | pushExceptionsDone hpc | pushExceptionsAt hpc | informRuntimeError hpc =>
    exact hs.of_same (.of_goto (fun _ => rfl) rfl rfl rfl (by rw [hpc]; rfl) rfl)

/-- What holds in every run in which accessors subscribe when their path is settled. -/
theorem connected_run {backend : β → Backend.BackendState} {es : List (Event τ α β)}
    (run : Runs.Run (step L) (SubscribesWhenSettled L) (initial backend) es s) :
    Listed L s ∧ Connected L s := by
  have hs := run.invariant
    (I := fun s => MapOwned s ∧ AwaitsActive s ∧ Listed L s ∧ Connected L s)
    (fun s e s' ⟨ho, hwaits, hl, hs⟩ hok h => by
      have h := transition_of_step h
      exact ⟨mapOwned_step ho h, awaitsActive_step ho hwaits h, listed_step hl hok h,
        connected_step hs hl hwaits hok h⟩)
    ⟨mapOwned_initial backend, awaitsActive_initial backend, listed_initial backend,
      connected_initial backend⟩
  exact hs.2.2

/-- While nothing is being removed, DOOCS calls back for exactly the paths of which an accessor is
subscribed. -/
theorem attached_iff_subscribed {backend : β → Backend.BackendState} {es : List (Event τ α β)}
    (run : Runs.Run (step L) (SubscribesWhenSettled L) (initial backend) es s)
    (hquiet : ∀ t, removing (s.pc t) = none) (p : Text) :
    s.attached p = true ↔ ∃ a, L.path a = p ∧ s.lastCall a = .subscribed := by
  obtain ⟨hl, hs⟩ := connected_run run
  rw [hs.attached_of_settled fun t ht => by rw [hquiet] at ht; cases ht]
  constructor
  · rintro ⟨e, he, hactive⟩
    have hne : e.listeners ≠ [] := by
      intro hnil
      obtain ⟨t, ht⟩ := hl.nonempty p e he hnil
      rw [hquiet] at ht
      cases ht
    obtain ⟨a, ha⟩ := List.exists_mem_of_ne_nil _ hne
    exact ⟨a, hl.path_eq p e he a ha, hs.subscribed p e he hactive a ha⟩
  · rintro ⟨a, rfl, ha⟩
    have hcount := hl.count_eq a
    rw [ha] at hcount
    have hmem : a ∈ s.listenersAt (L.path a) := List.count_pos_iff.mp (by rw [hcount]; exact Nat.one_pos)
    cases he : s.subscriptionMap.lookup (L.path a) with
    | none => simp [listenersAt_of_lookup_none he] at hmem
    | some e =>
      rw [listenersAt_of_lookup he] at hmem
      obtain hactive | ⟨b, hb, hfailed⟩ := hl.active _ e he (List.ne_nil_of_mem hmem)
      · exact ⟨e, he, hactive⟩
      · rw [hb, List.mem_singleton] at hmem
        rw [← hmem, ha] at hfailed
        cases hfailed

theorem attached_subscribeBoth :
    ∃ s, Runs.exec (step onePath) (initial fun _ => {}) subscribeBoth = some s ∧
      (s.attached "F/D/L/P".toList = true ↔ ∃ a, onePath.path a = "F/D/L/P".toList ∧
        s.lastCall a = .subscribed) := by
  obtain ⟨s, hs⟩ : ∃ s, Runs.exec (step onePath) (initial fun _ => {}) subscribeBoth = some s :=
    Option.isSome_iff_exists.mp rfl
  have run : Runs.Run (step onePath) (SubscribesWhenSettled onePath) (initial fun _ => {})
      subscribeBoth s := Runs.Along.run (by decide) hs
  refine ⟨s, hs, attached_iff_subscribed run (fun t => ?_) _⟩
  have h := congrArg (Option.map fun s => removing (s.pc t)) hs
  cases t <;> exact (Option.some.inj h).symm

end DoocsBackend.Zmq.State
