import DoocsBackend.Zmq.Attachment
import DoocsBackend.Zmq.Ownership

/-! # What the manager points to

DOOCS keeps a pointer to the entry of every path it calls back for, `unsubscribe` erases the
entry it has looked up before, the error loop runs over a list it has unlocked, and a poll
keeps pointers to listeners with no lock on their list. None of these pointers dangles.
-/
namespace DoocsBackend.Zmq.State
variable {τ α β : Type} [DecidableEq τ] [DecidableEq α] [DecidableEq β]

/-- The path whose error loop the thread is in, with the length of the list when it began. -/
def looping : Pc α β → Option (Text × ℕ)
  | .informRuntimeError p _ _ n | .errorLoop p _ _ n => some (p, n)
  | _ => none

/-- The position of the listener an error loop has just served, with the end of the loop. -/
def informing : Pc α β → Option (ℕ × ℕ)
  | .informRuntimeError _ _ k n => some (k, n)
  | _ => none

/-- No accessor enters or leaves a list an error loop is running over. -/
def LoopsUndisturbed (L : Layout α β) (s : State τ α β) (e : Event τ α β) : Prop :=
  (∀ a ∈ e.subscriber?, ∀ t, ∀ x ∈ looping (s.pc t), x.1 ≠ L.path a) ∧
    ∀ a ∈ e.unsubscriber?, ∀ t, ∀ x ∈ looping (s.pc t), x.1 ≠ L.path a

instance [Fintype τ] (L : Layout α β) (s : State τ α β) (e : Event τ α β) :
    Decidable (LoopsUndisturbed L s e) :=
  inferInstanceAs (Decidable ((∀ a ∈ e.subscriber?, _) ∧ ∀ a ∈ e.unsubscriber?, _))

/-- The lists are as long as the error loops over them take them to be, and the loops stay within. -/
structure LoopsBounded (s : State τ α β) : Prop where
  length_le : ∀ t, ∀ x ∈ looping (s.pc t), x.2 ≤ (s.listenersAt x.1).length
  inside : ∀ t, ∀ x ∈ informing (s.pc t), x.1 < x.2

variable {L : Layout α β} {s s' : State τ α β}

omit [DecidableEq τ] [DecidableEq α] [DecidableEq β] in
theorem loopsBounded_initial (backend : β → Backend.BackendState) :
    LoopsBounded (initial backend : State τ α β) where
  length_le _ _ hx := by cases hx
  inside _ _ hx := by cases hx

omit [DecidableEq β] in
/-- A thread starts or goes on with an error loop only over a list of its length. -/
theorem looping_serveError {s₁ : State τ α β} {t : τ} {p text : Text} {k n : ℕ} {u : τ}
    {x : Text × ℕ} (hx : x ∈ looping ((s₁.serveError L t p text k n).pc u)) :
    u = t ∧ x = (p, n) ∨ x ∈ looping (s₁.pc u) := by
  by_cases hu : u = t
  · subst hu
    obtain ⟨a, -, heq⟩ | heq | heq := serveError_cases L s₁ u p text k n
    all_goals rw [heq] at hx
    · rw [goto_pc, Function.update_self] at hx
      exact .inl ⟨rfl, (Option.some.inj hx).symm⟩
    · rw [goto_pc, Function.update_self] at hx
      cases hx
    · exact .inr hx
  · obtain ⟨a, -, heq⟩ | heq | heq := serveError_cases L s₁ t p text k n
    all_goals rw [heq] at hx
    · rw [goto_pc, Function.update_of_ne hu] at hx
      exact .inr hx
    · rw [goto_pc, Function.update_of_ne hu] at hx
      exact .inr hx
    · exact .inr hx

/-- The error loops after a step are those before it, or the one which it starts. -/
theorem looping_step {e : Event τ α β} (h : Transition L s e s') {u : τ} {x : Text × ℕ}
    (hx : x ∈ looping (s'.pc u)) :
    x ∈ looping (s.pc u) ∨ x.2 = (s'.listenersAt x.1).length := by
  have moved {s₁ : State τ α β} {t : τ} {pc : Pc α β} (heq : s₁.pc = s.pc)
      (hpc : looping pc = none ∨ looping pc = looping (s.pc t))
      (hx : x ∈ looping ((s₁.goto t pc).pc u)) : x ∈ looping (s.pc u) := by
    obtain ⟨rfl, hself⟩ | hother := mem_place_goto looping heq hx
    · obtain hpc | hpc := hpc
      · rw [hpc] at hself
        cases hself
      · rwa [hpc] at hself
    · exact hother
  cases h with
  | @error t p text e hpc hattached hold =>
    obtain ⟨-, rfl⟩ | hx := looping_serveError hx
    · refine .inr (congrArg List.length ?_).symm
      rw [serveError_listenersAt, listenersAt_setSubscription, Function.update_self]
    · exact .inl hx
  | @errorLoop t r p text k n hpc =>
    obtain ⟨rfl, rfl⟩ | hx := looping_serveError hx
    · exact .inl (by rw [hpc]; rfl)
    · exact .inl hx
  | informRuntimeError hpc => exact .inl (moved rfl (.inr (by rw [hpc]; rfl)) hx)
  | subscribeFails | unsubscribeIgnored | activateIgnored | openSucceeds | data | dangling
  | eraseMissing | informMissing | publish | read => exact .inl hx
  | activateListeners | subscribeJoins | unsubscribeLeaves =>
    refine .inl (moved rfl (.inl ?_) hx)
    split <;> rfl
  | @pushDone t r p reply ret =>
    refine .inl (moved rfl (.inl ?_) hx)
    cases ret <;> rfl
  | _ => exact .inl (moved rfl (.inl rfl) hx)

/-- An error loop only serves listeners before its end. -/
theorem informing_step {e : Event τ α β} (h : Transition L s e s') {u : τ} {x : ℕ × ℕ}
    (hx : x ∈ informing (s'.pc u)) : x ∈ informing (s.pc u) ∨ x.1 < x.2 := by
  have served (s₁ : State τ α β) (heq : s₁.pc = s.pc) {t : τ} {p text : Text} {k n : ℕ}
      (hx : x ∈ informing ((s₁.serveError L t p text k n).pc u)) :
      x ∈ informing (s.pc u) ∨ x.1 < x.2 := by
    obtain ⟨a, ⟨hk, -⟩, hserved⟩ | hserved | hserved := serveError_cases L s₁ t p text k n
    all_goals rw [hserved] at hx
    · obtain ⟨-, hself⟩ | hother := mem_place_goto informing heq hx
      · cases hself
        exact .inr hk
      · exact .inl hother
    · exact .inl (mem_place_of_goto informing heq rfl hx)
    · exact .inl (heq ▸ hx)
  cases h with
  | error => exact served (s.setSubscription _ _) rfl hx
  | errorLoop => exact served s rfl hx
  | subscribeFails | unsubscribeIgnored | activateIgnored | openSucceeds | data | dangling
  | eraseMissing | informMissing | publish | read => exact .inl hx
  | activateListeners | subscribeJoins | unsubscribeLeaves =>
    exact .inl (mem_place_of_goto informing rfl (by split <;> rfl) hx)
  | @pushDone t r p reply ret =>
    exact .inl (mem_place_of_goto informing rfl (by cases ret <;> rfl) hx)
  | _ => exact .inl (mem_place_of_goto informing rfl rfl hx)

theorem loopsBounded_step {e : Event τ α β} (hs : LoopsBounded s) (hl : Listed L s)
    (hok : LoopsUndisturbed L s e) (h : Transition L s e s') : LoopsBounded s' := by
  refine ⟨fun u x hx => ?_, fun u x hx => (informing_step h hx).elim (hs.inside u x) id⟩
  obtain hx | hx := looping_step h hx
  · have hle := hs.length_le u x hx
    cases listChange h with
    | kept lists => rwa [lists]
    | @enters t a attachFails c before after lists =>
      have hne := hok.1 a rfl u x hx
      rwa [lists, Function.update_of_ne hne]
    | @leaves t a left hleft lists =>
      have hne := hok.2 a rfl u x hx
      rwa [lists, Function.update_of_ne hne]
    | @erased t r p hpc lists =>
      rw [lists]
      by_cases hp : x.1 = p
      · obtain ⟨e, he, hnil⟩ := hl.window t p (by rw [hpc]; rfl)
        rw [hp, listenersAt_of_lookup he, hnil] at hle
        rw [hp, Function.update_self]
        exact hle
      · rwa [Function.update_of_ne hp]
  · exact hx.le

/-- How a step may leave the defined behaviour. -/
inductive GoesWrong (s : State τ α β) : Prop
  | danglingEntry {p : Text} (attached : s.attached p = true)
      (missing : s.subscriptionMap.lookup p = none)
  | erasesMissing {t : τ} {p : Text} (hpc : s.pc t = .eraseSubscription p)
      (missing : s.subscriptionMap.lookup p = none)
  | beyondList {t : τ} {p text : Text} {k n : ℕ} (hpc : s.pc t = .errorLoop p text k n)
      (within : k < n) (missing : (s.listenersAt p)[k]? = none)
  | missingListener {t : τ} {p text : Text} {k n : ℕ} (hpc : s.pc t = .informRuntimeError p text k n)
      (missing : (s.listenersAt p)[k]? = none)

omit [DecidableEq β] in
theorem serveError_undefined {t : τ} {p text : Text} {k n : ℕ}
    (h : (s.serveError L t p text k n).undefined ≠ s.undefined) :
    k < n ∧ (s.listenersAt p)[k]? = none := by
  unfold serveError at h
  split at h
  · split at h
    · exact absurd rfl h
    · exact ⟨‹_›, ‹_›⟩
  · exact absurd rfl h

theorem goesWrong_of_call {t : τ} {c : Call α β} (h : s.call L t c = some s')
    (hne : s'.undefined ≠ s.undefined) : GoesWrong s := by
  cases c with
  | subscribe a attachFails =>
    simp only [call, subscribe] at h
    split at h
    · cases h
    · split at h
      · split at h <;> (cases h; exact absurd rfl hne)
      · cases h
        exact absurd rfl hne
  | unsubscribe a =>
    simp only [call, unsubscribe] at h
    split at h
    · cases h
    · split at h
      · cases h
        exact absurd rfl hne
      · split at h <;> (cases h; exact absurd rfl hne)
  | activateAsyncRead b =>
    simp only [call] at h
    split at h <;> (cases h; exact absurd rfl hne)
  | close b =>
    simp only [call] at h
    split at h
    · cases h
    · cases h
      exact absurd rfl hne
  | openBackend b rc text =>
    simp only [call] at h
    split at h <;> (cases h; exact absurd rfl hne)
  | setException b message =>
    cases h
    exact absurd rfl hne
  | data p value =>
    simp only [call] at h
    split at h
    · rename_i hguard
      split at h
      · exact .danglingEntry hguard.1 ‹_›
      · cases h
        exact absurd rfl hne
    · cases h
  | error p text =>
    simp only [call] at h
    split at h
    · split at h
      · exact .danglingEntry ‹_› ‹_›
      · rename_i e hold
        cases h
        obtain ⟨hlt, hnone⟩ := serveError_undefined (s := s.setSubscription p _) hne
        rw [listenersAt_setSubscription, Function.update_self, List.getElem?_eq_none_iff] at hnone
        exact absurd hlt (not_lt.mpr hnone)
    · cases h

theorem goesWrong_of_advance {t : τ} {r : Option Text}
    (h : Transition L s (.next t r) s') (hne : s'.undefined ≠ s.undefined) : GoesWrong s := by
  cases h with
  | eraseMissing hpc _ hold => exact .erasesMissing hpc hold
  | errorLoop hpc =>
    obtain ⟨hlt, hnone⟩ := serveError_undefined hne
    exact .beyondList hpc hlt hnone
  | informMissing hpc hslot => exact .missingListener hpc hslot
  | _ => exact absurd rfl hne

theorem goesWrong_of_step {e : Event τ α β} (h : s.step L e = some s')
    (hne : s'.undefined ≠ s.undefined) : GoesWrong s := by
  cases e with
  | call t c =>
    simp only [step] at h
    split at h
    · exact goesWrong_of_call h hne
    · cases h
  | next t r =>
    simp only [step] at h
    split at h
    · cases h
    · exact goesWrong_of_advance (transition_advance h) hne
  | publish p | read a =>
    cases h
    exact absurd rfl hne

omit [DecidableEq τ] [DecidableEq β] in
/-- Nothing goes wrong where the map, DOOCS and the error loops agree. -/
theorem Connected.not_goesWrong (hs : Connected L s) (hl : Listed L s) (hb : LoopsBounded s) :
    ¬ GoesWrong s := by
  have found {t : τ} {p : Text} (ht : removing (s.pc t) = some p) :
      s.subscriptionMap.lookup p ≠ none := by
    obtain ⟨e, he, -⟩ := hl.window t p ht
    rw [he]
    exact Option.some_ne_none e
  have within {t : τ} {p : Text} {k n : ℕ} (hk : k < n) (ht : (p, n) ∈ looping (s.pc t))
      (hmissing : (s.listenersAt p)[k]? = none) : False := by
    have hle := hb.length_le t (p, n) ht
    rw [List.getElem?_eq_none_iff] at hmissing
    exact absurd hk (not_lt.mpr (hle.trans hmissing))
  rintro (⟨hattached, hmissing⟩ | ⟨hpc, hmissing⟩ | ⟨hpc, hlt, hmissing⟩ |
    @⟨t, p, text, k, n, hpc, hmissing⟩)
  · obtain ⟨e, he, -⟩ | ⟨t, ht⟩ := (hs.attached_iff _).mp hattached
    · rw [he] at hmissing
      cases hmissing
    · exact found (removing_of_marked (marked_of_detaching ht)) hmissing
  · exact found (by rw [hpc]; rfl) hmissing
  · exact within hlt (by rw [hpc]; rfl) hmissing
  · exact within (hb.inside t (k, n) (by rw [hpc]; rfl)) (by rw [hpc]; rfl) hmissing

/-- What holds in every run in which accessors subscribe when their path is settled and leave the lists
alone over which an error loop is running. -/
structure Sound (L : Layout α β) (s : State τ α β) : Prop where
  owned : MapOwned s
  awaits : AwaitsActive s
  listed : Listed L s
  connected : Connected L s
  bounded : LoopsBounded s
  defined : s.undefined = false

theorem Sound.defined_step (hs : Sound L s) {e : Event τ α β} (h : s.step L e = some s') :
    s'.undefined = false := by
  by_contra hundefined
  refine hs.connected.not_goesWrong hs.listed hs.bounded (goesWrong_of_step h ?_)
  rwa [hs.defined]

theorem sound_run {backend : β → Backend.BackendState} {es : List (Event τ α β)}
    (run : Runs.Run (step L) (fun s e => SubscribesWhenSettled L s e ∧ LoopsUndisturbed L s e)
      (initial backend) es s) : Sound L s := by
  apply run.invariant (I := Sound L)
  · intro s e s' hs hok h
    have hstep := transition_of_step h
    exact ⟨mapOwned_step hs.owned hstep, awaitsActive_step hs.owned hs.awaits hstep,
      listed_step hs.listed hok.1 hstep, connected_step hs.connected hs.listed hs.awaits hok.1 hstep,
      loopsBounded_step hs.bounded hs.listed hok.2 hstep, hs.defined_step h⟩
  · exact ⟨mapOwned_initial backend, awaitsActive_initial backend, listed_initial backend,
      connected_initial backend, loopsBounded_initial backend, rfl⟩

/-- An error callback is served while nobody else works on the path, which is then given up. -/
def servedThenLeft : List (Event Bool Bool Unit) :=
  [.call true (.subscribe true false), .call false (.error "F/D/L/P".toList "timeout".toList),
    .next false none, .next false none, .call true (.unsubscribe true), .next true none,
    .next true none, .next true none]

/-- The listeners an `activateAllListeners` is polling for, with their path and backend. -/
def pollingFor : Pc α β → Option (β × Text × List α)
  | .pollInitialValue p accessors (some (b, _)) => some (b, p, accessors)
  | .pushInitialValue p _ accessors (some (b, _)) => some (b, p, accessors)
  | .clearIsActiveZMQ p _ a accessors (some (b, _)) | .pushException p _ a accessors (some (b, _)) =>
    some (b, p, a :: accessors)
  | _ => none

/-- Everything polled for is still listed. -/
def PollsListed (L : Layout α β) (s : State τ α β) : Prop :=
  ∀ t, ∀ x ∈ pollingFor (s.pc t), ∀ a ∈ x.2.2, a ∈ s.listenersAt x.2.1 ∧ L.backend a = x.1

omit [DecidableEq α] [DecidableEq β] in
theorem keepsMap_of_polling {pc : Pc α β} {x : β × Text × List α} (h : x ∈ pollingFor pc) :
    pc.keepsMap = true := by
  cases pc with
  | pollInitialValue p accessors ret | pushInitialValue p reply accessors ret
  | clearIsActiveZMQ p text a accessors ret | pushException p text a accessors ret =>
    cases ret with
    | none => cases h
    | some ret => rfl
  | _ => cases h

/-- What is polled for after a step has been polled for before it, or has just been activated. -/
theorem polling_step {e : Event τ α β} (h : Transition L s e s') {u : τ} {x : β × Text × List α}
    (hx : x ∈ pollingFor (s'.pc u)) :
    (∃ as, (x.1, x.2.1, as) ∈ pollingFor (s.pc u) ∧ x.2.2 ⊆ as) ∨
      x.2.2 = ownedBy L x.1 (s.listenersAt x.2.1) ∧ s'.listenersAt = s.listenersAt := by
  have same (hx : x ∈ pollingFor (s.pc u)) : ∃ as, (x.1, x.2.1, as) ∈ pollingFor (s.pc u) ∧ x.2.2 ⊆ as :=
    ⟨x.2.2, hx, List.Subset.refl _⟩
  cases h with
  | @poll t r p accessors ret hpc =>
    obtain ⟨rfl, hself⟩ | hother := mem_place_goto pollingFor rfl hx
    · refine .inl (same ?_)
      rw [hpc]
      cases ret <;> exact hself
    · exact .inl (same hother)
  | @pushErrorChecked t r p text a as ret hpc | @clearIsActiveZMQ t r p text a as ret hpc =>
    obtain ⟨rfl, hself⟩ | hother := mem_place_goto pollingFor rfl hx
    · refine .inl (same ?_)
      rw [hpc]
      cases ret <;> exact hself
    · exact .inl (same hother)
  | @pushPolled t r p value a as ret hpc | @pushErrorIgnored t r p text a as ret hpc
  | @pushException t r p text a as ret hpc =>
    obtain ⟨rfl, hself⟩ | hother := mem_place_goto pollingFor rfl hx
    · left
      rw [hpc]
      cases ret with
      | none => cases hself
      | some ret =>
        cases hself
        exact ⟨a :: as, rfl, List.subset_cons_self a as⟩
    · exact .inl (same hother)
  | @activateListeners t r b p todo e hpc hold =>
    obtain ⟨rfl, hself⟩ | hother := mem_place_goto pollingFor rfl hx
    · right
      split at hself
      · cases hself
        exact ⟨congrArg (ownedBy L b) (listenersAt_of_lookup hold).symm, rfl⟩
      · cases hself
    · exact .inl (same hother)
  | @pushDone t r p reply ret =>
    refine .inl (same (mem_place_of_goto pollingFor rfl ?_ hx))
    cases ret <;> rfl
  | error | errorLoop => exact .inl (same (mem_place_of_serveError pollingFor (by rfl) rfl rfl hx))
  | subscribeFails | unsubscribeIgnored | activateIgnored | openSucceeds | data | dangling
  | eraseMissing | informMissing | publish | read => exact .inl (same hx)
  | subscribeJoins | unsubscribeLeaves =>
    refine .inl (same (mem_place_of_goto pollingFor rfl ?_ hx))
    split <;> rfl
  | _ => exact .inl (same (mem_place_of_goto pollingFor rfl rfl hx))

theorem pollsListed_step {e : Event τ α β} (hs : PollsListed L s) (hm : MapOwned s)
    (h : Transition L s e s') : PollsListed L s' := by
  intro u x hx a ha
  obtain ⟨as, has, hsubset⟩ | ⟨heq, hlists⟩ := polling_step h hx
  · have howned : s.mapOwner ≠ none := by
      rw [(hm u).mp (keepsMap_of_polling has)]
      exact Option.some_ne_none u
    rw [listenersAt_of_owned h howned]
    exact hs u _ has a (hsubset ha)
  · rw [heq] at ha
    rw [hlists]
    exact mem_ownedBy.mp ha

/-- While `activateAllListeners` polls an initial value without the lock of the list, nobody can
unsubscribe the listeners it will push the value to: each of them is still in the list of its path,
has not been unsubscribed and belongs to the backend. -/
theorem polled_listed {backend : β → Backend.BackendState} {es : List (Event τ α β)}
    (run : Runs.exec (step L) (initial backend) es = some s) {t : τ} {p : Text} {as : List α} {b : β}
    (hpolling : pollingFor (s.pc t) = some (b, p, as)) {a : α} (ha : a ∈ as) :
    L.path a = p ∧ a ∈ s.listenersAt p ∧ (s.lastCall a).isEntered = true ∧ L.backend a = b := by
  obtain ⟨hm, hplaced, honce, hs⟩ : MapOwned s ∧ Placed L s ∧ AtMostOnce L s ∧ PollsListed L s := by
    apply Runs.exec_invariant
      (I := fun s => MapOwned s ∧ Placed L s ∧ AtMostOnce L s ∧ PollsListed L s) run
    · rintro s e s' ⟨hm, hplaced, honce, hs⟩ h
      have h := transition_of_step h
      exact ⟨mapOwned_step hm h, placed_step hplaced h, atMostOnce_step honce h,
        pollsListed_step hs hm h⟩
    · refine ⟨mapOwned_initial backend, placed_initial backend, atMostOnce_initial backend, ?_⟩
      intro t x hx
      cases hx
  obtain ⟨hlisted, hb⟩ := hs t _ hpolling a ha
  have hp := hplaced p a hlisted
  subst hp
  exact ⟨rfl, hlisted, honce.entered hlisted, hb⟩

/-- A backend is activated whose accessor has seen its initial value. -/
def activatedLate : List (Event Bool Bool Unit) :=
  [.call true (.subscribe true false), .call false (.data "F/D/L/P".toList 0),
    .call true (.activateAsyncRead ()), .next true none, .next true none, .next true none]

theorem activatedLate_polls :
    ∃ s, Runs.exec (step onePath) (initial fun _ => { opened := true }) activatedLate = some s ∧
      true ∈ s.listenersAt "F/D/L/P".toList := by
  obtain ⟨s, hs⟩ : ∃ s,
      Runs.exec (step onePath) (initial fun _ => { opened := true }) activatedLate = some s :=
    Option.isSome_iff_exists.mp rfl
  have hpolling : pollingFor (s.pc true) = some ((), "F/D/L/P".toList, [true]) := by
    have h := congrArg (Option.map fun s => pollingFor (s.pc true)) hs
    exact (Option.some.inj h).symm
  exact ⟨s, hs, (polled_listed hs hpolling (List.mem_singleton_self true)).2.1⟩

end DoocsBackend.Zmq.State
