import DoocsBackend.Zmq.Activity
import DoocsBackend.Zmq.Exceptions
import DoocsBackend.Zmq.Membership
import DoocsBackend.Zmq.Ownership

/-! # An exception reaches every listener

`setExceptionImpl` pushes its exception to the listeners path by path, while callbacks, polls
and reads go on. Since the loop keeps the map, nobody can activate a listener behind it: when
it is over, every listener of the backend is inactive. It has got one exception if it was
active in the beginning, its own or that of a callback or of a poll, and would only get another
one from a poll which has seen the listener active and is late.
-/
namespace DoocsBackend.Zmq.State
variable {τ α β : Type} [DecidableEq τ] [DecidableEq α] [DecidableEq β]

/-- The thread pushes an exception to the listeners of a backend, with the paths still to be
visited. -/
def pushing : Pc α β → Option (β × List Text)
  | .pushExceptionsAt b _ todo => some (b, todo)
  | _ => none

variable {L : Layout α β} {s s' : State τ α β} {t : τ} {b : β}

omit [DecidableEq α] [DecidableEq β] in
theorem exists_of_pushing {pc : Pc α β} {todo : List Text} (h : pushing pc = some (b, todo)) :
    ∃ message, pc = .pushExceptionsAt b message todo := by
  cases pc with
  | pushExceptionsAt b' message todo' =>
    cases h
    exact ⟨message, rfl⟩
  | _ => cases h

omit [DecidableEq α] [DecidableEq β] [DecidableEq τ] in
theorem owner_of_pushing (hm : MapOwned s) {todo : List Text}
    (ht : pushing (s.pc t) = some (b, todo)) : s.mapOwner = some t := by
  obtain ⟨message, hpc⟩ := exists_of_pushing ht
  exact (hm t).mp (by rw [hpc]; rfl)

/-- While a thread pushes exceptions, no listener is activated. -/
theorem exceptionStep_of_pushing (hm : MapOwned s) {todo : List Text}
    (ht : pushing (s.pc t) = some (b, todo)) {e : Event τ α β} (h : Transition L s e s') (a : α) :
    ExceptionStep L s s' e a := by
  have howner := owner_of_pushing hm ht
  have hnever (hfree : s.mapOwner = none) : False := by
    rw [howner] at hfree
    cases hfree
  have hvisited (u : τ) : s.visited L (s.pc u) = [] := by
    cases hpc : s.pc u with
    | activateListeners c todo' =>
      have hu : s.mapOwner = some u := (hm u).mp (by rw [hpc]; rfl)
      rw [howner, Option.some.injEq] at hu
      rw [hu, hpc] at ht
      cases ht
    | _ => rfl
  by_cases hcall : e.subscriber? = some a ∨ ∃ u c, e = .call u (.close c)
  · cases h with
    | subscribeFails _ hfree | subscribeNew _ hfree | subscribeJoins _ hfree | close _ hfree =>
      exact (hnever hfree).elim
    | dangling => exact .aside (.refl _) (samePlaces_of_pc rfl)
    | _ => simp [Event.subscriber?] at hcall
  · obtain ⟨hsubscriber, hclose⟩ := not_or.mp hcall
    refine .of_transition h ?_ fun u c hc => hclose ⟨u, c, hc⟩
    rintro (hsubscribes | ⟨u, -, hmem⟩)
    · exact hsubscriber hsubscribes
    · rw [hvisited u] at hmem
      cases hmem

/-- How far the loop has got since it started in `s₁`. -/
structure Broadcasting (L : Layout α β) (t : τ) (b : β) (s₁ s : State τ α β) : Prop where
  lists : s.listenersAt = s₁.listenersAt
  visited : ∃ todo, pushing (s.pc t) = some (b, todo) ∧
    ∀ p, p ∉ todo → ∀ a ∈ ownedBy L b (s.listenersAt p), (s.listener a).isActiveZMQ = false

variable {s₁ : State τ α β}

theorem listenersAt_of_pushing (hm : MapOwned s) {todo : List Text}
    (ht : pushing (s.pc t) = some (b, todo)) {e : Event τ α β} (h : Transition L s e s') :
    s'.listenersAt = s.listenersAt := by
  apply listenersAt_of_owned h
  rw [owner_of_pushing hm ht]
  exact Option.some_ne_none t

/-- The thread is in its loop, and not in another call. The next step visits the next path or leaves the
loop, or it is a step of somebody else. -/
theorem pushing_step {todo : List Text} (ht : pushing (s.pc t) = some (b, todo)) {e : Event τ α β}
    (he : ∀ c, e ≠ .call t c) (h : Transition L s e s') :
    s'.pc t = .idle ∨ e.actor? ≠ some t ∧ pushing (s'.pc t) = some (b, todo) ∨
      ∃ message p todo', todo = p :: todo' ∧ pushing (s'.pc t) = some (b, todo') ∧
        ownedBy L b (s.listenersAt p) = s.tests L e ∧
        s' = (s.eachListener (ownedBy L b (s.listenersAt p)) (Listener.pushError L.queue message)).goto t
          (.pushExceptionsAt b message todo') := by
  by_cases hactor : e.actor? = some t
  · obtain ⟨message, hpc⟩ := exists_of_pushing ht
    cases e with
    | call u c =>
      cases hactor
      exact absurd rfl (he c)
    | next u r =>
      cases hactor
      cases h with
      | pushExceptionsDone =>
        left
        rw [goto_pc, Function.update_self]
      | @pushExceptionsAt _ _ b' message' p todo' hpc' =>
        rw [hpc] at hpc'
        cases hpc'
        refine .inr (.inr ⟨message, p, todo', rfl, ?_, ?_, rfl⟩)
        · rw [goto_pc, Function.update_self]
          rfl
        · rw [tests, hpc, tested]
      | _ => simp_all only [reduceCtorEq]
    | publish p | read a => cases hactor
  · refine .inr (.inl ⟨hactor, ?_⟩)
    rwa [pc_of_ne h hactor]

/-- The next step of the loop, or a step of somebody else. -/
theorem broadcasting_step (hm : MapOwned s) (hs : Broadcasting L t b s₁ s) {e : Event τ α β}
    (he : ∀ c, e ≠ .call t c) (h : Transition L s e s') :
    s'.pc t = .idle ∨ Broadcasting L t b s₁ s' := by
  obtain ⟨todo, ht, hvisited⟩ := hs.visited
  have hlists := listenersAt_of_pushing hm ht h
  have hoff (a : α) (ha : (s.listener a).isActiveZMQ = false) :
      (s'.listener a).isActiveZMQ = false := by
    by_contra hactive
    rw [(exceptionStep_of_pushing hm ht h a).active (by simpa using hactive)] at ha
    cases ha
  obtain hidle | ⟨-, ht'⟩ | ⟨message, p, todo', rfl, ht', -, hs'⟩ := pushing_step ht he h
  · exact .inl hidle
  · refine .inr ⟨hlists.trans hs.lists, todo, ht', fun p hp a ha => ?_⟩
    rw [hlists] at ha
    exact hoff a (hvisited p hp a ha)
  · refine .inr ⟨hlists.trans hs.lists, todo', ht', fun q hq a ha => ?_⟩
    rw [hlists] at ha
    by_cases hp : q = p
    · subst hp
      rw [hs']
      exact not_active_of_each (by simp) ha
    · exact hoff a (hvisited q (by simp [hp, hq]) a ha)

/-- A listener of the path gets the exceptions it is owed, and is finished with when its path has been
visited. -/
structure Counted (t : τ) (b : β) (p : Text) (a : α) (total : ℕ) (s : State τ α β) : Prop where
  due : ExceptionDue s a total
  apart : ∀ todo, pushing (s.pc t) = some (b, todo) → p ∉ todo →
    ∀ u, inPushError (s.pc u) ≠ some a

theorem counted_step {p : Text} {a : α} {total : ℕ} (hm : MapOwned s)
    (hs : Broadcasting L t b s₁ s) (hcounted : Counted t b p a total s)
    (ha : a ∈ ownedBy L b (s.listenersAt p)) {e : Event τ α β} (he : ∀ c, e ≠ .call t c)
    (hok : PushesApart L a s e) (h : Transition L s e s') : Counted t b p a total s' := by
  obtain ⟨todo, ht, hvisited⟩ := hs.visited
  have hstep := exceptionStep_of_pushing hm ht h a
  refine ⟨hcounted.due.step hok hstep, fun todo' ht' hp => ?_⟩
  have visited_before (hp : p ∉ todo) : ∀ u, inPushError (s'.pc u) ≠ some a :=
    hstep.apart (hvisited p hp a ha) (hcounted.apart todo ht hp)
  obtain hidle | ⟨-, hpushing⟩ | ⟨message, q, todo'', rfl, hpushing, htests, hs'⟩ :=
    pushing_step ht he h
  · rw [hidle] at ht'
    cases ht'
  · rw [hpushing] at ht'
    cases ht'
    exact visited_before hp
  · rw [hpushing] at ht'
    cases ht'
    by_cases hq : p = q
    · -- the listener is visited just now, so that no `pushError` for it is in progress
      subst hq
      intro u hu
      refine hok (htests ▸ ha) u ?_
      obtain ⟨message', hpc⟩ := exists_of_pushing ht
      rw [hs'] at hu
      exact ((samePlaces_outside rfl (by rw [hpc]; rfl) rfl u).1).mp hu
    · exact visited_before (by simp [hq, hp])

/-- A thread which is in no call only leaves its place with a call. -/
theorem idle_step {e : Event τ α β} (hidle : s.pc t = .idle) (he : ∀ c, e ≠ .call t c)
    (h : s.step L e = some s') : s'.pc t = .idle := by
  by_cases hactor : e.actor? = some t
  · cases e with
    | call u c =>
      cases hactor
      exact absurd rfl (he c)
    | next u r =>
      cases hactor
      simp [step, hidle, advance] at h
    | publish p | read a => cases hactor
  · rw [pc_of_ne (transition_of_step h) hactor, hidle]

/-- The thread takes the map to push its exception. -/
theorem broadcasting_begins {message : Text} {r : Option Text}
    (hpc : s.pc t = .pushExceptions b message) (h : Transition L s (.next t r) s') :
    Broadcasting L t b s s' ∧ s'.listener = s.listener ∧ pushing (s'.pc t) = some (b, s.paths) ∧
      ∀ u, inPushError (s'.pc u) = inPushError (s.pc u) := by
  cases h with
  | @pushExceptions _ _ b' message' hpc' hfree =>
    rw [hpc] at hpc'
    cases hpc'
    have hpushing : pushing (({ s with mapOwner := some t }.goto t
        (.pushExceptionsAt b message s.paths)).pc t) = some (b, s.paths) := by
      rw [goto_pc, Function.update_self]
      rfl
    refine ⟨⟨rfl, s.paths, hpushing, fun p hp a ha => ?_⟩, rfl, hpushing, fun u => ?_⟩
    · exact absurd (mem_paths_of_mem_listenersAt (mem_ownedBy.mp ha).1) hp
    · by_cases hu : u = t
      · rw [hu, goto_pc, Function.update_self, hpc]
        rfl
      · rw [goto_pc, Function.update_of_ne hu]
  | _ => simp_all only [reduceCtorEq]

/-- When `deactivateAllListenersAndPushException` has visited all subscriptions, whatever callbacks,
polls, reads and other calls have come in between, every listener of the backend is inactive. It has
got exactly one exception since the loop began if it was active then, and none otherwise, unless a
`pushError` for it was in progress then or has begun in the middle of another one. -/
theorem exception_reaches_all {backend : β → Backend.BackendState} {before es : List (Event τ α β)}
    {s₂ : State τ α β} {message : Text} {r : Option Text}
    (reached : Runs.exec (step L) (initial backend) before = some s)
    (hpc : s.pc t = .pushExceptions b message)
    (run : Runs.exec (step L) s (.next t r :: es) = some s₂) (hcalls : ∀ e ∈ es, ∀ c, e ≠ .call t c)
    (ends : pushing (s₂.pc t) = some (b, [])) {p : Text} {a : α} (ha : a ∈ s.listenersAt p)
    (hb : L.backend a = b) :
    a ∈ s₂.listenersAt p ∧ (s₂.listener a).isActiveZMQ = false ∧
      ((∀ u, inPushError (s.pc u) ≠ some a) →
        Runs.Along (step L) (fun s e _ => PushesApart L a s e) s (.next t r :: es) →
        (s₂.listener a).exceptions =
          (s.listener a).exceptions + (s.listener a).isActiveZMQ.toNat) := by
  obtain ⟨s₁, begins, run⟩ := Option.bind_eq_some_iff.mp run
  obtain ⟨hbegun, hlistener, hpushing, hplaces⟩ := broadcasting_begins hpc (transition_of_step begins)
  have hm : MapOwned s₁ := by
    have hm : MapOwned s := Runs.exec_invariant reached
      (fun _ _ _ hs h => mapOwned_step hs (transition_of_step h)) (mapOwned_initial backend)
    exact mapOwned_step hm (transition_of_step begins)
  have preserved {s₂ s₃ : State τ α β} {e : Event τ α β} (he : ∀ c, e ≠ .call t c)
      (h : s₂.step L e = some s₃)
      (hs : MapOwned s₂ ∧ (s₂.pc t = .idle ∨ Broadcasting L t b s s₂)) :
      MapOwned s₃ ∧ (s₃.pc t = .idle ∨ Broadcasting L t b s s₃) := by
    refine ⟨mapOwned_step hs.1 (transition_of_step h), ?_⟩
    obtain hidle | hbroadcasting := hs.2
    · exact .inl (idle_step hidle he h)
    · exact broadcasting_step hs.1 hbroadcasting he (transition_of_step h)
  obtain ⟨-, hidle | hs⟩ := (Runs.Run.of_exec run hcalls).invariant
    (I := fun s₂ => MapOwned s₂ ∧ (s₂.pc t = .idle ∨ Broadcasting L t b s s₂))
    (fun _ _ _ hs he h => preserved he h hs) ⟨hm, .inr hbegun⟩
  · rw [hidle] at ends
    cases ends
  obtain ⟨todo, ht, hvisited⟩ := hs.visited
  rw [ends] at ht
  cases ht
  have howned : a ∈ ownedBy L b (s.listenersAt p) := mem_ownedBy.mpr ⟨ha, hb⟩
  have hoff := hvisited p List.not_mem_nil a (by rwa [hs.lists])
  refine ⟨by rwa [hs.lists], hoff, fun hnone along => ?_⟩
  have hcounted : Counted t b p a ((s.listener a).exceptions + (s.listener a).isActiveZMQ.toNat) s₁ :=
    ⟨.settled (by rw [hlistener]; rfl) fun u => by rw [hplaces]; exact hnone u,
      fun _ _ _ u => by rw [hplaces]; exact hnone u⟩
  -- along the guarded run, with the invariant of the loop itself
  have hend := (((along s₁ begins).2.run run).with_labels hcalls).invariant
    (I := fun s₂ => (MapOwned s₂ ∧ (s₂.pc t = .idle ∨ Broadcasting L t b s s₂)) ∧
      (s₂.pc t = .idle ∨ Counted t b p a
        ((s.listener a).exceptions + (s.listener a).isActiveZMQ.toNat) s₂))
    (fun s₂ e s₃ hs he h => by
      refine ⟨preserved he.2 h hs.1, ?_⟩
      obtain hidle | hcounted := hs.2
      · exact .inl (idle_step hidle he.2 h)
      obtain hidle | hbroadcasting := hs.1.2
      · exact .inl (idle_step hidle he.2 h)
      · have hmem : a ∈ ownedBy L b (s₂.listenersAt p) := by rwa [hbroadcasting.lists]
        exact .inr (counted_step hs.1.1 hbroadcasting hcounted hmem he.2 he.1 (transition_of_step h)))
    ⟨⟨hm, .inr hbegun⟩, .inr hcounted⟩
  obtain hidle | hcounted := hend.2
  · rw [hidle] at ends
    cases ends
  · exact hcounted.due.exceptions_eq hoff (hcounted.apart [] ends List.not_mem_nil)

/-- A thread sets an exception on an active backend. -/
def exceptionSet : List (Event Bool Bool Unit) :=
  [.call true (.subscribe true false), .call true (.subscribe false false),
    .call true (.setException () "timeout".toList), .next true none]

/-- While it is pushed to the listeners, a callback comes in. -/
def callbackMeanwhile : List (Event Bool Bool Unit) :=
  [.next true none, .call false (.data "F/D/L/P".toList 0), .next true none]

theorem exception_reaches_both :
    ∃ s s₂, Runs.exec (step onePath) (initial fun _ => { opened := true, asyncReadActivated := true })
        exceptionSet = some s ∧ Runs.exec (step onePath) s callbackMeanwhile = some s₂ ∧
      (s₂.listener false).isActiveZMQ = false ∧ (s₂.listener false).exceptions = 1 := by
  obtain ⟨s, hs⟩ : ∃ s, Runs.exec (step onePath)
      (initial fun _ => { opened := true, asyncReadActivated := true }) exceptionSet = some s :=
    Option.isSome_iff_exists.mp rfl
  obtain ⟨s₂, hall⟩ : ∃ s₂, (Runs.exec (step onePath)
      (initial fun _ => { opened := true, asyncReadActivated := true }) exceptionSet).bind
        (fun s => Runs.exec (step onePath) s callbackMeanwhile) = some s₂ :=
    Option.isSome_iff_exists.mp rfl
  have run : Runs.exec (step onePath) s callbackMeanwhile = some s₂ := by rwa [hs] at hall
  have known {γ : Type} (f : State Bool Bool Unit → γ) := congrArg (Option.map f) hs
  have hpc : s.pc true = .pushExceptions () "timeout".toList :=
    (Option.some.inj (known fun s => s.pc true)).symm
  have ends : pushing (s₂.pc true) = some ((), []) := by
    have h := congrArg (Option.map fun s => pushing (s.pc true)) hall
    exact (Option.some.inj h).symm
  have hlisted : false ∈ s.listenersAt "F/D/L/P".toList :=
    of_decide_eq_true
      (Option.some.inj (known fun s => decide (false ∈ s.listenersAt "F/D/L/P".toList))).symm
  have hnone : ∀ u, inPushError (s.pc u) ≠ some false :=
    of_decide_eq_true (Option.some.inj (known fun s => decide (∀ u, inPushError (s.pc u) ≠ some false))).symm
  have along : Runs.Along (step onePath) (fun s e _ => PushesApart onePath false s e) s
      callbackMeanwhile :=
    of_decide_eq_true (Option.some.inj (known fun s => decide (Runs.Along (step onePath)
      (fun s e _ => PushesApart onePath false s e) s callbackMeanwhile))).symm
  have hone : (s.listener false).exceptions + (s.listener false).isActiveZMQ.toNat = 1 :=
    (Option.some.inj
      (known fun s => (s.listener false).exceptions + (s.listener false).isActiveZMQ.toNat)).symm
  obtain ⟨-, hoff, hcount⟩ := exception_reaches_all hs hpc run (by simp) ends hlisted rfl
  exact ⟨s, s₂, hs, run, hoff, (hcount hnone along).trans hone⟩

end DoocsBackend.Zmq.State
