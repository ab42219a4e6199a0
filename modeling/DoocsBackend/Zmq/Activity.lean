import DoocsBackend.Zmq.ExceptionLast
import DoocsBackend.Zmq.Lists

/-! # Active listeners and the state of the backend

A listener may be active while its backend works, or while a thread which handles an
exception has not yet come to deactivate it. What breaks this is an activation decided
upon before a `close` or an exception and carried out after its deactivation loop.
-/
namespace DoocsBackend.Zmq.State
variable {τ α β : Type} [DecidableEq τ] [DecidableEq α] [DecidableEq β]

/-- A thread at this place will deactivate the listener. -/
def Ahead (L : Layout α β) (a : α) : Pc α β → Prop
  | .setExceptionImpl b | .pushExceptions b _ => L.backend a = b
  | .pushExceptionsAt b _ todo => L.backend a = b ∧ L.path a ∈ todo
  | _ => False

/-- The backend a thread is closing, after it has deactivated the listeners. -/
def closing : Pc α β → Option β
  | .clearOpened b | .clearAsyncRead b => some b
  | _ => none

/-- The backend whose `activateAsyncRead`, `close`, `open` or `setException` a thread is in. -/
def worksOn : Pc α β → Option β
  | .exchangeAsyncRead b | .activateAllListeners b | .activateListeners b _
  | .pollInitialValue _ _ (some (b, _)) | .pushInitialValue _ _ _ (some (b, _))
  | .clearIsActiveZMQ _ _ _ _ (some (b, _)) | .pushException _ _ _ _ (some (b, _))
  | .clearOpened b | .clearAsyncRead b | .clearLastFailedAddress b
  | .setExceptionImpl b | .pushExceptions b _ | .pushExceptionsAt b _ _ => some b
  | _ => none

/-- The listener will be deactivated, or its backend works and will not be closed. -/
def MayBeActive (L : Layout α β) (s : State τ α β) (a : α) : Prop :=
  (∃ t, Ahead L a (s.pc t)) ∨
    (s.backend (L.backend a)).isFunctional = true ∧
      (s.backend (L.backend a)).asyncReadActivated = true ∧
      ∀ t, closing (s.pc t) ≠ some (L.backend a)

/-- Every listener is activated at a time when it may be active. -/
def ActivatesInTime (L : Layout α β) (s : State τ α β) (e : Event τ α β) : Prop :=
  (∀ a ∈ e.subscriber?, (s.backend (L.backend a)).asyncReadActivated = true → MayBeActive L s a) ∧
    ∀ t ∈ e.thread?, ∀ a ∈ s.visited L (s.pc t), (s.listener a).isActiveZMQ = false →
      MayBeActive L s a

section Decide
variable (L : Layout α β) (s : State τ α β) (a : α)

/-- The backend whose listeners of a path a thread will deactivate. -/
def excepting (p : Text) : Pc α β → Option β
  | .setExceptionImpl b | .pushExceptions b _ => some b
  | .pushExceptionsAt b _ todo => if p ∈ todo then some b else none
  | _ => none

omit [DecidableEq α] [DecidableEq β] in
theorem excepting_iff (pc : Pc α β) :
    excepting (L.path a) pc = some (L.backend a) ↔ Ahead L a pc := by
  cases pc <;> simp [excepting, Ahead, eq_comm, and_comm]

instance (pc : Pc α β) : Decidable (Ahead L a pc) := decidable_of_iff _ (excepting_iff L a pc)

instance [Fintype τ] : Decidable (MayBeActive L s a) :=
  inferInstanceAs (Decidable (_ ∨ _ ∧ _ ∧ _))

instance [Fintype τ] (e : Event τ α β) : Decidable (ActivatesInTime L s e) :=
  inferInstanceAs (Decidable ((∀ a ∈ e.subscriber?, _ → _) ∧ ∀ t ∈ e.thread?,
    ∀ a ∈ s.visited L (s.pc t), _ → _))

end Decide

/-- A listener with the flag set. -/
structure Working (L : Layout α β) (s : State τ α β) (a : α) : Prop where
  listed : a ∈ s.listenersAt (L.path a)
  active : (s.listener a).isActiveZMQ = true

variable {L : Layout α β} {s s' : State τ α β} {a : α}

namespace MayBeActive

omit [DecidableEq α] [DecidableEq β] in
/-- Nothing changes but the place of a thread. -/
theorem goto (h : MayBeActive L s a) {t : τ} {pc : Pc α β}
    (hahead : Ahead L a (s.pc t) → Ahead L a pc)
    (hclosing : closing pc = some (L.backend a) → closing (s.pc t) = some (L.backend a)) :
    MayBeActive L (s.goto t pc) a := by
  obtain ⟨u, hu⟩ | ⟨hfun, hflag, hnone⟩ := h
  · refine .inl ⟨u, ?_⟩
    by_cases hut : u = t
    · subst hut
      simpa using hahead hu
    · simpa [hut] using hu
  · refine .inr ⟨hfun, hflag, fun u hu => ?_⟩
    by_cases hut : u = t
    · subst hut
      rw [goto_pc, Function.update_self] at hu
      exact hnone u (hclosing hu)
    · rw [goto_pc, Function.update_of_ne hut] at hu
      exact hnone u hu

omit [DecidableEq α] [DecidableEq β] in
/-- A thread goes on which is not about to deactivate the listener. -/
theorem moves (h : MayBeActive L s a) {t : τ} {pc : Pc α β} (hahead : ¬ Ahead L a (s.pc t))
    (hclosing : closing pc = none) : MayBeActive L (s.goto t pc) a :=
  h.goto (fun ht => absurd ht hahead) fun hc => by rw [hclosing] at hc; cases hc

omit [DecidableEq τ] [DecidableEq α] in
/-- A backend keeps or gains what makes it work. -/
theorem setBackend (h : MayBeActive L s a) {b : β} {x : Backend.BackendState}
    (hx : L.backend a = b → (s.backend b).isFunctional = true →
      (s.backend b).asyncReadActivated = true →
        x.isFunctional = true ∧ x.asyncReadActivated = true) :
    MayBeActive L (s.setBackend b x) a := by
  obtain hahead | ⟨hfun, hflag, hnone⟩ := h
  · exact .inl hahead
  · refine .inr ⟨?_, ?_, hnone⟩
    all_goals
      rw [setBackend_backend]
      by_cases hb : L.backend a = b
      · subst hb
        rw [Function.update_self]
        first | exact (hx rfl hfun hflag).1 | exact (hx rfl hfun hflag).2
      · rwa [Function.update_of_ne hb]

section
omit [DecidableEq α]

theorem setBackend_moves (h : MayBeActive L s a) {t : τ} {pc : Pc α β} {b : β}
    {x : Backend.BackendState}
    (hx : L.backend a = b → (s.backend b).isFunctional = true →
      (s.backend b).asyncReadActivated = true →
        x.isFunctional = true ∧ x.asyncReadActivated = true)
    (hahead : ¬ Ahead L a (s.pc t)) (hclosing : closing pc = none) :
    MayBeActive L ((s.setBackend b x).goto t pc) a :=
  MayBeActive.moves (h.setBackend hx) hahead hclosing

/-- A thread comes to deactivate the listeners of the backend it has set an exception for. -/
theorem excepted (h : MayBeActive L s a) {t : τ} {pc : Pc α β} {b : β} {x : Backend.BackendState}
    (hself : L.backend a = b → Ahead L a pc) (hahead : Ahead L a (s.pc t) → Ahead L a pc)
    (hclosing : closing pc = none) : MayBeActive L ((s.setBackend b x).goto t pc) a := by
  by_cases hb : L.backend a = b
  · exact .inl ⟨t, by simpa using hself hb⟩
  · have hset : MayBeActive L (s.setBackend b x) a := h.setBackend fun h => absurd h hb
    exact hset.goto hahead fun hc => by rw [hclosing] at hc; cases hc

/-- While a thread closes the backend, only a deactivation ahead excuses an active listener. -/
theorem closes (h : MayBeActive L s a) {t : τ} {pc : Pc α β} {b : β} {x : Backend.BackendState}
    (ht : closing (s.pc t) = some b) (hahead : ¬ Ahead L a (s.pc t))
    (hclosing : closing pc = some b ∨ closing pc = none) :
    MayBeActive L ((s.setBackend b x).goto t pc) a := by
  by_cases hb : L.backend a = b
  · obtain ⟨u, hu⟩ | ⟨-, -, hnone⟩ := h
    · have hut : u ≠ t := by
        rintro rfl
        exact hahead hu
      exact .inl ⟨u, by simpa [hut] using hu⟩
    · exact absurd (by rw [ht, hb]) (hnone t)
  · have hset : MayBeActive L (s.setBackend b x) a := h.setBackend fun h => absurd h hb
    apply hset.goto (fun h => absurd h hahead)
    intro hc
    obtain hclosing | hclosing := hclosing
    · rw [hclosing, Option.some.injEq] at hc
      exact absurd hc.symm hb
    · rw [hclosing] at hc
      cases hc

end

end MayBeActive

section
omit [DecidableEq τ] [DecidableEq β]

theorem active_of_each {as : List α} {f : Listener → Listener}
    (hf : ∀ l, (f l).isActiveZMQ = true → l.isActiveZMQ = true)
    (h : (Each.each f as s.listener a).isActiveZMQ = true) : (s.listener a).isActiveZMQ = true :=
  Each.each_preserves (P := fun l : Listener => l.isActiveZMQ = true → (s.listener a).isActiveZMQ = true)
    (fun l hl h => hl (hf l h)) id h

theorem not_active_of_each {as : List α} {f : Listener → Listener}
    (hf : ∀ l, (f l).isActiveZMQ = false) (ha : a ∈ as) :
    (Each.each f as s.listener a).isActiveZMQ = false :=
  Each.each_establishes (P := fun l : Listener => l.isActiveZMQ = false) hf ha

/-- A visit to some listeners only concerns these. -/
theorem active_or_mem_of_each {as : List α} {f : Listener → Listener}
    (h : (Each.each f as s.listener a).isActiveZMQ = true) :
    (s.listener a).isActiveZMQ = true ∨ a ∈ as := by
  by_cases ha : a ∈ as
  · exact .inr ha
  · rw [Each.each_of_notMem ha] at h
    exact .inl h

end

omit [DecidableEq τ] in
/-- `deactivateAllListeners` leaves only listeners of other backends active. -/
theorem backend_ne_of_deactivated {b : β} (hlisted : a ∈ s.listenersAt (L.path a))
    (h : (Each.each Listener.deactivate (s.allListeners L b) s.listener a).isActiveZMQ = true) :
    L.backend a ≠ b := by
  rintro rfl
  have hoff := not_active_of_each (s := s) (f := Listener.deactivate) (by simp)
    (mem_allListeners hlisted)
  rw [hoff] at h
  cases h

omit [DecidableEq τ] in
/-- An exception pushed to a subscription leaves no listener of its backend active there. -/
theorem path_ne_of_pushed {b : β} {message p : Text} (hlisted : a ∈ s.listenersAt (L.path a))
    (hb : L.backend a = b)
    (h : (Each.each (Listener.pushError L.queue message) (ownedBy L b (s.listenersAt p)) s.listener
      a).isActiveZMQ = true) : L.path a ≠ p := by
  rintro rfl
  have hoff := not_active_of_each (s := s) (f := Listener.pushError L.queue message) (by simp)
    (mem_ownedBy.mpr ⟨hlisted, hb⟩)
  rw [hoff] at h
  cases h

omit [DecidableEq β] in
theorem mayBeActive_serveError {t : τ} {p text : Text} {k n : ℕ} (h : MayBeActive L s a)
    (hpc : ¬ Ahead L a (s.pc t)) : MayBeActive L (s.serveError L t p text k n) a := by
  obtain ⟨b, -, heq⟩ | heq | heq := serveError_cases L s t p text k n
  all_goals rw [heq]
  · exact MayBeActive.goto (s := s.eachListener _ _) h (fun h => absurd h hpc) (by simp [closing])
  · exact h.goto (fun h => absurd h hpc) (by simp [closing])
  · exact h

omit [DecidableEq β] in
theorem active_of_serveError {t : τ} {p text : Text} {k n : ℕ}
    (h : ((s.serveError L t p text k n).listener a).isActiveZMQ = true) :
    (s.listener a).isActiveZMQ = true := by
  obtain ⟨b, -, heq⟩ | heq | heq := serveError_cases L s t p text k n
  all_goals rw [heq] at h
  · exact active_of_each (by simp) h
  · exact h
  · exact h

/-- A step which activates nobody, as seen by the listeners active afterwards. -/
theorem Working.before {e : Event τ α β} (h : Transition L s e s') (hw : Working L s' a)
    (he : ∀ t attachFails, e ≠ .call t (.subscribe a attachFails))
    (hactive : (s.listener a).isActiveZMQ = true) : Working L s a := by
  refine ⟨?_, hactive⟩
  obtain hl | ⟨-, t, attachFails, heq⟩ := mem_listenersAt_step h hw.listed
  · exact hl
  · exact absurd heq (he t attachFails)

omit [DecidableEq τ] [DecidableEq β] in
/-- After a `subscribe`, as far as the listeners are concerned. -/
theorem mayBeActive_of_entered {b : α} {t : τ} (active : Bool) {attachFails : Bool}
    (hs : ∀ a, Working L s a → MayBeActive L s a)
    (hok : (s.backend (L.backend b)).asyncReadActivated = true → MayBeActive L s b)
    (before : (∀ t' attachFails', (.call t (.subscribe b attachFails) : Event τ α β) ≠
        .call t' (.subscribe a attachFails')) → (s.listener a).isActiveZMQ = true → Working L s a)
    (hactive : ((s.entered L b active).listener a).isActiveZMQ = true) : MayBeActive L s a := by
  by_cases hab : a = b
  · subst hab
    exact hok (by simpa [entered] using hactive)
  · refine hs a (before (fun t' attachFails' h => ?_) (by simpa [entered, hab] using hactive))
    simp only [Event.call.injEq, Call.subscribe.injEq] at h
    exact hab h.2.1.symm

theorem mayBeActive_step {e : Event τ α β}
    (hs : ∀ a, Working L s a → MayBeActive L s a) (hok : ActivatesInTime L s e)
    (h : Transition L s e s') (hw : Working L s' a) : MayBeActive L s' a := by
  have before := hw.before h
  have hactive := hw.active
  cases h with
  | @subscribeFails t b hpc hfree hcall hnew =>
    have hbase : MayBeActive L s a :=
      mayBeActive_of_entered false hs (hok.1 b rfl) before hactive
    exact hbase
  | @subscribeNew t b hpc hfree hcall hnew =>
    have hbase : MayBeActive L s a :=
      mayBeActive_of_entered true hs (hok.1 b rfl) before hactive
    exact hbase.moves (by rw [hpc]; exact id) rfl
  | @subscribeJoins t b attachFails e hpc hfree hcall hold =>
    have hbase : MayBeActive L s a :=
      mayBeActive_of_entered e.active hs (hok.1 b rfl) before hactive
    apply hbase.moves (by rw [hpc]; exact id)
    split <;> rfl
  | @activateListeners t r b p todo e hpc hold =>
    have hbase : MayBeActive L s a := by
      cases hbefore : (s.listener a).isActiveZMQ with
      | true => exact hs a (before (by simp) hbefore)
      | false =>
        refine hok.2 t rfl a ?_ hbefore
        rw [hpc, visited, listenersAt_of_lookup hold]
        exact (active_or_mem_of_each hactive).resolve_left (by simp [hbefore])
    apply hbase.moves (by rw [hpc]; exact id)
    split <;> rfl
  | @close t b hpc hfree =>
    have hlisted : a ∈ s.listenersAt (L.path a) := hw.listed
    have hba : L.backend a ≠ b := backend_ne_of_deactivated hlisted hactive
    have hbase := hs a (before (by simp) (active_of_each (by simp) hactive))
    exact hbase.goto (by rw [hpc]; exact id) fun h => absurd (Option.some.inj h).symm hba
  | openFails hpc | setException hpc =>
    exact (hs a (before (by simp) hactive)).excepted id (by rw [hpc]; exact False.elim) rfl
  | @openSucceeds t b rc text hpc =>
    have hbase := hs a (before (by simp) hactive)
    exact hbase.setBackend fun _ _ hflag => ⟨rfl, hflag⟩
  | data hpc => exact hs a (before (by simp) (active_of_each (by simp) hactive))
  | error hpc =>
    have hbefore := active_of_serveError hactive
    have hbase : MayBeActive L s a := hs a (before (by simp) hbefore)
    exact mayBeActive_serveError hbase (by rw [setSubscription_pc, hpc]; exact id)
  | errorLoop hpc =>
    have hbase := hs a (before (by simp) (active_of_serveError hactive))
    exact mayBeActive_serveError hbase (by rw [hpc]; exact id)
  | exchangeUnset hpc =>
    exact (hs a (before (by simp) hactive)).setBackend_moves (fun _ hfun _ => ⟨hfun, rfl⟩)
      (by rw [hpc]; exact id) rfl
  | clearOpened hpc =>
    exact (hs a (before (by simp) hactive)).closes (by rw [hpc]; rfl) (by rw [hpc]; exact id) (.inl rfl)
  | clearAsyncRead hpc =>
    exact (hs a (before (by simp) hactive)).closes (by rw [hpc]; rfl) (by rw [hpc]; exact id) (.inr rfl)
  | clearLastFailedAddress hpc =>
    exact (hs a (before (by simp) hactive)).setBackend_moves (fun _ hfun hflag => ⟨hfun, hflag⟩)
      (by rw [hpc]; exact id) rfl
  | setExceptionImpl hpc =>
    exact (hs a (before (by simp) hactive)).excepted id (by rw [hpc]; exact id) rfl
  | @pushExceptions t r b message hpc hfree =>
    have hbase := hs a (before (by simp) hactive)
    refine hbase.goto (fun h => ?_) (by simp [closing])
    rw [hpc] at h
    have hlisted : a ∈ s.listenersAt (L.path a) := hw.listed
    exact ⟨h, mem_paths_of_mem_listenersAt hlisted⟩
  | pushExceptionsDone hpc =>
    exact (hs a (before (by simp) hactive)).moves (by rw [hpc]; exact fun h => by cases h.2) rfl
  | @pushExceptionsAt t r b message p todo hpc =>
    have hbase := hs a (before (by simp) (active_of_each (by simp) hactive))
    refine hbase.goto (fun h => ?_) (by simp [closing])
    rw [hpc] at h
    have hlisted : a ∈ s.listenersAt (L.path a) := hw.listed
    exact ⟨h.1, (List.mem_cons.mp h.2).resolve_left (path_ne_of_pushed hlisted h.1 hactive)⟩
  | informRuntimeError hpc =>
    exact (hs a (before (by simp) hactive)).setBackend_moves
      (fun _ hfun hflag => by simp [hfun, hflag]) (by rw [hpc]; exact id) rfl
  | pushPolled hpc | clearIsActiveZMQ hpc | pushException hpc =>
    exact (hs a (before (by simp) (active_of_each (by simp) hactive))).moves (by rw [hpc]; exact id) rfl
  | read => exact hs a (before (by simp) (active_of_each (by simp) hactive))
  | @pushDone t r p reply ret hpc =>
    apply (hs a (before (by simp) hactive)).moves (by rw [hpc]; exact id)
    cases ret <;> rfl
  | unsubscribeLeaves hpc =>
    apply MayBeActive.moves (hs a (before (by simp) hactive)) (by rw [hpc]; exact id)
    split <;> rfl
  | activateIgnored | eraseMissing | informMissing | publish | unsubscribeIgnored =>
    exact hs a (before (by simp) hactive)
  | dangling => exact hs a ⟨hw.listed, hactive⟩
  | activateChecked hpc | deactivateInactive hpc | deactivateActive hpc | deactivateWaits hpc
  | awaitStarted hpc | detach hpc | eraseSubscription hpc | exchangeSet hpc
  | activateAllListeners hpc | activateDone hpc | activateSkips hpc | poll hpc
  | pushErrorIgnored hpc | pushErrorChecked hpc =>
    exact (hs a (before (by simp) hactive)).moves (by rw [hpc]; exact id) rfl

omit [DecidableEq α] [DecidableEq β] in
theorem worksOn_of_ahead {pc : Pc α β} (h : Ahead L a pc) : worksOn pc = some (L.backend a) := by
  cases pc with
  | setExceptionImpl b | pushExceptions b message => exact congrArg some (Eq.symm h)
  | pushExceptionsAt b message todo => exact congrArg some h.1.symm
  | _ => cases h

/-- If listeners are only activated in time, then an active listener has a working backend
whenever no thread is busy with that backend. -/
theorem active_backend_works {backend : β → Backend.BackendState} {es : List (Event τ α β)}
    (run : Runs.Run (step L) (ActivatesInTime L) (initial backend) es s) {p : Text}
    (hlisted : a ∈ s.listenersAt p) (hactive : (s.listener a).isActiveZMQ = true)
    (hquiet : ∀ t, worksOn (s.pc t) ≠ some (L.backend a)) :
    (s.backend (L.backend a)).opened = true ∧
      (s.backend (L.backend a)).hasActiveException = false ∧
      (s.backend (L.backend a)).asyncReadActivated = true := by
  obtain ⟨hplaced, hs⟩ := run.invariant
    (I := fun s => Placed L s ∧ ∀ a, Working L s a → MayBeActive L s a)
    (fun _ _ _ hs hok h =>
      have h := transition_of_step h
      ⟨placed_step hs.1 h, fun _ => mayBeActive_step hs.2 hok h⟩)
    ⟨placed_initial backend, fun _ h => nomatch h.active⟩
  have hpath := hplaced p a hlisted
  subst hpath
  obtain ⟨t, ht⟩ | ⟨hfun, hflag, -⟩ := hs a ⟨hlisted, hactive⟩
  · exact absurd (worksOn_of_ahead ht) (hquiet t)
  · rw [Backend.BackendState.isFunctional, Bool.and_eq_true, Bool.not_eq_true'] at hfun
    exact ⟨hfun.1, hfun.2, hflag⟩

/-- Between the check of the backend and the visit to its listener, another thread closes it. -/
def closedMeanwhile : List (Event Bool Unit Unit) :=
  [.call true (.subscribe () false), .call true (.activateAsyncRead ()), .next true none,
    .call false (.close ()), .next false none, .next false none, .next false none,
    .next true none, .next true none, .next true none]

/-- A listener which stays active on a closed backend. -/
theorem not_active_backend_works :
    ∃ s, Runs.exec (step oneListener) (initial fun _ => { opened := true }) closedMeanwhile = some s ∧
      (∀ t, s.pc t = .idle) ∧ () ∈ s.listenersAt "F/D/L/P".toList ∧
      (s.listener ()).isActiveZMQ = true ∧ (s.backend ()).opened = false := by
  refine ⟨_, rfl, fun t => ?_, by decide, by decide, by decide⟩
  cases t <;> rfl

/-- The backend is closed, opened and activated again. -/
def reopened : List (Event Bool Unit Unit) :=
  [.call true (.subscribe () false), .call true (.activateAsyncRead ()), .next true none,
    .next true none, .next true none, .next true none, .call false (.close ()),
    .next false none, .next false none, .next false none,
    .call false (.openBackend () .ok []), .call true (.activateAsyncRead ()),
    .next true none, .next true none, .next true none, .next true none]

theorem active_backend_works_reopened :
    ∃ s, Runs.exec (step oneListener) (initial fun _ => { opened := true }) reopened = some s ∧
      (s.backend ()).opened = true ∧ (s.backend ()).hasActiveException = false ∧
      (s.backend ()).asyncReadActivated = true := by
  have run : Runs.Run (step oneListener) (ActivatesInTime oneListener)
      (initial fun _ => { opened := true }) reopened _ := Runs.Along.run (by decide) rfl
  refine ⟨_, run.exec_eq, active_backend_works run (p := "F/D/L/P".toList) (a := ()) (by decide)
    (by decide) fun t => ?_⟩
  cases t <;> (intro h; cases h)

end DoocsBackend.Zmq.State
