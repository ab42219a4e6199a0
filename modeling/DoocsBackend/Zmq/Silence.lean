import DoocsBackend.Zmq.Activity

/-! # No listener is silenced

A listener which is not active gets no data. While asynchronous reads are activated, that
only happens to a listener which has been told an exception: an activation still under way
will come to the listener, a `close` which has deactivated it will take back the
activation, and a poll which has deactivated it will push the exception.
-/
namespace DoocsBackend.Zmq

/-- An exception has been pushed since the last activation. -/
def ToldSince (history : List Happening) : Prop :=
  ∃ before message after, history = before ++ .exception message :: after ∧
    ∀ x ∈ after, x.isActivation = false

theorem ToldSince.concat {history : List Happening} (h : ToldSince history) {x : Happening}
    (hx : x.isActivation = false) : ToldSince (history ++ [x]) := by
  obtain ⟨before, message, after, rfl, hafter⟩ := h
  refine ⟨before, message, after ++ [x], by simp, fun y hy => ?_⟩
  obtain hy | hy := List.mem_append.mp hy
  · exact hafter y hy
  · rw [List.mem_singleton.mp hy]
    exact hx

theorem toldSince_exception (history : List Happening) (message : Text) :
    ToldSince (history ++ [.exception message]) := by
  refine ⟨history, message, [], rfl, ?_⟩
  simp

namespace Listener

/-- The listener gets data, or it has been told why not. -/
def Served (l : Listener) : Prop := l.isActiveZMQ = true ∨ ToldSince l.history

variable {Q : FutureQueue} {l : Listener}

theorem Served.activate (got : Bool) : (l.activate got).Served := .inl (activate_isActiveZMQ l got)

theorem Served.pushPolled (h : l.Served) (value : ℕ) : (l.pushPolled Q value).Served := by
  obtain h | h := h
  · exact .inl h
  · exact .inr (h.concat rfl)

theorem Served.deliver (h : l.Served) (value : ℕ) : (l.deliver Q value).Served := by
  obtain h | h := h
  · exact .inl ((deliver_isActiveZMQ Q l value).trans h)
  · unfold Listener.deliver
    split
    · exact .inr (h.concat rfl)
    · exact .inr h

theorem Served.pushException (message : Text) : (l.pushException Q message).Served :=
  .inr (toldSince_exception l.history message)

theorem Served.pushError (h : l.Served) (message : Text) : (l.pushError Q message).Served := by
  unfold Listener.pushError
  split
  · exact .pushException message
  · exact h

theorem Served.read (h : l.Served) : (l.read Q).Served := by
  unfold Listener.read
  split <;> exact h

end Listener

namespace State
variable {τ α β : Type} [DecidableEq τ] [DecidableEq α] [DecidableEq β]

/-- A thread at this place will activate the listener, will take back the activation of its
backend, or will push an exception. -/
def Attends (L : Layout α β) (a : α) : Pc α β → Prop
  | .activateAllListeners b | .clearOpened b | .clearAsyncRead b => L.backend a = b
  | .activateListeners b todo | .pollInitialValue _ _ (some (b, todo))
  | .pushInitialValue _ _ _ (some (b, todo)) | .clearIsActiveZMQ _ _ _ _ (some (b, todo)) =>
    L.backend a = b ∧ L.path a ∈ todo
  | .pushException _ _ c _ (some (b, todo)) => a = c ∨ L.backend a = b ∧ L.path a ∈ todo
  | .pushException _ _ c _ none => a = c
  | _ => False

/-- The listener need not be served, or somebody attends to it. -/
def Attended (L : Layout α β) (s : State τ α β) (a : α) : Prop :=
  (s.listener a).Served ∨ (s.backend (L.backend a)).asyncReadActivated = false ∨
    ∃ t, Attends L a (s.pc t)

variable {L : Layout α β} {s s' : State τ α β} {a : α}

omit [DecidableEq τ] [DecidableEq α] [DecidableEq β] in
theorem Attended.of_change (h : Attended L s a)
    (hlistener : (s.listener a).Served → (s'.listener a).Served)
    (hflag : (s.backend (L.backend a)).asyncReadActivated = false →
      (s'.backend (L.backend a)).asyncReadActivated = false)
    (hpc : ∀ t, Attends L a (s.pc t) → Attended L s' a) : Attended L s' a := by
  obtain h | h | ⟨t, ht⟩ := h
  · exact .inl (hlistener h)
  · exact .inr (.inl (hflag h))
  · exact hpc t ht

section
omit [DecidableEq α] [DecidableEq β]

/-- A thread goes on and whoever attends to the listener still does. -/
theorem Attended.goto (h : Attended L s a) {s₁ : State τ α β} {t : τ} {pc : Pc α β}
    (hpc : s₁.pc = s.pc) (hlistener : (s.listener a).Served → (s₁.listener a).Served)
    (hflag : (s.backend (L.backend a)).asyncReadActivated = false →
      (s₁.backend (L.backend a)).asyncReadActivated = false)
    (hself : Attends L a (s.pc t) → Attended L (s₁.goto t pc) a) : Attended L (s₁.goto t pc) a := by
  refine h.of_change hlistener hflag fun u hu => ?_
  by_cases hut : u = t
  · subst hut
    exact hself hu
  · refine .inr (.inr ⟨u, ?_⟩)
    rwa [goto_pc, Function.update_of_ne hut, hpc]

/-- A thread which does not attend to the listener. -/
theorem Attended.moves (h : Attended L s a) {r : State τ α β} {t : τ} {pc : Pc α β}
    (hpc : r.pc = s.pc) (hlistener : (s.listener a).Served → (r.listener a).Served)
    (hflag : (s.backend (L.backend a)).asyncReadActivated = false →
      (r.backend (L.backend a)).asyncReadActivated = false)
    (hself : ¬ Attends L a (s.pc t)) : Attended L (r.goto t pc) a :=
  h.goto hpc hlistener hflag fun ht => absurd ht hself

/-- A thread which attends to the listener at its next place. -/
theorem attended_goto {s₁ : State τ α β} {t : τ} {pc : Pc α β} (h : Attends L a pc) :
    Attended L (s₁.goto t pc) a := by
  refine .inr (.inr ⟨t, ?_⟩)
  rwa [goto_pc, Function.update_self]

/-- A thread which still attends to the listener if it has done so before. -/
theorem Attended.goes (h : Attended L s a) {r : State τ α β} {t : τ} {pc : Pc α β}
    (hpc : r.pc = s.pc) (hlistener : (s.listener a).Served → (r.listener a).Served)
    (hflag : (s.backend (L.backend a)).asyncReadActivated = false →
      (r.backend (L.backend a)).asyncReadActivated = false)
    (hself : Attends L a (s.pc t) → Attends L a pc) : Attended L (r.goto t pc) a :=
  h.goto hpc hlistener hflag fun ht => attended_goto (hself ht)

end

omit [DecidableEq τ] [DecidableEq β] in
theorem served_each {as : List α} {f : Listener → Listener} (hf : ∀ l, l.Served → (f l).Served)
    (h : (s.listener a).Served) : ((s.eachListener as f).listener a).Served :=
  Each.each_preserves (P := Listener.Served) hf h

omit [DecidableEq τ] [DecidableEq α] in
theorem flag_setBackend {b : β} {x : Backend.BackendState}
    (hx : (s.backend b).asyncReadActivated = false → x.asyncReadActivated = false)
    (h : (s.backend (L.backend a)).asyncReadActivated = false) :
    ((s.setBackend b x).backend (L.backend a)).asyncReadActivated = false := by
  rw [setBackend_backend]
  by_cases hb : L.backend a = b
  · subst hb
    rw [Function.update_self]
    exact hx h
  · rwa [Function.update_of_ne hb]

omit [DecidableEq β] in
theorem attended_serveError (h : Attended L s a) {s₁ : State τ α β} {t : τ} {p text : Text} {k n : ℕ}
    (hpc : s₁.pc = s.pc) (hlistener : s₁.listener = s.listener) (hbackend : s₁.backend = s.backend)
    (hself : ¬ Attends L a (s.pc t)) : Attended L (s₁.serveError L t p text k n) a := by
  have hflag (hoff : (s.backend (L.backend a)).asyncReadActivated = false) :
      (s₁.backend (L.backend a)).asyncReadActivated = false := by rwa [hbackend]
  obtain ⟨b, -, heq⟩ | heq | heq := serveError_cases L s₁ t p text k n
  all_goals rw [heq]
  · refine h.moves (r := s₁.eachListener _ _) hpc (fun hserved => ?_) hflag hself
    exact served_each (fun l hl => hl.pushError _) (by rwa [hlistener])
  · exact h.moves hpc (by rw [hlistener]; exact id) hflag hself
  · refine h.of_change (by rw [hlistener]; exact id) hflag fun u hu => .inr (.inr ⟨u, ?_⟩)
    rwa [← hpc] at hu

omit [DecidableEq τ] [DecidableEq β] in
/-- After a `subscribe`, as far as the listeners and the backends are concerned. -/
theorem attended_entered {b : α} {t : τ} {attachFails : Bool} (active : Bool)
    (before : (∀ t' attachFails', (.call t (.subscribe b attachFails) : Event τ α β) ≠
      .call t' (.subscribe a attachFails')) → Attended L s a) :
    Attended L (s.entered L b active) a := by
  by_cases hab : a = b
  · subst hab
    cases hflag : (s.backend (L.backend a)).asyncReadActivated with
    | false => exact .inr (.inl hflag)
    | true =>
      left
      left
      simpa [entered] using hflag
  · have hbase : Attended L s a := by
      refine before fun t' attachFails' h => ?_
      simp only [Event.call.injEq, Call.subscribe.injEq] at h
      exact hab h.2.1.symm
    refine hbase.of_change (fun h => ?_) id fun u hu => .inr (.inr ⟨u, hu⟩)
    simpa [entered, hab] using h

theorem attended_step {e : Event τ α β}
    (hs : ∀ a, a ∈ s.listenersAt (L.path a) → Attended L s a) (h : Transition L s e s')
    (hlisted : a ∈ s'.listenersAt (L.path a)) : Attended L s' a := by
  have before (he : ∀ t attachFails, e ≠ .call t (.subscribe a attachFails)) : Attended L s a := by
    obtain hl | ⟨-, t, attachFails, heq⟩ := mem_listenersAt_step h hlisted
    · exact hs a hl
    · exact absurd heq (he t attachFails)
  cases h with
  | @subscribeFails t b hpc =>
    have hbase := attended_entered false before
    exact hbase
  | @subscribeNew t b hpc =>
    have hbase := attended_entered true before
    have hidle : (s.entered L b true).pc t = .idle := hpc
    exact hbase.moves rfl id id (by rw [hidle]; exact id)
  | @subscribeJoins t b attachFails e hpc =>
    have hbase := attended_entered e.active before
    have hidle : (s.entered L b e.active).pc t = .idle := hpc
    exact hbase.moves rfl id id (by rw [hidle]; exact id)
  | @exchangeUnset t r b hpc hunset =>
    have hbase := before (by simp)
    by_cases hb : L.backend a = b
    · exact attended_goto hb
    · refine hbase.moves rfl id (fun h => ?_) (by rw [hpc]; exact id)
      rwa [setBackend_backend, Function.update_of_ne hb]
  | @activateAllListeners t r b hpc hfree =>
    refine (before (by simp)).goes rfl id id fun hattends => ?_
    rw [hpc] at hattends
    exact ⟨hattends, mem_paths_of_mem_listenersAt (p := L.path a) (s := s) hlisted⟩
  | @activateDone t r b hpc =>
    refine (before (by simp)).moves rfl id id ?_
    rw [hpc]
    exact fun h => List.not_mem_nil h.2
  | @activateSkips t r b p todo hpc hold =>
    refine (before (by simp)).goes rfl id id fun hattends => ?_
    rw [hpc] at hattends
    refine ⟨hattends.1, (List.mem_cons.mp hattends.2).resolve_left ?_⟩
    rintro rfl
    have hlisted : a ∈ s.listenersAt (L.path a) := hlisted
    rw [listenersAt_of_lookup_none hold] at hlisted
    exact List.not_mem_nil hlisted
  | @activateListeners t r b p todo e hpc hold =>
    refine (before (by simp)).goto rfl
      (served_each fun l _ => Listener.Served.activate e.gotInitialValue) id fun hattends => ?_
    rw [hpc] at hattends
    obtain ⟨hb, hp⟩ := hattends
    obtain rfl | hp := List.mem_cons.mp hp
    · left
      have hlisted : a ∈ s.listenersAt (L.path a) := hlisted
      rw [listenersAt_of_lookup hold] at hlisted
      exact Each.each_establishes (P := Listener.Served) (fun l => .activate e.gotInitialValue)
        (mem_ownedBy.mpr ⟨hlisted, hb⟩)
    · apply attended_goto
      split
      · exact ⟨hb, hp⟩
      · exact ⟨hb, hp⟩
  | @pushPolled t r p value b as ret hpc =>
    refine (before (by simp)).goes rfl (served_each fun l h => h.pushPolled value) id
      fun hattends => ?_
    rw [hpc] at hattends
    cases ret <;> exact hattends
  | @poll t r p accessors ret hpc | @pushDone t r p reply ret hpc
  | @pushErrorIgnored t r p text b as ret hpc | @pushErrorChecked t r p text b as ret hpc =>
    refine (before (by simp)).goes rfl id id fun hattends => ?_
    rw [hpc] at hattends
    cases ret <;> exact hattends
  | @clearIsActiveZMQ t r p text b as ret hpc =>
    by_cases hab : a = b
    · refine attended_goto ?_
      cases ret with
      | none => exact hab
      | some ret => exact .inl hab
    · refine (before (by simp)).goes rfl (fun h => ?_) id fun hattends => ?_
      · rwa [eachListener_listener, Each.each_of_notMem (by simpa using hab)]
      · rw [hpc] at hattends
        cases ret with
        | none => cases hattends
        | some ret => exact .inr hattends
  | @pushException t r p text b as ret hpc =>
    refine (before (by simp)).goto rfl (served_each fun l _ => .pushException _) id fun hattends => ?_
    by_cases hab : a = b
    · left
      exact Each.each_establishes (P := Listener.Served) (fun l => .pushException _)
        (List.mem_singleton.mpr hab)
    · rw [hpc] at hattends
      refine attended_goto ?_
      cases ret with
      | none => exact hab hattends
      | some ret => exact hattends.resolve_left hab
  | @close t b hpc hfree =>
    have hbase := before (by simp)
    by_cases hb : L.backend a = b
    · exact attended_goto hb
    · refine hbase.moves rfl (fun h => ?_) id (by rw [hpc]; exact id)
      have hnot : a ∉ s.allListeners L b := fun hmem => hb (mem_ownedBy.mp hmem).2
      rwa [eachListener_listener, Each.each_of_notMem hnot]
  | @clearOpened t r b hpc =>
    refine (before (by simp)).goes rfl id (flag_setBackend id) fun hattends => ?_
    rw [hpc] at hattends
    exact hattends
  | @clearAsyncRead t r b hpc =>
    refine (before (by simp)).goto rfl id (flag_setBackend fun _ => rfl) fun hattends => ?_
    rw [hpc] at hattends
    subst hattends
    exact .inr (.inl (by simp))
  | setExceptionImpl hpc =>
    exact (before (by simp)).moves rfl id (flag_setBackend fun _ => rfl) (by rw [hpc]; exact id)
  | openFails hpc | setException hpc | informRuntimeError hpc | clearLastFailedAddress hpc =>
    exact (before (by simp)).moves rfl id (flag_setBackend (by simp)) (by rw [hpc]; exact id)
  | openSucceeds =>
    exact (before (by simp)).of_change id (flag_setBackend id) fun u hu => .inr (.inr ⟨u, hu⟩)
  | data =>
    exact (before (by simp)).of_change (served_each fun l h => h.deliver _) id
      fun u hu => .inr (.inr ⟨u, hu⟩)
  | read =>
    exact (before (by simp)).of_change (served_each fun l h => h.read) id
      fun u hu => .inr (.inr ⟨u, hu⟩)
  | error hpc | errorLoop hpc =>
    exact attended_serveError (before (by simp)) rfl rfl rfl (by rw [hpc]; exact id)
  | pushExceptionsAt hpc =>
    exact (before (by simp)).moves rfl (served_each fun l h => h.pushError _) id (by rw [hpc]; exact id)
  | unsubscribeIgnored | activateIgnored | eraseMissing | informMissing | publish =>
    exact before (by simp)
  | dangling =>
    obtain h | h | h := hs a hlisted
    · exact .inl h
    · exact .inr (.inl h)
    · exact .inr (.inr h)
  | unsubscribeLeaves hpc | activateChecked hpc | deactivateInactive hpc | deactivateActive hpc
  | deactivateWaits hpc | awaitStarted hpc | detach hpc | eraseSubscription hpc | exchangeSet hpc
  | pushExceptions hpc | pushExceptionsDone hpc =>
    exact (before (by simp)).moves rfl id id (by rw [hpc]; exact id)

omit [DecidableEq α] [DecidableEq β] in
theorem worksOn_of_attends {pc : Pc α β} (h : Attends L a pc) :
    worksOn pc = some (L.backend a) ∨ excepted pc = some a := by
  cases pc with
  | activateAllListeners b | clearOpened b | clearAsyncRead b => exact .inl (congrArg some (Eq.symm h))
  | activateListeners b todo => exact .inl (congrArg some h.1.symm)
  | pollInitialValue p accessors ret | pushInitialValue p reply accessors ret
  | clearIsActiveZMQ p text c accessors ret =>
    cases ret with
    | none => cases h
    | some ret => exact .inl (congrArg some h.1.symm)
  | pushException p text c accessors ret =>
    cases ret with
    | none => exact .inr (congrArg some (Eq.symm h))
    | some ret =>
      obtain h | h := h
      · exact .inr (congrArg some h.symm)
      · exact .inl (congrArg some h.1.symm)
  | _ => cases h

/-- While asynchronous reads are activated, no thread is busy with the backend and no poll has an
exception left for the listener, each of its listeners gets the data, or has been told an exception since
it was last activated. -/
theorem never_silent {backend : β → Backend.BackendState} {es : List (Event τ α β)}
    (run : Runs.exec (step L) (initial backend) es = some s) {p : Text}
    (hlisted : a ∈ s.listenersAt p)
    (hflag : (s.backend (L.backend a)).asyncReadActivated = true)
    (hquiet : ∀ t, worksOn (s.pc t) ≠ some (L.backend a)) (htold : ∀ t, excepted (s.pc t) ≠ some a) :
    (s.listener a).isActiveZMQ = true ∨ ToldSince (s.listener a).history := by
  obtain ⟨hplaced, hs⟩ : Placed L s ∧ ∀ a, a ∈ s.listenersAt (L.path a) → Attended L s a := by
    apply Runs.exec_invariant
      (I := fun s => Placed L s ∧ ∀ a, a ∈ s.listenersAt (L.path a) → Attended L s a) run
    · rintro s e s' ⟨hplaced, hs⟩ h
      have h := transition_of_step h
      exact ⟨placed_step hplaced h, fun a ha => attended_step hs h ha⟩
    · refine ⟨placed_initial backend, fun a ha => ?_⟩
      cases ha
  have hp := hplaced p a hlisted
  subst hp
  obtain hserved | hoff | ⟨t, ht⟩ := hs a hlisted
  · exact hserved
  · rw [hflag] at hoff
    cases hoff
  · obtain hworks | hexcepted := worksOn_of_attends ht
    · exact absurd hworks (hquiet t)
    · exact absurd hexcepted (htold t)

theorem reopened_not_silent :
    ∃ s, Runs.exec (step oneListener) (initial fun _ => { opened := true }) reopened = some s ∧
      ((s.listener ()).isActiveZMQ = true ∨ ToldSince (s.listener ()).history) := by
  obtain ⟨s, hs⟩ : ∃ s,
      Runs.exec (step oneListener) (initial fun _ => { opened := true }) reopened = some s :=
    Option.isSome_iff_exists.mp rfl
  have hlisted : () ∈ s.listenersAt "F/D/L/P".toList := by
    have h := congrArg (Option.map fun s => decide (() ∈ s.listenersAt "F/D/L/P".toList)) hs
    exact of_decide_eq_true (Option.some.inj h).symm
  have hflag : (s.backend ()).asyncReadActivated = true := by
    have h := congrArg (Option.map fun s => (s.backend ()).asyncReadActivated) hs
    exact (Option.some.inj h).symm
  have hquiet (t : Bool) : worksOn (s.pc t) = none := by
    have h := congrArg (Option.map fun s => worksOn (s.pc t)) hs
    cases t <;> exact (Option.some.inj h).symm
  have htold (t : Bool) : excepted (s.pc t) = none := by
    have h := congrArg (Option.map fun s => excepted (s.pc t)) hs
    cases t <;> exact (Option.some.inj h).symm
  refine ⟨s, hs, never_silent hs hlisted hflag (fun t => ?_) fun t => ?_⟩
  · simp [hquiet t]
  · simp [htold t]

end State

end DoocsBackend.Zmq
