import DoocsBackend.Zmq.Steps

/-! # A closed backend carries no failure

`lastFailedAddress` is to hold an address only while the backend is opened. Transfers fail only
while it is, but subscriptions outlive a `close`, and the callback reports an error for inactive
listeners as well.
-/
namespace DoocsBackend.Zmq

/-- A step of the manager and the backends, or a synchronous transfer which fails. -/
inductive Occurrence (τ α β : Type) where
  | event (e : Event τ α β)
  | transferFails (a : α)

namespace State
variable {τ α β : Type} [DecidableEq τ] [DecidableEq α] [DecidableEq β]
open Backend (BackendState)

/-- A transfer needs an open backend without an exception; if it fails, it reports its property. -/
def occur (L : Layout α β) (s : State τ α β) : Occurrence τ α β → Option (State τ α β)
  | .event e => s.step L e
  | .transferFails a =>
    if (s.backend (L.backend a)).isFunctional then
      some (s.setBackend (L.backend a) ((s.backend (L.backend a)).informRuntimeError (L.path a)))
    else none

/-- The backend a thread has closed without having cleared `lastFailedAddress` yet. -/
def clearing : Pc α β → Option β
  | .clearAsyncRead b | .clearLastFailedAddress b => some b
  | _ => none

/-- A call of `close` is under way, which is still going to clear `lastFailedAddress`. -/
def BeingClosed (s : State τ α β) (b : β) : Prop := ∃ t, clearing (s.pc t) = some b

/-- A backend which remembers a failure is opened, or `close` has not finished yet. -/
def CarriesNoFailure (s : State τ α β) : Prop :=
  ∀ b, (s.backend b).lastFailedAddress ≠ [] → (s.backend b).opened = true ∨ s.BeingClosed b

/-- The callback reports a failure to the backend of the listener it finds in the list only while that
is opened. -/
def InformsOpened (L : Layout α β) (s : State τ α β) : Occurrence τ α β → Prop
  | .event (.next t _) => ∀ p text a k n, s.pc t = .informRuntimeError p text k n →
      (s.listenersAt p)[k]? = some a → L.path a ≠ [] →
        (s.backend (L.backend a)).opened = true ∨ s.BeingClosed (L.backend a)
  | _ => True

variable {L : Layout α β} {s s' : State τ α β}

omit [DecidableEq α] [DecidableEq β] in
/-- A thread which is not clearing the backend leaves it to the others. -/
theorem BeingClosed.of_update {t : τ} {pc : Pc α β} {b : β} (h : s.BeingClosed b)
    (hpc : clearing (s.pc t) ≠ some b ∨ clearing pc = some b) (hs : s'.pc = Function.update s.pc t pc) :
    s'.BeingClosed b := by
  obtain ⟨t', ht'⟩ := h
  by_cases htt : t' = t
  · subst htt
    refine ⟨t', ?_⟩
    rw [hs, Function.update_self]
    exact hpc.resolve_left (not_not.mpr ht')
  · exact ⟨t', by rw [hs, Function.update_of_ne htt]; exact ht'⟩

/-- What a step does to a backend as far as failures are concerned. -/
inductive FailureChange (L : Layout α β) (s : State τ α β) (e : Event τ α β) (s' : State τ α β)
    (b : β) : Prop
  | unchanged (hfailed : (s'.backend b).lastFailedAddress = (s.backend b).lastFailedAddress)
      (hopened : (s'.backend b).opened = (s.backend b).opened)
      (hclosed : s.BeingClosed b → s'.BeingClosed b)
  | cleared (hfailed : (s'.backend b).lastFailedAddress = [])
  | closes (hclosed : s'.BeingClosed b)
  | informed {t : τ} {r : Option Text} {p text : Text} {a : α} {k n : ℕ} (he : e = .next t r)
      (hpc : s.pc t = .informRuntimeError p text k n) (hslot : (s.listenersAt p)[k]? = some a)
      (hb : b = L.backend a)
      (hs' : s' = (s.setBackend b ((s.backend b).informRuntimeError (L.path a))).goto t
        (.errorLoop p text (k + 1) n))

omit [DecidableEq τ] [DecidableEq α] [DecidableEq β] in
theorem clearing_of_eq {t : τ} {pc : Pc α β} (hpc : s.pc t = pc) (h : clearing pc = none) :
    clearing (s.pc t) = none := by rw [hpc, h]

theorem failureChange {e : Event τ α β} (h : Transition L s e s') (b : β) :
    FailureChange L s e s' b := by
  have still (hb : s'.backend = s.backend) (hs : s'.pc = s.pc) : FailureChange L s e s' b :=
    .unchanged (by rw [hb]) (by rw [hb]) fun hc => by rwa [BeingClosed, hs]
  have moves {t : τ} {pc : Pc α β} (hpc : clearing (s.pc t) = none) (hb : s'.backend = s.backend)
      (hs : s'.pc = Function.update s.pc t pc) : FailureChange L s e s' b :=
    .unchanged (by rw [hb]) (by rw [hb]) fun hc => hc.of_update (.inl (by simp [hpc])) hs
  have sets {t : τ} {pc : Pc α β} {b' : β} {x : BackendState}
      (hpc : clearing (s.pc t) = none ∨ clearing pc = clearing (s.pc t))
      (hb : s'.backend = Function.update s.backend b' x) (hs : s'.pc = Function.update s.pc t pc)
      (hx : x.lastFailedAddress = (s.backend b').lastFailedAddress)
      (hopened : x.opened = (s.backend b').opened) :
      FailureChange L s e s' b := by
    have hclosed (hc : s.BeingClosed b) : s'.BeingClosed b := by
      refine hc.of_update ?_ hs
      rcases hpc with hpc | hpc
      · exact .inl (by simp [hpc])
      · rw [hpc]
        exact (em _).symm
    by_cases hbb : b = b'
    · subst hbb
      exact .unchanged (by rw [hb, Function.update_self, hx]) (by rw [hb, Function.update_self, hopened])
        hclosed
    · exact .unchanged (by rw [hb, Function.update_of_ne hbb]) (by rw [hb, Function.update_of_ne hbb])
        hclosed
  cases h with
  | subscribeFails | unsubscribeIgnored | activateIgnored | data | dangling | eraseMissing
    | informMissing | publish | read => exact still rfl rfl
  | subscribeNew hpc | subscribeJoins hpc | unsubscribeLeaves hpc | activateChecked hpc
    | close hpc | deactivateInactive hpc | deactivateActive hpc | deactivateWaits hpc
    | awaitStarted hpc | detach hpc | eraseSubscription hpc | exchangeSet hpc
    | activateAllListeners hpc | activateDone hpc | activateSkips hpc | activateListeners hpc
    | poll hpc | pushDone hpc | pushPolled hpc | pushErrorIgnored hpc | pushErrorChecked hpc
    | clearIsActiveZMQ hpc | pushException hpc | pushExceptions hpc | pushExceptionsDone hpc
    | pushExceptionsAt hpc =>
    exact moves (clearing_of_eq hpc rfl) rfl rfl
  | openFails hpc =>
    exact sets (.inl (clearing_of_eq hpc rfl)) rfl rfl (BackendState.setException_lastFailedAddress _ _)
      (BackendState.setException_opened _ _)
  | setException hpc =>
    exact sets (.inl (clearing_of_eq hpc rfl)) rfl rfl (BackendState.setException_lastFailedAddress _ _)
      (BackendState.setException_opened _ _)
  | exchangeUnset hpc | setExceptionImpl hpc => exact sets (.inl (clearing_of_eq hpc rfl)) rfl rfl rfl rfl
  | clearAsyncRead hpc => exact sets (.inr (by rw [hpc]; rfl)) rfl rfl rfl rfl
  | @openSucceeds t b' rc text hpc =>
    by_cases hbb : b = b'
    · subst hbb
      exact .cleared (by simp [BackendState.setOpenedAndClearException])
    · exact .unchanged (by simp [hbb]) (by simp [hbb]) fun hc => hc
  | @clearOpened t r b' hpc =>
    by_cases hbb : b = b'
    · subst hbb
      exact .closes ⟨t, by simp [clearing]⟩
    · exact .unchanged (by simp [hbb]) (by simp [hbb]) fun hc =>
        hc.of_update (.inl (by simp [hpc, clearing])) rfl
  | @clearLastFailedAddress t r b' hpc =>
    by_cases hbb : b = b'
    · subst hbb
      exact .cleared (by simp)
    · exact .unchanged (by simp [hbb]) (by simp [hbb]) fun hc =>
        hc.of_update (.inl (by simp [hpc, clearing, Ne.symm hbb])) rfl
  | @informRuntimeError t r p text a k n hpc hslot =>
    by_cases hba : b = L.backend a
    · exact .informed rfl hpc hslot hba (by rw [hba])
    · exact .unchanged (by simp [hba]) (by simp [hba]) fun hc =>
        hc.of_update (.inl (by simp [hpc, clearing])) rfl
  | @error t p text e hpc =>
    rcases serveError_cases L (s.setSubscription p { e with started := true, gotInitialValue := false }) t
      p text 0 e.listeners.length with ⟨a, -, heq⟩ | heq | heq
    · exact moves (clearing_of_eq hpc rfl) (by rw [heq]; rfl) (by rw [heq]; rfl)
    · exact moves (clearing_of_eq hpc rfl) (by rw [heq]; rfl) (by rw [heq]; rfl)
    · exact still (by rw [heq]; rfl) (by rw [heq]; rfl)
  | @errorLoop t r p text k n hpc =>
    rcases serveError_cases L s t p text k n with ⟨a, -, heq⟩ | heq | heq
    · exact moves (clearing_of_eq hpc rfl) (by rw [heq]; rfl) (by rw [heq]; rfl)
    · exact moves (clearing_of_eq hpc rfl) (by rw [heq]; rfl) (by rw [heq]; rfl)
    · exact still (by rw [heq]) (by rw [heq])

omit [DecidableEq α] [DecidableEq β] in
theorem beingClosed_iff {t : τ} {pc : Pc α β} {b : β} (hpc : clearing (s.pc t) = none)
    (hnew : clearing pc = none) (hs : s'.pc = Function.update s.pc t pc) :
    s'.BeingClosed b ↔ s.BeingClosed b := by
  have hback : s.pc = Function.update s'.pc t (s.pc t) := by
    rw [hs, Function.update_idem, Function.update_eq_self]
  refine ⟨fun h => h.of_update (.inl ?_) hback, fun h => h.of_update (.inl ?_) hs⟩
  · rw [hs, Function.update_self, hnew]
    simp
  · rw [hpc]
    simp

omit [DecidableEq α] in
/-- The report of the callback leaves a failure behind, unless there is one already. -/
theorem carries_inform_iff {t : τ} {r : Option Text} {p text : Text} {a : α} {k n : ℕ}
    (hs : s.CarriesNoFailure) (hpc : s.pc t = .informRuntimeError p text k n)
    (hslot : (s.listenersAt p)[k]? = some a) (h : s' = (s.setBackend (L.backend a)
      ((s.backend (L.backend a)).informRuntimeError (L.path a))).goto t (.errorLoop p text (k + 1) n)) :
    s'.CarriesNoFailure ↔ s.InformsOpened L (.event (.next t r)) := by
  have hgoto : s'.pc = Function.update s.pc t (.errorLoop p text (k + 1) n) := by
    rw [h]
    rfl
  have hclosed (b : β) : s'.BeingClosed b ↔ s.BeingClosed b :=
    beingClosed_iff (clearing_of_eq hpc rfl) rfl hgoto
  have hinforms : s.InformsOpened L (.event (.next t r)) ↔
      (L.path a ≠ [] → (s.backend (L.backend a)).opened = true ∨ s.BeingClosed (L.backend a)) := by
    refine ⟨fun h => h p text a k n hpc hslot, fun h p' text' a' k' n' hpc' hslot' => ?_⟩
    cases hpc.symm.trans hpc'
    cases hslot.symm.trans hslot'
    exact h
  have hbackend (b : β) : s'.backend b = if b = L.backend a then
      (s.backend b).informRuntimeError (L.path a) else s.backend b := by
    rw [h]
    by_cases hb : b = L.backend a
    · subst hb
      simp
    · simp [hb]
  rw [hinforms]
  constructor
  · intro hs' hpath
    have hfailed := hs' (L.backend a)
    rw [hclosed, hbackend, if_pos rfl, BackendState.informRuntimeError_opened] at hfailed
    exact hfailed (BackendState.informRuntimeError_ne_nil hpath)
  · intro hopened b
    rw [hclosed, hbackend]
    split
    · rename_i hb
      subst hb
      rw [BackendState.informRuntimeError_opened]
      by_cases hpath : L.path a = []
      · rw [hpath, BackendState.informRuntimeError_nil]
        exact hs _
      · exact fun _ => hopened hpath
    · exact hs b

/-- A report of the callback is the only step which can do harm, and does if the backend is
closed. -/
theorem carriesNoFailure_step {o : Occurrence τ α β} (hs : s.CarriesNoFailure)
    (h : s.occur L o = some s') : s'.CarriesNoFailure ↔ s.InformsOpened L o := by
  cases o with
  | transferFails a =>
    refine iff_of_true ?_ trivial
    simp only [occur] at h
    split at h
    · rename_i hfun
      cases h
      intro b hfailed
      by_cases hb : b = L.backend a
      · subst hb
        refine .inl ?_
        rw [setBackend_backend, Function.update_self, BackendState.informRuntimeError_opened]
        exact (Bool.and_eq_true_iff.mp hfun).1
      · rw [setBackend_backend, Function.update_of_ne hb] at hfailed ⊢
        exact hs b hfailed
    · cases h
  | event e =>
    have htransition : Transition L s e s' := transition_of_step h
    by_cases hinform : ∃ t r p text a k n, e = .next t r ∧
        s.pc t = .informRuntimeError p text k n ∧ (s.listenersAt p)[k]? = some a
    · obtain ⟨t, r, p, text, a, k, n, rfl, hpc, hslot⟩ := hinform
      apply carries_inform_iff hs hpc hslot
      simp only [occur, step] at h
      split at h
      · cases h
      · rw [hpc] at h
        simp only [advance, hslot] at h
        cases h
        rfl
    · refine iff_of_true (fun b hfailed => ?_) ?_
      · cases failureChange htransition b with
        | unchanged hsame hopened hclosed =>
          rw [hopened]
          exact (hs b (hsame ▸ hfailed)).imp id hclosed
        | cleared hcleared => exact absurd hcleared hfailed
        | closes hclosed => exact .inr hclosed
        | informed he hpc hslot => exact absurd ⟨_, _, _, _, _, _, _, he, hpc, hslot⟩ hinform
      · cases e with
        | next t r =>
          exact fun p text a k n hpc hslot =>
            absurd ⟨t, r, p, text, a, k, n, rfl, hpc, hslot⟩ hinform
        | _ => trivial

omit [DecidableEq τ] [DecidableEq α] [DecidableEq β] in
/-- Without a failure, a closed backend opens whatever the server answers. -/
theorem openBackend_succeeds {b : β} (hs : s.CarriesNoFailure) (hopened : (s.backend b).opened = false)
    (hclosed : ¬ s.BeingClosed b) (rc : ReturnCode) (text : Text) (fresh : ℕ) :
    ((s.backend b).openBackend rc text fresh).2 = none := by
  have hfailed : (s.backend b).lastFailedAddress = [] := by
    by_contra hne
    rcases hs b hne with h | h
    · rw [hopened] at h
      cases h
    · exact hclosed h
  simp [BackendState.openBackend, hfailed]

/-- One accessor of one backend. -/
def oneAccessor : Layout Unit Unit where
  path _ := "F/D/L/P".toList
  backend _ := ()
  queue := plainQueue

/-- An error arrives for an accessor of a backend which has never been opened. -/
def errorWhileClosed : List (Occurrence Unit Unit Unit) :=
  [.event (.call () (.subscribe () false)), .event (.call () (.error "F/D/L/P".toList [])),
    .event (.next () none)]

end State

end DoocsBackend.Zmq
