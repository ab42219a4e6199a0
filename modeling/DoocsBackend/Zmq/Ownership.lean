import DoocsBackend.Zmq.Lists

/-! # The thread which keeps the map

`activateAllListeners` and `deactivateAllListenersAndPushException` keep `subscriptionMap_mutex`
over their whole loop, the first one also while it polls, and `deactivateSubscription` keeps it
while it waits for the callback. At every other place a thread has left its lock regions
behind, so that the owner of the mutex can be read off the places.
-/
namespace DoocsBackend.Zmq
variable {τ α β : Type} [DecidableEq τ] [DecidableEq α] [DecidableEq β]

/-- Whether the thread is in one of the loops over the map or waits for the callback. -/
def Pc.keepsMap : Pc α β → Bool
  | .activateListeners _ _ | .pollInitialValue _ _ (some _) | .pushInitialValue _ _ _ (some _)
  | .clearIsActiveZMQ _ _ _ _ (some _) | .pushException _ _ _ _ (some _) | .pushExceptionsAt _ _ _
  | .awaitStarted _ => true
  | _ => false

namespace State

/-- The owner of `subscriptionMap_mutex` is the thread which is in a loop over the map or waits. -/
def MapOwned (s : State τ α β) : Prop := ∀ t, (s.pc t).keepsMap = true ↔ s.mapOwner = some t

variable {L : Layout α β} {s s' : State τ α β}

omit [DecidableEq τ] [DecidableEq α] [DecidableEq β] in
theorem mapOwned_initial (backend : β → Backend.BackendState) :
    MapOwned (initial backend : State τ α β) := by
  intro t
  simp [initial, Pc.keepsMap]

section
omit [DecidableEq α] [DecidableEq β]

/-- A thread goes on with the map or without it. -/
theorem MapOwned.goto (hs : MapOwned s) {s₁ : State τ α β} {t : τ} {pc : Pc α β}
    (hpc : s₁.pc = s.pc) (howner : s₁.mapOwner = s.mapOwner)
    (hself : pc.keepsMap = (s.pc t).keepsMap) : MapOwned (s₁.goto t pc) := by
  intro u
  rw [goto_pc, goto_mapOwner, hpc, howner, ← hs u]
  by_cases hu : u = t
  · subst hu
    rw [Function.update_self, hself]
  · rw [Function.update_of_ne hu]

/-- A thread takes the map. -/
theorem MapOwned.lock (hs : MapOwned s) {s₁ : State τ α β} {t : τ} {pc : Pc α β}
    (hpc : s₁.pc = s.pc) (hfree : s.mapOwner = none) (hself : pc.keepsMap = true) :
    MapOwned ({ s₁ with mapOwner := some t }.goto t pc) := by
  intro u
  rw [goto_pc, goto_mapOwner, hpc]
  by_cases hu : u = t
  · subst hu
    rw [Function.update_self]
    exact iff_of_true hself rfl
  · rw [Function.update_of_ne hu, hs u, hfree]
    exact iff_of_false (by simp) fun h => hu (Option.some.inj h).symm

/-- A thread gives up the map. -/
theorem MapOwned.unlock (hs : MapOwned s) {s₁ : State τ α β} {t : τ} {pc : Pc α β}
    (hpc : s₁.pc = s.pc) (hbefore : (s.pc t).keepsMap = true) (hself : pc.keepsMap = false) :
    MapOwned ({ s₁ with mapOwner := none }.goto t pc) := by
  intro u
  rw [goto_pc, goto_mapOwner, hpc]
  refine iff_of_false ?_ (by simp)
  by_cases hu : u = t
  · subst hu
    simp [hself]
  · rw [Function.update_of_ne hu, hs u, (hs t).mp hbefore]
    exact fun h => hu (Option.some.inj h).symm

end

omit [DecidableEq β] in
theorem mapOwned_serveError (hs : MapOwned s) {s₁ : State τ α β} {t : τ} {p text : Text} {k n : ℕ}
    (hpc : s₁.pc = s.pc) (howner : s₁.mapOwner = s.mapOwner)
    (hself : (s.pc t).keepsMap = false) : MapOwned (s₁.serveError L t p text k n) := by
  obtain ⟨a, -, heq⟩ | heq | heq := serveError_cases L s₁ t p text k n
  · rw [heq]
    exact hs.goto hpc howner hself.symm
  · rw [heq]
    exact hs.goto hpc howner hself.symm
  · rw [heq]
    intro u
    simpa only [hpc, howner] using hs u

theorem mapOwned_step {e : Event τ α β} (hs : MapOwned s) (h : Transition L s e s') :
    MapOwned s' := by
  cases h with
  | activateAllListeners hpc hfree | pushExceptions hpc hfree | deactivateWaits hpc hfree =>
    exact hs.lock rfl hfree rfl
  | activateDone hpc | pushExceptionsDone hpc | awaitStarted hpc =>
    exact hs.unlock rfl (by rw [hpc]; rfl) rfl
  | error hpc => exact mapOwned_serveError hs rfl rfl (by rw [hpc]; rfl)
  | errorLoop hpc => exact mapOwned_serveError hs rfl rfl (by rw [hpc]; rfl)
  | @pushDone t r p reply ret hpc =>
    refine hs.goto rfl rfl ?_
    rw [hpc]
    cases ret <;> rfl
  | @poll t r p accessors ret hpc =>
    refine hs.goto rfl rfl ?_
    rw [hpc]
    cases ret <;> rfl
  | @pushPolled t r p value a as ret hpc =>
    refine hs.goto rfl rfl ?_
    rw [hpc]
    cases ret <;> rfl
  | @pushErrorIgnored t r p text a as ret hpc | @pushErrorChecked t r p text a as ret hpc
  | @clearIsActiveZMQ t r p text a as ret hpc | @pushException t r p text a as ret hpc =>
    refine hs.goto rfl rfl ?_
    rw [hpc]
    cases ret <;> rfl
  | activateListeners hpc | subscribeJoins hpc | unsubscribeLeaves hpc =>
    refine hs.goto rfl rfl (Eq.trans ?_ (congrArg Pc.keepsMap hpc).symm)
    split <;> rfl
  | subscribeFails | unsubscribeIgnored | activateIgnored | openSucceeds | data | dangling
  | eraseMissing | informMissing | publish | read => exact hs
  | subscribeNew hpc | activateChecked hpc | close hpc | openFails hpc | setException hpc
  | deactivateInactive hpc | deactivateActive hpc | detach hpc | eraseSubscription hpc
  | exchangeSet hpc | exchangeUnset hpc | activateSkips hpc | clearOpened hpc | clearAsyncRead hpc
  | clearLastFailedAddress hpc | setExceptionImpl hpc | pushExceptionsAt hpc
  | informRuntimeError hpc => exact hs.goto rfl rfl (congrArg Pc.keepsMap hpc).symm

/-- While a thread keeps the map, no accessor enters or leaves a list. -/
theorem listenersAt_of_owned {e : Event τ α β} (h : Transition L s e s')
    (howned : s.mapOwner ≠ none) : s'.listenersAt = s.listenersAt := by
  cases listChange h with
  | kept lists => exact lists
  | enters =>
    cases h with
    | subscribeFails _ hfree | subscribeNew _ hfree | subscribeJoins _ hfree =>
      exact absurd hfree howned
    | dangling => rfl
  | leaves =>
    cases h with
    | unsubscribeIgnored _ hfree | unsubscribeLeaves _ hfree => exact absurd hfree howned
    | dangling => rfl
  | @erased t r p hpc =>
    cases h with
    | eraseSubscription _ hfree | eraseMissing _ hfree => exact absurd hfree howned
    | _ => simp_all only [reduceCtorEq]

end State

end DoocsBackend.Zmq
