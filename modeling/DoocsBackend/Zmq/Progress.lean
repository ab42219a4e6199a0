import DoocsBackend.Library.Liveness
import DoocsBackend.Zmq.ExceptionLast
import DoocsBackend.Zmq.Pointers

/-! # Every call comes to an end

A thread in a call can take its next step unless it waits for the map or, to take down a
subscription, for the first callback. Only such a wait holds up the owner of the map, and no
call goes on for ever: the loops over the map and over the listeners only get shorter.
-/
namespace DoocsBackend.Zmq
open Prod.Lex
variable {τ α β : Type} [DecidableEq τ] [DecidableEq α] [DecidableEq β]

/-- What a call has still to do: its sections left, the rounds of its present loop, and the steps of
the present round. -/
def Pc.rest : Pc α β → ℕ ×ₗ ℕ ×ₗ ℕ
  | .idle => toLex (0, toLex (0, 0))
  | .deactivateSubscription _ => toLex (4, toLex (0, 0))
  | .awaitStarted _ | .exchangeAsyncRead _ | .clearOpened _ | .setExceptionImpl _ =>
    toLex (3, toLex (0, 0))
  | .detach _ | .activateAllListeners _ | .clearAsyncRead _ | .pushExceptions _ _ =>
    toLex (2, toLex (0, 0))
  | .eraseSubscription _ | .clearLastFailedAddress _ => toLex (1, toLex (0, 0))
  | .activateListeners _ todo | .pushExceptionsAt _ _ todo => toLex (1, toLex (todo.length, 0))
  | .pollInitialValue _ accessors ret =>
    toLex (1, toLex ((ret.elim [] Prod.snd).length, 3 * accessors.length + 2))
  | .pushInitialValue _ _ accessors ret =>
    toLex (1, toLex ((ret.elim [] Prod.snd).length, 3 * accessors.length + 1))
  | .clearIsActiveZMQ _ _ _ accessors ret =>
    toLex (1, toLex ((ret.elim [] Prod.snd).length, 3 * accessors.length + 3))
  | .pushException _ _ _ accessors ret =>
    toLex (1, toLex ((ret.elim [] Prod.snd).length, 3 * accessors.length + 2))
  | .errorLoop _ _ k n => toLex (1, toLex (n - k, 0))
  | .informRuntimeError _ _ k n => toLex (1, toLex (n - (k + 1), 1))

namespace State
variable {L : Layout α β} {s s' : State τ α β} {t : τ}

theorem rest_lt_of_section {i j : ℕ} {x y : ℕ ×ₗ ℕ} (h : i < j) :
    (toLex (i, x) : ℕ ×ₗ ℕ ×ₗ ℕ) < toLex (j, y) := Prod.Lex.left _ _ h

theorem rest_lt_of_round {i m n : ℕ} {j k : ℕ} (h : m < n) :
    (toLex (i, toLex (m, j)) : ℕ ×ₗ ℕ ×ₗ ℕ) < toLex (i, toLex (n, k)) :=
  Prod.Lex.right _ (Prod.Lex.left _ _ h)

theorem rest_lt_of_step {i m j k : ℕ} (h : j < k) :
    (toLex (i, toLex (m, j)) : ℕ ×ₗ ℕ ×ₗ ℕ) < toLex (i, toLex (m, k)) :=
  Prod.Lex.right _ (Prod.Lex.right _ h)

omit [DecidableEq α] [DecidableEq β] in
theorem rest_goto {s₁ : State τ α β} {pc : Pc α β} (h : pc.rest < (s.pc t).rest) :
    ((s₁.goto t pc).pc t).rest < (s.pc t).rest := by
  rwa [goto_pc, Function.update_self]

/-- Every step of a thread inside its call leaves less to do. -/
theorem rest_step {r : Option Text} (h : Transition L s (.next t r) s')
    (hdefined : s'.undefined = false) : (s'.pc t).rest < (s.pc t).rest := by
  cases h with
  | eraseMissing | informMissing => cases hdefined
  | @errorLoop _ _ p text k n hpc =>
    unfold serveError at hdefined ⊢
    split at hdefined
    · rename_i hk
      rw [if_pos hk]
      split at hdefined
      · apply rest_goto
        rw [hpc]
        exact rest_lt_of_round (by omega)
      · cases hdefined
    · rename_i hk
      rw [if_neg hk]
      apply rest_goto
      rw [hpc]
      exact rest_lt_of_section Nat.one_pos
  | informRuntimeError hpc =>
    apply rest_goto
    rw [hpc]
    exact rest_lt_of_step Nat.one_pos
  | @activateListeners _ _ b p todo e hpc =>
    apply rest_goto
    rw [hpc]
    split
    · exact rest_lt_of_round (Nat.lt_succ_self _)
    · exact rest_lt_of_round (Nat.lt_succ_self _)
  | poll hpc | clearIsActiveZMQ hpc | pushException hpc =>
    apply rest_goto
    rw [hpc]
    exact rest_lt_of_step (Nat.lt_succ_self _)
  | pushPolled hpc | pushErrorIgnored hpc | pushErrorChecked hpc =>
    apply rest_goto
    rw [hpc]
    exact rest_lt_of_step (by rw [List.length_cons]; omega)
  | @pushDone _ _ p reply ret hpc =>
    apply rest_goto
    rw [hpc]
    cases ret with
    | none => exact rest_lt_of_section Nat.one_pos
    | some ret => exact rest_lt_of_step (Nat.succ_pos _)
  | activateSkips hpc | pushExceptionsAt hpc =>
    apply rest_goto
    rw [hpc]
    exact rest_lt_of_round (Nat.lt_succ_self _)
  | deactivateInactive hpc | deactivateActive hpc | deactivateWaits hpc | awaitStarted hpc
  | detach hpc | eraseSubscription hpc | exchangeSet hpc | exchangeUnset hpc
  | activateAllListeners hpc | activateDone hpc | clearOpened hpc | clearAsyncRead hpc
  | clearLastFailedAddress hpc | setExceptionImpl hpc | pushExceptions hpc
  | pushExceptionsDone hpc =>
    apply rest_goto
    rw [hpc]
    exact rest_lt_of_section (by decide)

/-- A thread which takes infinitely many steps makes infinitely many calls: no call goes on for ever,
whatever the other threads do meanwhile. -/
theorem calls_end (x : Runs.Execution (step L)) (hdefined : ∀ n, (x.state n).undefined = false)
    (hsteps : ∀ n, ∃ m, n ≤ m ∧ (x.label m).actor? = some t) (n : ℕ) :
    ∃ m, n ≤ m ∧ ∃ c, x.label m = .call t c := by
  by_contra hnone
  have hcalls (m : ℕ) (hm : n ≤ m) (c : Call α β) : x.label m ≠ .call t c :=
    fun h => hnone ⟨m, hm, c, h⟩
  obtain ⟨k, hk, hnever⟩ := x.eventually_never (fun s => (s.pc t).rest) (fun e => e.actor? = some t)
    (fun m (_ : n ≤ m) hactor => congrArg Pc.rest (pc_of_ne (transition_of_step (x.step_eq m)) hactor))
    (fun m hm hactor => by
      have hstep := transition_of_step (x.step_eq m)
      cases he : x.label m with
      | call u c =>
        rw [he] at hactor
        cases hactor
        exact absurd he (hcalls m hm c)
      | next u r =>
        rw [he] at hactor hstep
        cases hactor
        exact rest_step hstep (hdefined (m + 1))
      | publish p | read a =>
        rw [he] at hactor
        cases hactor)
  obtain ⟨m, hm, hactor⟩ := hsteps k
  exact hnever m hm hactor

/-- The callback has been called with an error, for an accessor on an open backend. -/
def servedOnce : State Unit Unit Unit :=
  (Runs.exec (step oneListener) (initial fun _ => { opened := true })
    [.call () (.subscribe () false), .call () (.error "F/D/L/P".toList []), .next () none,
      .next () none]).get rfl

/-- The same error comes again, and the first step after it. -/
def servesAgain : State Unit Unit Unit :=
  (servedOnce.step oneListener (.call () (.error "F/D/L/P".toList []))).get rfl

def informsAgain : State Unit Unit Unit := (servesAgain.step oneListener (.next () none)).get rfl

/-- The same error over and over again. -/
def servedAgain : Runs.Execution (step oneListener : State Unit Unit Unit → _) where
  state n := if n % 3 = 0 then servedOnce else if n % 3 = 1 then servesAgain else informsAgain
  label n := if n % 3 = 0 then .call () (.error "F/D/L/P".toList []) else .next () none
  step_eq n := by
    obtain h | h | h : n % 3 = 0 ∨ n % 3 = 1 ∨ n % 3 = 2 := by omega
    all_goals
      rw [Nat.add_mod, h]
      rfl

theorem servedAgain_calls : ∃ m, 5 ≤ m ∧ ∃ c, servedAgain.label m = .call () c := by
  apply calls_end servedAgain
  · intro n
    simp only [servedAgain]
    repeat' split
    all_goals rfl
  · intro n
    refine ⟨n, le_rfl, ?_⟩
    simp only [servedAgain]
    split <;> rfl

/-- The thread takes down a subscription for which the callback has not been called yet, and keeps the
map meanwhile. -/
def WaitsForCallback (s : State τ α β) (t : τ) (p : Text) : Prop :=
  s.pc t = .awaitStarted p ∧ (s.entry p).started = false

/-- The thread can go on with its call. -/
def CanStep (L : Layout α β) (s : State τ α β) (t : τ) : Prop :=
  ∀ r, (s.step L (.next t r)).isSome = true

theorem canStep_iff (hdefined : s.undefined = false) :
    CanStep L s t ↔ ∀ r, (s.advance L t r (s.pc t)).isSome = true := by
  simp [CanStep, step, hdefined]

theorem canStep_pushInitialValue {p : Text} {reply : Except Text ℕ} {accessors : List α}
    {ret : Return β} (r : Option Text) :
    (s.advance L t r (.pushInitialValue p reply accessors ret)).isSome = true := by
  cases accessors with
  | nil => rfl
  | cons a as => cases reply <;> rfl

/-- The owner of the map can go on, or waits for the callback. -/
theorem canStep_of_keepsMap (hdefined : s.undefined = false) (h : (s.pc t).keepsMap = true) :
    CanStep L s t ∨ ∃ p, WaitsForCallback s t p := by
  rw [canStep_iff hdefined]
  cases hpc : s.pc t with
  | awaitStarted p =>
    cases hstarted : (s.entry p).started with
    | true =>
      left
      intro r
      simp only [advance, hstarted, if_true, Option.isSome_some]
    | false => exact .inr ⟨p, hpc, hstarted⟩
  | activateListeners b todo | pushExceptionsAt b message todo =>
    left
    intro r
    cases todo <;> rfl
  | pollInitialValue p accessors ret | clearIsActiveZMQ p text a accessors ret
  | pushException p text a accessors ret => exact .inl fun r => rfl
  | pushInitialValue p reply accessors ret => exact .inl canStep_pushInitialValue
  | _ =>
    rw [hpc] at h
    cases h

/-- While nobody keeps the map, every thread in a call goes on. -/
theorem canStep_of_free (hdefined : s.undefined = false) (hfree : s.mapOwner = none)
    (hkeeps : (s.pc t).keepsMap = false) (hbusy : s.pc t ≠ .idle) : CanStep L s t := by
  rw [canStep_iff hdefined]
  intro r
  cases hpc : s.pc t with
  | idle => exact absurd hpc hbusy
  | deactivateSubscription p =>
    simp only [advance, hfree, Option.isSome_none, Bool.false_eq_true, if_false]
    split
    · split <;> rfl
    · rfl
  | eraseSubscription p =>
    simp only [advance, hfree, Option.isSome_none, Bool.false_eq_true, if_false]
    split <;> rfl
  | activateAllListeners b | pushExceptions b message => simp [advance, hfree]
  | pushInitialValue p reply accessors ret => exact canStep_pushInitialValue r
  | informRuntimeError p text k n =>
    simp only [advance]
    split <;> rfl
  | activateListeners b todo | pushExceptionsAt b message todo | awaitStarted p =>
    simp [hpc, Pc.keepsMap] at hkeeps
  | _ => rfl

/-- A thread in a call goes on, or the owner of the map does, or the owner of the map waits for the
first callback. -/
theorem canStep_or (hdefined : s.undefined = false) (hm : MapOwned s) (hbusy : s.pc t ≠ .idle) :
    (∃ u p, WaitsForCallback s u p) ∨ ∃ u, s.pc u ≠ .idle ∧ CanStep L s u := by
  cases hfree : s.mapOwner with
  | none =>
    refine .inr ⟨t, hbusy, canStep_of_free hdefined hfree ?_ hbusy⟩
    rw [← Bool.not_eq_true, hm t, hfree]
    nofun
  | some u =>
    have hu := (hm u).mpr hfree
    obtain hstep | ⟨p, hwaits⟩ := canStep_of_keepsMap (L := L) hdefined hu
    · refine .inr ⟨u, fun hidle => ?_, hstep⟩
      rw [hidle] at hu
      cases hu
    · exact .inl ⟨u, p, hwaits⟩

/-- A callback ends the wait for it. -/
theorem canStep_of_error {u v : τ} {p text : Text} (hv : s.pc v = .idle)
    (hwaits : WaitsForCallback s u p) (h : s.step L (.call v (.error p text)) = some s')
    (hdefined : s'.undefined = false) : CanStep L s' u := by
  have hpc : s'.pc u = .awaitStarted p := by
    rw [pc_of_ne (transition_of_step h), hwaits.1]
    intro hactor
    cases hactor
    rw [hwaits.1] at hv
    cases hv
  have hstarted : (s'.entry p).started = true := by
    cases transition_of_step h with
    | @error _ _ _ e _ hattached hold =>
      have hmap : (State.serveError L (s.setSubscription p
          { e with started := true, gotInitialValue := false }) v p text 0
            e.listeners.length).subscriptionMap.lookup p =
            some { e with started := true, gotInitialValue := false } := by
        obtain ⟨a, -, heq⟩ | heq | heq := serveError_cases L (s.setSubscription p
          { e with started := true, gotInitialValue := false }) v p text 0 e.listeners.length
        all_goals
          rw [heq]
          exact AList.lookup_insert _
      rw [entry_of_lookup hmap]
    | dangling => cases hdefined
  rw [canStep_iff hdefined]
  intro r
  rw [hpc]
  simp only [advance, hstarted, if_true, Option.isSome_some]

omit [DecidableEq τ] [DecidableEq β] in
/-- DOOCS is attached to the path somebody waits for. -/
theorem Sound.attached_of_waits (hs : Sound L s) {u : τ} {p : Text} (h : WaitsForCallback s u p) :
    ∃ e, s.subscriptionMap.lookup p = some e ∧ s.attached p = true := by
  have hactive : s.ActiveAt p := hs.awaits u p (by rw [h.1]; rfl)
  have hattached := (hs.connected.attached_iff p).mpr (.inl hactive)
  obtain ⟨e, he, -⟩ := hactive
  exact ⟨e, he, hattached⟩

/-- Whenever a call is in progress, some call can go on, or the owner of the map waits for the first
callback of a subscription, which DOOCS can make at any time and after which that thread goes on. -/
theorem no_deadlock {backend : β → Backend.BackendState} {es : List (Event τ α β)}
    (run : Runs.Run (step L) (fun s e => SubscribesWhenSettled L s e ∧ LoopsUndisturbed L s e)
      (initial backend) es s) (hbusy : s.pc t ≠ .idle) :
    (∃ u p, s.mapOwner = some u ∧ WaitsForCallback s u p ∧ ∀ v text, s.pc v = .idle →
      ∃ s', s.step L (.call v (.error p text)) = some s' ∧ CanStep L s' u) ∨
    ∃ u, s.pc u ≠ .idle ∧ CanStep L s u := by
  have hs := sound_run run
  obtain ⟨u, p, hwaits⟩ | hstep := canStep_or hs.defined hs.owned hbusy
  · refine .inl ⟨u, p, (hs.owned u).mp (by rw [hwaits.1]; rfl), hwaits, fun v text hv => ?_⟩
    obtain ⟨e, he, hattached⟩ := hs.attached_of_waits hwaits
    obtain ⟨s', hcall⟩ : ∃ s', s.step L (.call v (.error p text)) = some s' := by
      simp [step, hs.defined, hv, call, hattached, he]
    exact ⟨s', hcall, canStep_of_error hv hwaits hcall (hs.defined_step hcall)⟩
  · exact .inr hstep

/-- The last accessor of a path unsubscribes before the callback has been called. -/
def leavesEarly : List (Event Bool Bool Unit) :=
  [.call true (.subscribe true false), .call true (.unsubscribe true), .next true none]

theorem leavesEarly_no_deadlock :
    ∃ s, Runs.exec (step onePath) (initial fun _ => {}) leavesEarly = some s ∧
      ((∃ u p, s.mapOwner = some u ∧ WaitsForCallback s u p ∧ ∀ v text, s.pc v = .idle →
        ∃ s', s.step onePath (.call v (.error p text)) = some s' ∧ CanStep onePath s' u) ∨
      ∃ u, s.pc u ≠ .idle ∧ CanStep onePath s u) := by
  obtain ⟨s, hs⟩ : ∃ s, Runs.exec (step onePath) (initial fun _ => {}) leavesEarly = some s :=
    Option.isSome_iff_exists.mp rfl
  have run : Runs.Run (step onePath)
      (fun s e => SubscribesWhenSettled onePath s e ∧ LoopsUndisturbed onePath s e)
      (initial fun _ => {}) leavesEarly s := Runs.Along.run (by decide) hs
  have hpc : s.pc true = .awaitStarted "F/D/L/P".toList := by
    have h := congrArg (Option.map fun s => s.pc true) hs
    exact (Option.some.inj h).symm
  refine ⟨s, hs, no_deadlock run (t := true) ?_⟩
  simp [hpc]

end State

end DoocsBackend.Zmq
