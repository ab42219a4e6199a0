import DoocsBackend.Backend.State
import DoocsBackend.Library.Runs

/-! # Recovery from a failure

From the first reported failure on, a backend can only be opened once the address of the
failure can be read again. Until then every attempt ends with the same message.
-/
namespace DoocsBackend.Backend

/-- A message which tells what has gone wrong. -/
def IsMessage (message : Text) : Prop := message ≠ [] ∧ message ≠ exceptionCleared

namespace BackendState
variable {b : BackendState} {rc : ReturnCode} {text : Text} {fresh : ℕ}

/-- An active exception keeps its message. -/
theorem recoveryMessage_of_active (h : b.hasActiveException = true)
    (hm : IsMessage b.activeExceptionMessage) (text : Text) :
    b.recoveryMessage text = b.activeExceptionMessage := by
  simp [recoveryMessage, isFunctional, h, hm.1, hm.2]

theorem isMessage_recoveryMessage (b : BackendState) (text : Text) :
    IsMessage (b.recoveryMessage text) := by
  unfold recoveryMessage
  generalize (if b.isFunctional then [] else b.activeExceptionMessage) = stored
  by_cases h : stored = [] ∨ stored = exceptionCleared
  · rw [if_pos h]
    refine ⟨List.cons_ne_nil _ _, fun h' => ?_⟩
    have hc : some 'C' = some '(' := congrArg List.head? h'
    cases hc
  · rw [if_neg h]
    exact not_or.mp h

theorem hasActiveException_setException (b : BackendState) (message : Text) :
    (b.setException message).hasActiveException = true := by
  unfold setException
  split
  · assumption
  · rfl

/-- The first failure without an active exception determines the message from then on. -/
theorem activeExceptionMessage_setException (h : b.hasActiveException = false) (message : Text) :
    (b.setException message).activeExceptionMessage = message := by
  simp [setException, h]

end BackendState

namespace Recovery

/-- A backend, and the newest version number created so far by it or elsewhere. -/
structure State where
  created : ℕ
  backend : BackendState
  deriving DecidableEq, Repr

/-- The calls on a backend which is not closed. Before an `open`, versions may have been created
elsewhere; it probes the device with the given result. -/
inductive Call where
  | informRuntimeError (address : Text)
  | openBackend (created : ℕ) (rc : ReturnCode) (text : Text)
  deriving DecidableEq, Repr

/-- The call reports the address of a failure. -/
def Call.Reports : Call → Prop
  | .informRuntimeError address => address ≠ []
  | .openBackend .. => False

/-- The call does not find the device recovered. -/
def Call.Fails : Call → Prop
  | .informRuntimeError _ => True
  | .openBackend _ rc _ => rc.isCommunicationError = true

instance : (c : Call) → Decidable c.Reports
  | .informRuntimeError address => inferInstanceAs (Decidable (address ≠ []))
  | .openBackend .. => .isFalse id

instance : (c : Call) → Decidable c.Fails
  | .informRuntimeError _ => .isTrue trivial
  | .openBackend _ rc _ => inferInstanceAs (Decidable (rc.isCommunicationError = true))

/-- What a call throws. -/
def thrown (s : State) : Call → Option Failure
  | .informRuntimeError _ => none
  | .openBackend created rc text =>
    (s.backend.openBackend rc text (s.created + created + 1)).2

/-- The version number of a failed `open` is never created. -/
def step (s : State) : Call → Option State
  | .informRuntimeError address =>
    some { s with backend := s.backend.informRuntimeError address }
  | .openBackend created rc text =>
    let result := s.backend.openBackend rc text (s.created + created + 1)
    some
      { created := s.created + created + if result.2 = none then 1 else 0
        backend := result.1 }

/-- If the call is an `open`, it throws this message. -/
def Throws (message : Text) (s : State) (c : Call) (_ : State) : Prop :=
  match c with
  | .informRuntimeError _ => True
  | .openBackend .. => thrown s c = some (.runtimeError message)

variable {s t : State} {calls : List Call} {address message : Text}

/-- As long as nothing is reported, every `open` is successful. -/
theorem lastFailedAddress_eq_of_unreported
    (run : Runs.Run step (fun _ c => ¬ c.Reports) s calls t)
    (h : s.backend.lastFailedAddress = []) : t.backend.lastFailedAddress = [] := by
  apply run.invariant (I := fun s => s.backend.lastFailedAddress = []) ?_ h
  intro s c t hs hc hstep
  cases c with
  | informRuntimeError address =>
    have ha : address = [] := not_not.mp hc
    cases hstep
    simp [BackendState.informRuntimeError, ha, hs]
  | openBackend created rc text =>
    simp only [step, BackendState.openBackend_of_recovered (.inl hs), Option.some.injEq] at hstep
    subst hstep
    rfl

/-- What a call leaves alone while the device is not recovered. -/
structure Kept (s t : State) : Prop where
  lastFailedAddress : t.backend.lastFailedAddress = s.backend.lastFailedAddress
  startVersion : t.backend.startVersion = s.backend.startVersion
  opened : t.backend.opened = s.backend.opened

theorem step_informRuntimeError (h : s.backend.lastFailedAddress ≠ [])
    (hstep : step s (.informRuntimeError address) = some t) : t = s := by
  rw [step, BackendState.informRuntimeError_of_failed h] at hstep
  exact (Option.some.inj hstep).symm

/-- A failed `open` throws, and the exception becomes active. -/
theorem step_openBackend {created : ℕ} {rc : ReturnCode} {text : Text}
    (h : s.backend.lastFailedAddress ≠ []) (hrc : rc.isCommunicationError = true)
    (hstep : step s (.openBackend created rc text) = some t) :
    thrown s (.openBackend created rc text) =
        some (.runtimeError (s.backend.recoveryMessage text)) ∧
      t.backend = s.backend.setException (s.backend.recoveryMessage text) := by
  rw [step, BackendState.openBackend_of_failed h hrc] at hstep
  rw [thrown, BackendState.openBackend_of_failed h hrc]
  cases hstep
  exact ⟨rfl, rfl⟩

theorem kept_step {c : Call} (h : s.backend.lastFailedAddress ≠ []) (hc : c.Fails)
    (hstep : step s c = some t) : Kept s t := by
  cases c with
  | informRuntimeError address =>
    rw [step_informRuntimeError h hstep]
    exact ⟨rfl, rfl, rfl⟩
  | openBackend created rc text =>
    have ht := (step_openBackend h hc hstep).2
    constructor <;> simp [ht]

theorem kept_run (run : Runs.Run step (fun _ c => c.Fails) s calls t)
    (h : s.backend.lastFailedAddress ≠ []) : Kept s t := by
  induction run with
  | nil => exact ⟨rfl, rfl, rfl⟩
  | cons hc hstep _ ih =>
    have hk := kept_step h hc hstep
    have ht := ih (hk.lastFailedAddress ▸ h)
    exact ⟨ht.lastFailedAddress.trans hk.lastFailedAddress, ht.startVersion.trans hk.startVersion,
      ht.opened.trans hk.opened⟩

/-- A message which is stored already is thrown by every failing `open`. -/
theorem throws_active (h : s.backend.lastFailedAddress ≠ [])
    (hactive : s.backend.hasActiveException = true)
    (hm : IsMessage s.backend.activeExceptionMessage) (hcalls : ∀ c ∈ calls, c.Fails) :
    Runs.Along step (Throws s.backend.activeExceptionMessage) s calls := by
  induction calls generalizing s with
  | nil => trivial
  | cons c calls ih =>
    have hcs : ∀ d ∈ calls, d.Fails := fun d hd => hcalls d (List.mem_cons_of_mem c hd)
    intro t hstep
    cases c with
    | informRuntimeError address =>
      rw [step_informRuntimeError h hstep]
      exact ⟨trivial, ih h hactive hm hcs⟩
    | openBackend created rc text =>
      obtain ⟨hthrown, ht⟩ := step_openBackend h (hcalls _ List.mem_cons_self) hstep
      rw [BackendState.recoveryMessage_of_active hactive hm] at hthrown ht
      have hkeep : t.backend = s.backend := by rw [ht, BackendState.setException, if_pos hactive]
      refine ⟨hthrown, ?_⟩
      rw [← hkeep] at h hactive hm ⊢
      exact ih h hactive hm hcs

/-- All failing attempts to open a backend throw the same message, unless an exception without one
was active before. -/
theorem throws_same (h : s.backend.lastFailedAddress ≠ [])
    (hm : s.backend.hasActiveException = true → IsMessage s.backend.activeExceptionMessage)
    (hcalls : ∀ c ∈ calls, c.Fails) : ∃ message, Runs.Along step (Throws message) s calls := by
  cases hactive : s.backend.hasActiveException with
  | true => exact ⟨_, throws_active h hactive (hm hactive) hcalls⟩
  | false =>
    induction calls with
    | nil => exact ⟨[], trivial⟩
    | cons c calls ih =>
      have hcs : ∀ d ∈ calls, d.Fails := fun d hd => hcalls d (List.mem_cons_of_mem c hd)
      cases c with
      | informRuntimeError address =>
        obtain ⟨message, hmessage⟩ := ih hcs
        refine ⟨message, fun t hstep => ⟨trivial, ?_⟩⟩
        rw [step_informRuntimeError h hstep]
        exact hmessage
      | openBackend created rc text =>
        refine ⟨s.backend.recoveryMessage text, fun t hstep => ?_⟩
        obtain ⟨hthrown, ht⟩ := step_openBackend h (hcalls _ List.mem_cons_self) hstep
        have hstored := BackendState.activeExceptionMessage_setException hactive
          (s.backend.recoveryMessage text)
        rw [← ht] at hstored
        refine ⟨hthrown, ?_⟩
        rw [← hstored]
        apply throws_active
        · rw [ht, BackendState.setException_lastFailedAddress]
          exact h
        · rw [ht]
          exact BackendState.hasActiveException_setException _ _
        · rw [hstored]
          exact BackendState.isMessage_recoveryMessage _ _
        · exact hcs

theorem exists_thrown {created : ℕ} {rc : ReturnCode} (h : s.backend.lastFailedAddress ≠ [])
    (hrc : rc.isCommunicationError = true) (text : Text) :
    ∃ message, thrown s (.openBackend created rc text) = some (.runtimeError message) :=
  ⟨_, by rw [thrown, BackendState.openBackend_of_failed h hrc]⟩

/-- The recovery protocol. Calls which report nothing are followed by the first report of an
address and by calls none of which finds the device recovered. In the state reached, the address
and the start version are still the same, an `open` throws unless it finds the device recovered,
and one which does ends the recovery with a new start version. If no exception without a message
was active, all messages thrown since the report are the same. -/
theorem recovers {s r t u : State} {before during : List Call} {address : Text}
    (hs : s.backend.lastFailedAddress = [])
    (hbefore : Runs.Run step (fun _ c => ¬ c.Reports) s before r) (ha : address ≠ [])
    (hreport : step r (.informRuntimeError address) = some t)
    (hduring : Runs.Run step (fun _ c => c.Fails) t during u) :
    u.backend.lastFailedAddress = address ∧
      u.backend.startVersion = r.backend.startVersion ∧
      (∀ created rc text, rc.isCommunicationError = true →
        ∃ message, thrown u (.openBackend created rc text) = some (.runtimeError message)) ∧
      ((r.backend.hasActiveException = true → IsMessage r.backend.activeExceptionMessage) →
        ∃ message, Runs.Along step (Throws message) t during) ∧
      ∀ created rc text, rc.isCommunicationError = false →
        thrown u (.openBackend created rc text) = none ∧
          ∀ v, step u (.openBackend created rc text) = some v →
            v.backend.lastFailedAddress = [] ∧ u.created + created < v.backend.startVersion := by
  have hr := lastFailedAddress_eq_of_unreported hbefore hs
  have ht : t.backend = { r.backend with lastFailedAddress := address } := by
    rw [step, BackendState.informRuntimeError, if_pos hr] at hreport
    cases hreport
    rfl
  have hta : t.backend.lastFailedAddress = address := by rw [ht]
  have hk := kept_run hduring (by rw [hta]; exact ha)
  have hua : u.backend.lastFailedAddress = address := hk.lastFailedAddress.trans hta
  refine ⟨hua, hk.startVersion.trans (by rw [ht]), ?_, ?_, ?_⟩
  · intro created rc text hrc
    exact exists_thrown (by rw [hua]; exact ha) hrc text
  · intro hm
    apply throws_same (by rw [hta]; exact ha)
    · rw [ht]
      exact hm
    · exact hduring.admits
  · intro created rc text hrc
    refine ⟨by rw [thrown, BackendState.openBackend_of_recovered (.inr hrc)], fun v hv => ?_⟩
    simp only [step, BackendState.openBackend_of_recovered (.inr hrc), Option.some.injEq] at hv
    subst hv
    exact ⟨rfl, Nat.lt_succ_self _⟩

/-- The device does not answer twice, with different texts and another failure in between. -/
def failTwice : List Call :=
  [.openBackend 0 .transportError "x".toList, .informRuntimeError "B".toList,
    .openBackend 3 .transactionError "y".toList]

theorem recovers_after_two : ∃ message, Runs.Along step (Throws message)
    ⟨1, { opened := true, startVersion := 1, lastFailedAddress := "A".toList }⟩ failTwice := by
  have hbefore : Runs.Run step (fun _ c => ¬ c.Reports) ⟨0, {}⟩ [.openBackend 0 .ok []]
      ⟨1, { opened := true, startVersion := 1 }⟩ := Runs.Run.of_exec rfl (by decide)
  have hduring : Runs.Run step (fun _ c => c.Fails)
      ⟨1, { opened := true, startVersion := 1, lastFailedAddress := "A".toList }⟩ failTwice _ :=
    Runs.Run.of_exec rfl (by decide)
  have h := recovers rfl hbefore (List.cons_ne_nil 'A' []) rfl hduring
  exact h.2.2.2.1 fun h => absurd h (by decide)

end Recovery

end DoocsBackend.Backend
