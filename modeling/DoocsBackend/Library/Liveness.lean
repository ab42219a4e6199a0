import DoocsBackend.Library.Runs

/-! # Infinite executions

An execution of a step function which never ends. A measure which steps of one kind lower
and all others leave alone shows that the steps of that kind come to an end.
-/
namespace Runs

/-- States and labels which follow one another for ever. -/
structure Execution {σ ε : Type*} (step : σ → ε → Option σ) where
  state : ℕ → σ
  label : ℕ → ε
  step_eq : ∀ n, step (state n) (label n) = some (state (n + 1))

namespace Execution

variable {σ ε γ : Type*} {step : σ → ε → Option σ} (x : Execution step) (measure : σ → γ)
  (own : ε → Prop) {start : ℕ}

/-- A step which leaves the measure alone or lowers it does not raise it, and neither do several. -/
theorem antitone [Preorder γ]
    (hkeep : ∀ n, start ≤ n → ¬ own (x.label n) → measure (x.state (n + 1)) = measure (x.state n))
    (hless : ∀ n, start ≤ n → own (x.label n) → measure (x.state (n + 1)) < measure (x.state n))
    {m n : ℕ} (hm : start ≤ m) (hmn : m ≤ n) : measure (x.state n) ≤ measure (x.state m) := by
  induction n, hmn using Nat.le_induction with
  | base => exact le_rfl
  | succ n hmn ih =>
    refine le_trans ?_ ih
    by_cases hown : own (x.label n)
    · exact (hless n (hm.trans hmn) hown).le
    · exact (hkeep n (hm.trans hmn) hown).le

/-- Steps which lower a well-founded measure come to an end if no other step changes it. -/
theorem eventually_never [Preorder γ] [WellFoundedLT γ]
    (hkeep : ∀ n, start ≤ n → ¬ own (x.label n) → measure (x.state (n + 1)) = measure (x.state n))
    (hless : ∀ n, start ≤ n → own (x.label n) → measure (x.state (n + 1)) < measure (x.state n)) :
    ∃ n, start ≤ n ∧ ∀ m, n ≤ m → ¬ own (x.label m) := by
  -- at the place where the measure is least no step of the kind is left
  obtain ⟨n, hn, hleast⟩ := (InvImage.wf (fun n => measure (x.state n)) wellFounded_lt).has_min
    {n | start ≤ n} ⟨start, (le_rfl : start ≤ start)⟩
  refine ⟨n, hn, fun m hm hown => hleast (m + 1) (hn.trans (hm.trans m.le_succ)) ?_⟩
  exact (hless m (hn.trans hm) hown).trans_le (x.antitone measure own hkeep hless hn hm)

end Execution

end Runs
