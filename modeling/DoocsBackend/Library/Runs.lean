import Mathlib

/-! # Runs of guarded, labelled steps

A system is a step function on states, one label a step, undefined where the
label is not enabled. A run may additionally be guarded by a condition on the
state before each step. The rules below are the only inductions on runs that a
development over such a system needs.
-/
namespace Runs

variable {σ ε : Type*}

/-- Execute a list of labels, failing as soon as one is not enabled. -/
def exec (step : σ → ε → Option σ) : σ → List ε → Option σ
  | s, [] => some s
  | s, e :: es => (step s e).bind fun t => exec step t es

/-- A run all of whose steps satisfy the guard in the state they start from. -/
inductive Run (step : σ → ε → Option σ) (ok : σ → ε → Prop) : σ → List ε → σ → Prop
  | nil (s : σ) : Run step ok s [] s
  | cons {s t u : σ} {e : ε} {es : List ε} (hok : ok s e) (head : step s e = some t)
      (tail : Run step ok t es u) : Run step ok s (e :: es) u

/-- Every step of the execution from `s` along the labels satisfies `good`. -/
def Along (step : σ → ε → Option σ) (good : σ → ε → σ → Prop) : σ → List ε → Prop
  | _, [] => True
  | s, e :: es => ∀ t, step s e = some t → good s e t ∧ Along step good t es

variable {step : σ → ε → Option σ} {ok ok' : σ → ε → Prop} {s t u : σ} {es fs : List ε}

@[simp] theorem exec_nil : exec step s [] = some s := rfl

@[simp] theorem exec_cons (e : ε) :
    exec step s (e :: es) = (step s e).bind fun t => exec step t es := rfl

theorem exec_append : exec step s (es ++ fs) = (exec step s es).bind fun t => exec step t fs := by
  induction es generalizing s with
  | nil => rfl
  | cons e es ih => simp only [List.cons_append, exec_cons, ih, Option.bind_assoc]

namespace Run

theorem exec_eq (run : Run step ok s es t) : exec step s es = some t := by
  induction run with
  | nil => rfl
  | cons _ head _ ih => rw [exec_cons, head, Option.bind_some, ih]

theorem of_exec {admitted : ε → Prop} (h : exec step s es = some t)
    (hes : ∀ e ∈ es, admitted e) : Run step (fun _ e => admitted e) s es t := by
  induction es generalizing s with
  | nil => cases h; exact .nil _
  | cons e es ih =>
    obtain ⟨m, hm, h⟩ := Option.bind_eq_some_iff.mp h
    exact .cons (hes e (by simp)) hm (ih h fun f hf => hes f (by simp [hf]))

theorem admits {admitted : ε → Prop} (run : Run step (fun _ e => admitted e) s es t) :
    ∀ e ∈ es, admitted e := by
  induction run with
  | nil => simp
  | cons hok _ _ ih =>
    intro e he
    rcases List.mem_cons.mp he with rfl | he
    · exact hok
    · exact ih e he

/-- What is known of all labels may be used as a guard. -/
theorem with_labels {good : ε → Prop} (run : Run step ok s es t) (h : ∀ e ∈ es, good e) :
    Run step (fun s e => ok s e ∧ good e) s es t := by
  induction run with
  | nil s => exact .nil s
  | cons hok head _ ih =>
    exact .cons ⟨hok, h _ List.mem_cons_self⟩ head (ih fun f hf => h f (List.mem_cons_of_mem _ hf))

/-- What every guarded step preserves holds at the end of every guarded run. -/
theorem invariant {I : σ → Prop} (run : Run step ok s es t)
    (preserved : ∀ s e t, I s → ok s e → step s e = some t → I t) (h : I s) : I t := by
  induction run with
  | nil => exact h
  | cons hok head _ ih => exact ih (preserved _ _ _ h hok head)

end Run

/-- What every step preserves holds at the end of every execution. -/
theorem exec_invariant {I : σ → Prop} (h : exec step s es = some t)
    (preserved : ∀ s e t, I s → step s e = some t → I t) (hs : I s) : I t := by
  have run : Run step (fun _ _ => True) s es t := Run.of_exec h fun _ _ => trivial
  exact run.invariant (fun s e t hs _ => preserved s e t hs) hs

namespace Along

variable {good good' : σ → ε → σ → Prop}

@[simp] theorem nil : Along step good s [] := trivial

theorem cons_of_step {e : ε} (head : step s e = some t) :
    Along step good s (e :: es) ↔ good s e t ∧ Along step good t es := by
  simp [Along, head]

instance decidable [∀ s e t, Decidable (good s e t)] :
    (s : σ) → (es : List ε) → Decidable (Along step good s es)
  | _, [] => .isTrue trivial
  | s, e :: es => match head : step s e with
    | none => .isTrue (by simp [Along, head])
    | some t =>
      have := decidable t es
      decidable_of_iff _ (cons_of_step head).symm

/-- An execution along which every step satisfies a guard is a guarded run. -/
theorem run {ok : σ → ε → Prop} (h : Along step (fun s e _ => ok s e) s es)
    (hexec : exec step s es = some t) : Run step ok s es t := by
  induction es generalizing s with
  | nil => cases hexec; exact .nil _
  | cons e es ih =>
    obtain ⟨m, hm, hexec⟩ := Option.bind_eq_some_iff.mp hexec
    obtain ⟨hok, h⟩ := (cons_of_step hm).mp h
    exact .cons hok hm (ih h hexec)

/-- Two step properties agree along a run of admitted labels when they agree on every step
taken from a state in which an invariant holds; the invariant may rely on the steps so far
being good. -/
theorem iff_of_invariant {admitted : ε → Prop} {I : σ → Prop}
    (hiff : ∀ s e t, admitted e → I s → step s e = some t → (good s e t ↔ good' s e t))
    (preserved : ∀ s e t, admitted e → I s → step s e = some t → good s e t → I t)
    (h : I s) (hes : ∀ e ∈ es, admitted e) : Along step good s es ↔ Along step good' s es := by
  induction es generalizing s with
  | nil => simp
  | cons e es ih =>
    have he : admitted e := hes e (by simp)
    cases head : step s e with
    | none => simp [Along, head]
    | some t =>
      rw [cons_of_step head, cons_of_step head, ← hiff s e t he h head]
      exact and_congr_right fun hg =>
        ih (preserved s e t he h head hg) fun f hf => hes f (by simp [hf])

/-- What relates a system to the one which follows it label by label is kept along a good run. -/
theorem simulation {μ : Type*} {next : μ → ε → μ} {R : σ → μ → Prop} {m : μ}
    (h : Along step good s es) (hexec : exec step s es = some t)
    (hstep : ∀ s e t m, R s m → step s e = some t → good s e t → R t (next m e)) (hR : R s m) :
    R t (es.foldl next m) := by
  induction es generalizing s m with
  | nil =>
    cases hexec
    exact hR
  | cons e es ih =>
    obtain ⟨u, hu, hexec⟩ := Option.bind_eq_some_iff.mp hexec
    obtain ⟨hgood, h⟩ := (cons_of_step hu).mp h
    exact ih h hexec (hstep s e u m hR hu hgood)

end Along

end Runs
