import Mathlib

/-! # Noninterference by unwinding

A deterministic system of several domains, every event of which belongs to one domain or to
none. Each domain has a view of the states. If the events of a domain are invisible to the
others, and no event shows to a view what it did not show before, then a domain cannot tell a
run from the same run without the events of another one.
-/
namespace Noninterference

variable {σ ε δ : Type*}

/-- The conditions on single steps. -/
structure Unwinding (step : σ → ε → σ) (domain : ε → Option δ) (view : δ → Setoid σ) : Prop where
  respects : ∀ {d d' : δ} {e : ε}, domain e = some d → d ≠ d' → ∀ s, view d' (step s e) s
  consistent : ∀ (d : δ) (e : ε) {s s' : σ}, view d s s' → view d (step s e) (step s' e)

namespace Unwinding

variable {step : σ → ε → σ} {domain : ε → Option δ} {view : δ → Setoid σ} {d d' : δ}

/-- The events which stay if a domain is left out. -/
def without [DecidableEq δ] (domain : ε → Option δ) (d : δ) (es : List ε) : List ε :=
  es.filter fun e => decide (domain e ≠ some d)

theorem run_without [DecidableEq δ] (h : Unwinding step domain view) (hne : d ≠ d') (es : List ε)
    {s s' : σ} (hs : view d' s s') :
    view d' (es.foldl step s) ((without domain d es).foldl step s') := by
  induction es generalizing s s' with
  | nil => exact hs
  | cons e es ih =>
    by_cases he : domain e = some d
    · have hleft : without domain d (e :: es) = without domain d es := by simp [without, he]
      rw [List.foldl_cons, hleft]
      exact ih ((view d').trans (h.respects he hne s) hs)
    · have hkept : without domain d (e :: es) = e :: without domain d es := by simp [without, he]
      rw [List.foldl_cons, hkept, List.foldl_cons]
      exact ih (h.consistent d' e hs)

/-- No view can tell in which order two domains have acted. -/
theorem commute (h : Unwinding step domain view) (hne : d ≠ d') (e e' : ε)
    (he : domain e = some d) (he' : domain e' = some d') (s : σ) (c : δ) :
    view c (step (step s e) e') (step (step s e') e) := by
  by_cases hc : c = d
  · subst hc
    have hlast := h.respects he' hne.symm (step s e)
    have hfirst := h.consistent c e (h.respects he' hne.symm s)
    exact (view c).trans hlast ((view c).symm hfirst)
  · have hfirst := h.consistent c e' (h.respects he (Ne.symm hc) s)
    have hlast := h.respects he (Ne.symm hc) (step s e')
    exact (view c).trans hfirst ((view c).symm hlast)

end Unwinding

end Noninterference
