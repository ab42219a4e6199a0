import Mathlib

/-! # Loops over the members of a family

A loop which applies one operation to some members of an indexed family, one after the
other, applies it to each member as often as its index is listed.
-/
namespace Each

variable {ι σ : Type*} [DecidableEq ι]

/-- Apply `f` to the listed members, in the order of the list. -/
def each (f : σ → σ) (indices : List ι) (x : ι → σ) : ι → σ :=
  indices.foldl (fun x i => Function.update x i (f (x i))) x

variable {f : σ → σ} {indices : List ι} {x : ι → σ} {i : ι}

theorem each_apply : each f indices x i = f^[indices.count i] (x i) := by
  induction indices generalizing x with
  | nil => rfl
  | cons j js ih =>
    have hstep : each f (j :: js) x = each f js (Function.update x j (f (x j))) := rfl
    rw [hstep, ih]
    by_cases hij : i = j
    · subst hij
      rw [Function.update_self, List.count_cons_self, Function.iterate_succ_apply]
    · rw [Function.update_of_ne hij, List.count_cons_of_ne (Ne.symm hij)]

theorem each_of_notMem (h : i ∉ indices) : each f indices x i = x i := by
  rw [each_apply, List.count_eq_zero_of_not_mem h]
  rfl

theorem each_of_mem (hn : indices.Nodup) (h : i ∈ indices) : each f indices x i = f (x i) := by
  rw [each_apply, List.count_eq_one_of_mem hn h]
  rfl

/-- What the operation preserves, the loop preserves. -/
theorem each_preserves {P : σ → Prop} (hf : ∀ y, P y → P (f y)) (h : P (x i)) :
    P (each f indices x i) := by
  rw [each_apply]
  exact Function.Iterate.rec P h hf _

/-- What the operation brings about and preserves, the loop brings about. -/
theorem each_establishes {P : σ → Prop} (hf : ∀ y, P (f y)) (h : i ∈ indices) :
    P (each f indices x i) := by
  rw [each_apply]
  obtain ⟨n, hn⟩ := Nat.exists_eq_succ_of_ne_zero (List.count_pos_iff.mpr h).ne'
  rw [hn, Function.iterate_succ_apply']
  exact hf _

end Each
