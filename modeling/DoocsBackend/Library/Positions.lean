import Mathlib

/-! # Positions in a list which others change

A loop goes through a list by position, from zero up to an end fixed when it started. Meanwhile
others append to the list and remove from it. The loop is not disturbed as long as the part it
has visited stays as it is, nothing moves from the part it has still to visit into the other
one or beyond the end, and the list does not become too short.
-/
namespace Positions
variable {α : Type*} {m n : ℕ} {gone : Option α} {xs ys : List α}

/-- A change from `xs` to `ys` does not disturb a loop which has visited `m` of `n` positions. The
element which is gone need not be visited. -/
structure Steady (m n : ℕ) (gone : Option α) (xs ys : List α) : Prop where
  long : n ≤ ys.length
  visited : ∀ i < m, ys[i]? = xs[i]?
  waiting : ∀ j a, m ≤ j → j < n → xs[j]? = some a → gone ≠ some a →
    ∃ i, m ≤ i ∧ i < n ∧ ys[i]? = some a

namespace Steady

theorem refl (h : n ≤ xs.length) : Steady m n gone xs xs where
  long := h
  visited _ _ := rfl
  waiting j _ hm hn hj _ := ⟨j, hm, hn, hj⟩

theorem append (h : n ≤ xs.length) (hm : m ≤ n) (zs : List α) : Steady m n gone xs (xs ++ zs) where
  long := by
    rw [List.length_append]
    omega
  visited i hi := List.getElem?_append_left (by omega)
  waiting j a hmj hjn hj _ := by
    refine ⟨j, hmj, hjn, ?_⟩
    rw [List.getElem?_append_left (by omega)]
    exact hj

variable [DecidableEq α]

theorem filter_take {a : α} (h : a ∉ xs.take m) :
    ((xs.take m).filter fun b => decide (b ≠ a)) = xs.take m := by
  refine List.filter_eq_self.mpr fun b hb => decide_eq_true ?_
  rintro rfl
  exact h hb

/-- Removing an element which has not been visited shifts the later ones by one position. -/
theorem remove {a : α} (hm : m ≤ n) (hn : n ≤ (xs.filter fun b => decide (b ≠ a)).length)
    (hnot : a ∉ xs.take m) : Steady m n (some a) xs (xs.filter fun b => decide (b ≠ a)) where
  long := hn
  visited i hi := by
    have hlen : m ≤ xs.length := (hm.trans hn).trans (List.length_filter_le _ _)
    have hi' : i < (xs.take m).length := by
      rw [List.length_take]
      omega
    have hsplit : (xs.filter fun b => decide (b ≠ a)) =
        xs.take m ++ (xs.drop m).filter fun b => decide (b ≠ a) := by
      conv_lhs => rw [← List.take_append_drop m xs, List.filter_append, filter_take hnot]
    rw [hsplit, List.getElem?_append_left hi', List.getElem?_take_of_lt hi]
  waiting j b hmj hjn hj hgone := by
    obtain ⟨hlt, hget⟩ := List.getElem?_eq_some_iff.mp hj
    have hba : b ≠ a := fun h => hgone (congrArg some h.symm)
    have hsplit : (xs.filter fun x => decide (x ≠ a)) =
        ((xs.take j).filter fun x => decide (x ≠ a)) ++
          b :: (xs.drop (j + 1)).filter fun x => decide (x ≠ a) := by
      conv_lhs => rw [← List.take_append_drop j xs, List.filter_append,
        List.drop_eq_getElem_cons hlt, hget, List.filter_cons_of_pos (by simpa using hba)]
    refine ⟨((xs.take j).filter fun x => decide (x ≠ a)).length, ?_, ?_, ?_⟩
    · have hprefix : xs.take m = (xs.take j).take m := by
        rw [List.take_take, min_eq_left hmj]
      have hle := (List.take_sublist m (xs.take j)).filter fun x => decide (x ≠ a)
      rw [← hprefix, filter_take hnot] at hle
      have hlen := hle.length_le
      rw [List.length_take] at hlen
      omega
    · have hle := List.length_filter_le (fun x => decide (x ≠ a)) (xs.take j)
      rw [List.length_take] at hle
      omega
    · rw [hsplit, List.getElem?_append_right le_rfl, Nat.sub_self]
      rfl

end Steady

end Positions
