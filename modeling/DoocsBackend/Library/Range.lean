import Mathlib

/-! # Writing ranges of a list

A range is written in place; a list which is too short is filled up first. What such a write
does is told by the element found at each index afterwards.
-/
namespace Range

variable {α : Type*} {fill : α} {o p n : ℕ} {vs ws xs ys : List α}

/-- Overwrite the elements from index `o` on. -/
def overwrite (o : ℕ) (vs xs : List α) : List α := xs.take o ++ vs ++ xs.drop (o + vs.length)

/-- Overwrite the elements from index `o` on, after filling up the list where needed. -/
def write (fill : α) (o : ℕ) (vs xs : List α) : List α :=
  overwrite o vs (xs.rightpad (o + vs.length) fill)

theorem length_overwrite (h : o + vs.length ≤ xs.length) :
    (overwrite o vs xs).length = xs.length := by
  simp only [overwrite, List.length_append, List.length_take, List.length_drop]
  omega

theorem getElem?_overwrite (h : o + vs.length ≤ xs.length) (i : ℕ) :
    (overwrite o vs xs)[i]? = if o ≤ i ∧ i < o + vs.length then vs[i - o]? else xs[i]? := by
  have ho : (xs.take o).length = o := by
    rw [List.length_take]
    omega
  unfold overwrite
  by_cases hlow : i < o
  · rw [List.append_assoc, List.getElem?_append_left (by omega), List.getElem?_take_of_lt hlow,
      if_neg (by omega)]
  · by_cases hhigh : i < o + vs.length
    · rw [List.getElem?_append_left (by simp only [List.length_append]; omega),
        List.getElem?_append_right (by omega), ho, if_pos ⟨by omega, hhigh⟩]
    · rw [List.getElem?_append_right (by simp only [List.length_append]; omega),
        List.getElem?_drop, if_neg (by omega)]
      congr 1
      simp only [List.length_append, ho]
      omega

/-- Writing the elements one by one comes to the same. -/
theorem overwrite_cons {v : α} (h : o + (v :: vs).length ≤ xs.length) :
    overwrite o (v :: vs) xs = overwrite (o + 1) vs (xs.set o v) := by
  rw [List.length_cons] at h
  have hset : o + 1 + vs.length ≤ (xs.set o v).length := by
    rw [List.length_set]
    omega
  apply List.ext_getElem?
  intro i
  rw [getElem?_overwrite (by simpa using h), getElem?_overwrite hset, List.length_cons]
  by_cases hi : i = o
  · subst hi
    rw [if_pos ⟨le_rfl, by omega⟩, if_neg (by omega), Nat.sub_self,
      List.getElem?_set_self (by omega)]
    rfl
  · by_cases hin : o + 1 ≤ i ∧ i < o + 1 + vs.length
    · obtain ⟨k, rfl⟩ : ∃ k, i = o + 1 + k := ⟨i - (o + 1), by omega⟩
      rw [if_pos (by omega), if_pos hin, show o + 1 + k - o = k + 1 by omega,
        show o + 1 + k - (o + 1) = k by omega, List.getElem?_cons_succ]
    · rw [if_neg (by omega), if_neg hin, List.getElem?_set_ne (Ne.symm hi)]

theorem overwrite_nil : overwrite o [] xs = xs := by
  simp [overwrite]

@[simp] theorem length_write :
    (write fill o vs xs).length = max xs.length (o + vs.length) := by
  rw [write, length_overwrite (by rw [List.length_rightpad]; omega), List.length_rightpad]
  omega

theorem write_eq_overwrite (h : o + vs.length ≤ xs.length) :
    write fill o vs xs = overwrite o vs xs := by
  rw [write, List.rightpad, Nat.sub_eq_zero_of_le h, List.replicate_zero, List.append_nil]

theorem getElem?_rightpad (i : ℕ) :
    (xs.rightpad n fill)[i]? =
      if i < xs.length then xs[i]? else if i < n then some fill else none := by
  rw [List.rightpad]
  by_cases hi : i < xs.length
  · rw [List.getElem?_append_left hi, if_pos hi]
  · rw [List.getElem?_append_right (by omega), List.getElem?_replicate, if_neg hi]
    congr 1
    rw [eq_iff_iff]
    omega

/-- What is found after a write. -/
theorem getElem?_write (i : ℕ) :
    (write fill o vs xs)[i]? =
      if o ≤ i ∧ i < o + vs.length then vs[i - o]?
      else if i < xs.length then xs[i]? else if i < o + vs.length then some fill else none := by
  rw [write, getElem?_overwrite (by rw [List.length_rightpad]; omega), getElem?_rightpad]

theorem getElem?_write_inside {k : ℕ} (h : k < vs.length) :
    (write fill o vs xs)[o + k]? = vs[k]? := by
  rw [getElem?_write, if_pos (by omega), Nat.add_sub_cancel_left]

theorem getElem?_write_outside {i : ℕ} (hi : i < xs.length) (h : i < o ∨ o + vs.length ≤ i) :
    (write fill o vs xs)[i]? = xs[i]? := by
  rw [getElem?_write, if_neg (by omega), if_pos hi]

/-- Writes to disjoint ranges commute. -/
theorem write_comm (h : ∀ i, ¬ ((o ≤ i ∧ i < o + vs.length) ∧ p ≤ i ∧ i < p + ws.length)) :
    write fill p ws (write fill o vs xs) = write fill o vs (write fill p ws xs) := by
  apply List.ext_getElem?
  intro i
  have hi := h i
  simp only [getElem?_write, length_write]
  by_cases hv : o ≤ i ∧ i < o + vs.length
  · have hw : ¬ (p ≤ i ∧ i < p + ws.length) := fun hw => hi ⟨hv, hw⟩
    simp only [hv, hw, and_self, if_true, if_false]
    rw [if_pos (by omega)]
  · by_cases hw : p ≤ i ∧ i < p + ws.length
    · simp only [hv, hw, and_self, if_true, if_false]
      rw [if_pos (by omega)]
    · simp only [hv, hw, if_false]
      grind

theorem map_overwrite {β : Type*} (f : α → β) :
    (overwrite o vs xs).map f = overwrite o (vs.map f) (xs.map f) := by
  simp [overwrite, List.map_take, List.map_drop]

theorem map_write {β : Type*} (f : α → β) :
    (write fill o vs xs).map f = write (f fill) o (vs.map f) (xs.map f) := by
  rw [write, map_overwrite, write, List.length_map]
  simp [List.rightpad]

/-- Two adjacent ranges are one. -/
theorem overwrite_append (h : o + vs.length ≤ xs.length) :
    overwrite (o + vs.length) ws (overwrite o vs xs) = overwrite o (vs ++ ws) xs := by
  have hfront : (xs.take o ++ vs).length = o + vs.length := by
    rw [List.length_append, List.length_take]
    omega
  unfold overwrite
  rw [List.take_left' hfront, List.drop_append, List.drop_of_length_le (by omega), List.nil_append,
    hfront, List.drop_drop, List.length_append, List.append_assoc _ vs ws]
  congr 2
  omega

/-- A whole list is overwritten. -/
theorem overwrite_all (h : vs.length = xs.length) : overwrite 0 vs xs = vs := by
  rw [overwrite, List.take_zero, List.nil_append, List.drop_of_length_le (by omega), List.append_nil]

/-- A list which is written from front to back in three parts. -/
theorem overwrite_parts {us : List α} (h : us.length + vs.length + ws.length = xs.length) :
    overwrite (us.length + vs.length) ws (overwrite us.length vs (overwrite 0 us xs)) =
      us ++ vs ++ ws := by
  have hfront : overwrite (0 + us.length) vs (overwrite 0 us xs) = overwrite 0 (us ++ vs) xs :=
    overwrite_append (by omega)
  have hback : overwrite (0 + (us ++ vs).length) ws (overwrite 0 (us ++ vs) xs) =
      overwrite 0 (us ++ vs ++ ws) xs := overwrite_append (by rw [List.length_append]; omega)
  rw [Nat.zero_add] at hfront
  rw [Nat.zero_add, List.length_append] at hback
  rw [hfront, hback, overwrite_all (by simp only [List.length_append]; exact h)]

/-- A write of the whole list. -/
theorem write_all (h : vs.length = xs.length) : write fill 0 vs xs = vs := by
  rw [write_eq_overwrite (by omega), overwrite_all h]

/-- A list which is written from front to back is a prefix of what is written. -/
theorem write_take {x : α} (h : xs[n]? = some x) :
    write fill n [x] (xs.take n) = xs.take (n + 1) := by
  have hn : n < xs.length := (List.getElem?_eq_some_iff.mp h).1
  have hlength : (xs.take n).length = n := List.length_take_of_le (by omega)
  apply List.ext_getElem?
  intro k
  rw [getElem?_write, hlength, List.length_singleton]
  rcases lt_trichotomy k n with hk | hk | hk
  · rw [if_neg (by omega), if_pos hk, List.getElem?_take_of_lt hk,
      List.getElem?_take_of_lt (by omega)]
  · subst hk
    rw [if_pos (by omega), Nat.sub_self, List.getElem?_take_of_lt (by omega), h]
    rfl
  · rw [if_neg (by omega), if_neg (by omega), if_neg (by omega),
      List.getElem?_eq_none (by simp; omega)]

/-- Of a list which is overwritten only the other elements matter. -/
theorem overwrite_congr (h : o + vs.length ≤ xs.length) (hl : xs.length = ys.length)
    (hout : ∀ i < xs.length, ¬ (o ≤ i ∧ i < o + vs.length) → xs[i]? = ys[i]?) :
    overwrite o vs xs = overwrite o vs ys := by
  apply List.ext_getElem?
  intro i
  rw [getElem?_overwrite h, getElem?_overwrite (hl ▸ h)]
  split
  · rfl
  · rename_i hi
    by_cases hlt : i < xs.length
    · exact hout i hlt hi
    · rw [List.getElem?_eq_none (by omega), List.getElem?_eq_none (by omega)]

/-- Two lists which agree on a range have the same part there. -/
theorem take_drop_congr (h : ∀ k < n, xs[o + k]? = ys[o + k]?) :
    (xs.drop o).take n = (ys.drop o).take n := by
  apply List.ext_getElem?
  intro k
  by_cases hk : k < n
  · rw [List.getElem?_take_of_lt hk, List.getElem?_take_of_lt hk, List.getElem?_drop,
      List.getElem?_drop, h k hk]
  · rw [List.getElem?_eq_none (by simp; omega), List.getElem?_eq_none (by simp; omega)]

theorem take_drop_write : ((write fill o vs xs).drop o).take vs.length = vs := by
  apply List.ext_getElem?
  intro k
  by_cases hk : k < vs.length
  · rw [List.getElem?_take_of_lt hk, List.getElem?_drop, getElem?_write_inside hk]
  · rw [List.getElem?_eq_none (by simp; omega), List.getElem?_eq_none (by omega)]

end Range
