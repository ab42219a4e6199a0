import Mathlib

/-! # First-wins registration

A list of entries in which an entry is appended only when no earlier entry has its
key. Later registrations never change or remove an entry, so whatever is registered
once stays registered.
-/
namespace FirstWins

variable {α κ : Type*} [DecidableEq κ] (key : α → κ)

/-- Whether an entry with this key is already registered. -/
def has (xs : List α) (k : κ) : Bool := decide (k ∈ xs.map key)

/-- Append the entry unless its key is taken. -/
def insertNew (xs : List α) (x : α) : List α := if has key xs (key x) then xs else xs ++ [x]

/-- Register the entries one after the other. -/
def insertAll (xs : List α) (ys : List α) : List α := ys.foldl (insertNew key) xs

variable {key} {xs ys : List α} {x y : α} {k : κ}

@[simp] theorem has_iff : has key xs k = true ↔ ∃ x ∈ xs, key x = k := by
  simp [has]

theorem has_of_mem (h : x ∈ xs) : has key xs (key x) = true := has_iff.mpr ⟨x, h, rfl⟩

theorem mem_insertNew : y ∈ insertNew key xs x ↔ y ∈ xs ∨ (has key xs (key x) = false ∧ y = x) := by
  unfold insertNew
  cases h : has key xs (key x) <;> simp

theorem mem_insertNew_of_mem (h : y ∈ xs) : y ∈ insertNew key xs x := mem_insertNew.mpr (.inl h)

theorem has_insertNew : has key (insertNew key xs x) (key x) = true := by
  cases h : has key xs (key x) with
  | true => rw [insertNew, if_pos h]; exact h
  | false => exact has_of_mem (mem_insertNew.mpr (.inr ⟨h, rfl⟩))

theorem nodup_insertNew (h : (xs.map key).Nodup) : ((insertNew key xs x).map key).Nodup := by
  unfold insertNew
  split
  · exact h
  · rename_i hk
    rw [List.map_append, List.map_singleton, List.nodup_append]
    refine ⟨h, by simp, ?_⟩
    intro k hk' k' hk''
    rw [List.mem_singleton] at hk''
    subst hk''
    rintro rfl
    exact hk (decide_eq_true hk')

@[simp] theorem insertAll_cons :
    insertAll key xs (y :: ys) = insertAll key (insertNew key xs y) ys := rfl

theorem insertAll_append {zs : List α} :
    insertAll key xs (ys ++ zs) = insertAll key (insertAll key xs ys) zs := List.foldl_append

theorem mem_insertAll_of_mem (h : x ∈ xs) : x ∈ insertAll key xs ys := by
  induction ys generalizing xs with
  | nil => exact h
  | cons y ys ih => exact ih (mem_insertNew_of_mem h)

theorem has_insertAll_of_has (h : has key xs k = true) : has key (insertAll key xs ys) k = true := by
  obtain ⟨x, hx, rfl⟩ := has_iff.mp h
  exact has_of_mem (mem_insertAll_of_mem hx)

/-- Every key that was offered is taken afterwards. -/
theorem has_insertAll_of_offered (h : y ∈ ys) : has key (insertAll key xs ys) (key y) = true := by
  induction ys generalizing xs with
  | nil => cases h
  | cons z ys ih =>
    rw [insertAll_cons]
    rcases List.mem_cons.mp h with rfl | h
    · exact has_insertAll_of_has has_insertNew
    · exact ih h

/-- What is registered was there before or was offered. -/
theorem mem_or_offered_of_mem_insertAll (h : x ∈ insertAll key xs ys) : x ∈ xs ∨ x ∈ ys := by
  induction ys generalizing xs with
  | nil => exact .inl h
  | cons z ys ih =>
    rcases ih h with h | h
    · rcases mem_insertNew.mp h with h | ⟨-, rfl⟩
      · exact .inl h
      · exact .inr List.mem_cons_self
    · exact .inr (List.mem_cons_of_mem _ h)

/-- Exactly the old and the offered keys are taken afterwards. -/
theorem has_insertAll_iff :
    has key (insertAll key xs ys) k = true ↔ has key xs k = true ∨ ∃ y ∈ ys, key y = k := by
  refine ⟨fun h => ?_, fun h => ?_⟩
  · obtain ⟨x, hx, rfl⟩ := has_iff.mp h
    rcases mem_or_offered_of_mem_insertAll hx with hx | hx
    · exact .inl (has_of_mem hx)
    · exact .inr ⟨x, hx, rfl⟩
  · rcases h with h | ⟨y, hy, rfl⟩
    · exact has_insertAll_of_has h
    · exact has_insertAll_of_offered hy

/-- Whatever is registered later comes behind what is there. -/
theorem prefix_insertAll : xs <+: insertAll key xs ys := by
  induction ys generalizing xs with
  | nil => exact List.prefix_rfl
  | cons y ys ih =>
    have hstep : xs <+: insertNew key xs y := by
      unfold insertNew
      split
      · exact List.prefix_rfl
      · exact List.prefix_append xs [y]
    exact hstep.trans ih

/-- Absorption: entries whose keys are all taken change nothing. -/
theorem insertAll_of_has (h : ∀ y ∈ ys, has key xs (key y) = true) : insertAll key xs ys = xs := by
  induction ys with
  | nil => rfl
  | cons y ys ih =>
    have hy : insertNew key xs y = xs := if_pos (h y List.mem_cons_self)
    rw [insertAll_cons, hy]
    exact ih fun z hz => h z (List.mem_cons_of_mem _ hz)

theorem has_insertNew_iff :
    has key (insertNew key xs y) k = true ↔ has key xs k = true ∨ key y = k := by
  have hone : insertNew key xs y = insertAll key xs [y] := rfl
  rw [hone, has_insertAll_iff]
  simp

/-- If entries of one new key are the same, those with new keys are registered. -/
theorem mem_insertAll_of_consistent
    (h : ∀ y ∈ ys, ∀ z ∈ ys, has key xs (key y) = false → key y = key z → y = z) :
    x ∈ insertAll key xs ys ↔ x ∈ xs ∨ (x ∈ ys ∧ has key xs (key x) = false) := by
  induction ys generalizing xs with
  | nil => simp [insertAll]
  | cons y ys ih =>
    have htail : ∀ z ∈ ys, ∀ w ∈ ys,
        has key (insertNew key xs y) (key z) = false → key z = key w → z = w := by
      intro z hz w hw hnew
      rw [← Bool.not_eq_true, has_insertNew_iff, not_or, Bool.not_eq_true] at hnew
      exact h z (List.mem_cons_of_mem _ hz) w (List.mem_cons_of_mem _ hw) hnew.1
    rw [insertAll_cons, ih htail]
    simp only [mem_insertNew, ← Bool.not_eq_true, has_insertNew_iff, List.mem_cons, not_or]
    constructor
    · rintro ((hx | ⟨hy, rfl⟩) | ⟨hx, hnew, -⟩)
      · exact .inl hx
      · exact .inr ⟨.inl rfl, hy⟩
      · exact .inr ⟨.inr hx, hnew⟩
    · rintro (hx | ⟨rfl | hx, hnew⟩)
      · exact .inl (.inl hx)
      · exact .inl (.inr ⟨hnew, rfl⟩)
      · by_cases hk : key y = key x
        · have hfree : has key xs (key y) = false := by rwa [hk, ← Bool.not_eq_true]
          have hxy : y = x := h y List.mem_cons_self x (List.mem_cons_of_mem _ hx) hfree hk
          subst hxy
          exact .inl (.inr ⟨hnew, rfl⟩)
        · exact .inr ⟨hx, hnew, hk⟩

theorem has_append {zs : List α} :
    has key (xs ++ zs) k = true ↔ has key xs k = true ∨ has key zs k = true := by
  simp only [has_iff, List.mem_append, or_and_right, exists_or]

/-- Entries with different keys are registered in their order, unless their keys are taken. -/
theorem insertAll_eq_append (h : (ys.map key).Nodup) :
    insertAll key xs ys = xs ++ ys.filter fun y => !has key xs (key y) := by
  induction ys generalizing xs with
  | nil => simp [insertAll]
  | cons y ys ih =>
    obtain ⟨hy, hys⟩ := List.nodup_cons.mp h
    cases htaken : has key xs (key y) with
    | true =>
      rw [insertAll_cons, insertNew, if_pos htaken, ih hys, List.filter_cons_of_neg (by simp [htaken])]
    | false =>
      have hother : ∀ z ∈ ys, has key (xs ++ [y]) (key z) = has key xs (key z) := by
        intro z hz
        have hne : key y ≠ key z := fun heq => hy (heq ▸ List.mem_map_of_mem hz)
        rw [Bool.eq_iff_iff, has_append]
        simp [has, Ne.symm hne]
      rw [insertAll_cons, insertNew, htaken, if_neg Bool.false_ne_true, ih hys,
        List.filter_cons_of_pos (by simp [htaken]),
        List.filter_congr fun z hz => by rw [hother z hz], List.append_assoc]
      rfl

/-- An entry whose key is not in a block is registered behind it. -/
theorem insertNew_append {zs : List α} (h : has key xs (key y) = false) :
    insertNew key (xs ++ zs) y = xs ++ insertNew key zs y := by
  have hiff : has key (xs ++ zs) (key y) = has key zs (key y) := by
    rw [Bool.eq_iff_iff, has_append, h]
    simp
  unfold insertNew
  rw [hiff]
  split
  · rfl
  · exact List.append_assoc xs zs [y]

theorem insertAll_append_block {zs : List α} (h : ∀ y ∈ ys, has key xs (key y) = false) :
    insertAll key (xs ++ zs) ys = xs ++ insertAll key zs ys := by
  induction ys generalizing zs with
  | nil => rfl
  | cons y ys ih =>
    rw [insertAll_cons, insertNew_append (h y List.mem_cons_self)]
    exact ih fun z hz => h z (List.mem_cons_of_mem _ hz)

/-- Groups of entries which share no key with each other are registered independently. -/
theorem insertAll_flatten {groups : List (List α)}
    (h : groups.Pairwise fun g g' => ∀ x ∈ g, ∀ y ∈ g', key x ≠ key y) :
    insertAll key [] groups.flatten = groups.flatMap (insertAll key []) := by
  induction groups with
  | nil => rfl
  | cons g groups ih =>
    obtain ⟨hg, hgroups⟩ := List.pairwise_cons.mp h
    have hfresh : ∀ y ∈ groups.flatten, has key (insertAll key [] g) (key y) = false := by
      intro y hy
      obtain ⟨g', hg', hy⟩ := List.mem_flatten.mp hy
      rw [← Bool.not_eq_true, has_insertAll_iff]
      rintro (h | ⟨x, hx, hxy⟩)
      · cases h
      · exact hg g' hg' x hx y hy hxy
    rw [List.flatten_cons, insertAll_append, List.flatMap_cons, ← ih hgroups,
      ← insertAll_append_block hfresh, List.append_nil]

/-- The order in which such groups come does not matter for what is registered. -/
theorem insertAll_flatten_perm {groups groups' : List (List α)} (hp : groups.Perm groups')
    (h : groups.Pairwise fun g g' => ∀ x ∈ g, ∀ y ∈ g', key x ≠ key y) :
    (insertAll key [] groups.flatten).Perm (insertAll key [] groups'.flatten) := by
  have h' := hp.pairwise h fun {_ _} hgg' x hx y hy => Ne.symm (hgg' y hy x hx)
  rw [insertAll_flatten h, insertAll_flatten h']
  exact hp.flatMap_right _

end FirstWins
