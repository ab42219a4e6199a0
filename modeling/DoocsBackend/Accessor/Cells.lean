import DoocsBackend.Accessor.PreWrite

/-! # The cells of a property

A numeric array, an IIII and an IFFF are rows of numbered cells, and an accessor stands for a
range of them. Reading takes the cells of the range from a reply.
-/
namespace DoocsBackend.Accessor

/-- A number of one of the C++ types. -/
abbrev Number := (c : CType) × c.Val

/-- Where a field of an IFFF is found among the four cells. -/
def Field.index : Field → ℕ
  | .i => 0
  | .f1 => 1
  | .f2 => 2
  | .f3 => 3

namespace Payload

def cells : Payload → List Number
  | .array t xs => xs.map (Sigma.mk t.elem)
  | .iiii i1 i2 i3 i4 => [i1, i2, i3, i4].map (Sigma.mk CType.int32)
  | .ifff i1 f1 f2 f3 => [⟨.int32, i1⟩, ⟨.float, f1⟩, ⟨.float, f2⟩, ⟨.float, f3⟩]
  | _ => []

/-- The C++ type of a cell. -/
def cellType (p : Payload) (i : ℕ) : CType :=
  match p with
  | .array t _ => t.elem
  | .ifff .. => if i = 0 then .int32 else .float
  | _ => .int32

end Payload

section Accessors
variable {U V : UserType}

/-- The accessor class is the one for properties of the type. -/
def Kind.fits (k : Kind U) (type : DoocsType) : Prop :=
  match k with
  | .numeric => ∃ t : ArrayType, t.type = type
  | .iiii => type = .iiii
  | .ifff _ => type = .ifff
  | _ => False

/-- Numbers and fields are treated differently. -/
theorem Kind.cases_of_fits {k : Kind U} {type : DoocsType} (h : k.fits type) :
    (k.field? = none ∧ (k = .numeric ∨ k = .iiii)) ∨ ∃ field, k = .ifff field := by
  cases k with
  | numeric => exact .inl ⟨rfl, .inl rfl⟩
  | iiii => exact .inl ⟨rfl, .inr rfl⟩
  | ifff field => exact .inr ⟨field, rfl⟩
  | string | image | eventId | timeStamp => cases h

/-- The first cell an accessor stands for. -/
def RegisterAccessor.first (a : RegisterAccessor U) : ℕ :=
  match a.kind with
  | .ifff field => field.index
  | _ => a.elementOffset

def InRange (a : RegisterAccessor U) (i : ℕ) : Prop := a.first ≤ i ∧ i < a.first + a.nElements

/-- The accessors stand for different cells. -/
def Apart (a : RegisterAccessor U) (b : RegisterAccessor V) : Prop :=
  ∀ i, ¬ (InRange a i ∧ InRange b i)

end Accessors

theorem ArrayType.type_ne_null (t : ArrayType) : t.type ≠ .null := by
  cases t <;> simp [ArrayType.type]

namespace Payload
variable {p q : Payload}

theorem array_of_type {t : ArrayType} (h : p.type = t.type) : ∃ xs, p = .array t xs := by
  cases p with
  | array s xs =>
    obtain rfl : s = t := by cases s <;> cases t <;> first | rfl | cases h
    exact ⟨xs, rfl⟩
  | scalar c v => cases c <;> cases t <;> cases h
  | raw s n => cases s <;> cases t <;> cases h
  | null | iiii | ifff | text | string | image => cases t <;> cases h

theorem iiii_of_type (h : p.type = .iiii) : ∃ i1 i2 i3 i4, p = .iiii i1 i2 i3 i4 := by
  cases p with
  | iiii i1 i2 i3 i4 => exact ⟨i1, i2, i3, i4, rfl⟩
  | array s xs => cases s <;> cases h
  | scalar c v => cases c <;> cases h
  | raw s n => cases s <;> cases h
  | null | ifff | text | string | image => cases h

theorem ifff_of_type (h : p.type = .ifff) : ∃ i1 f1 f2 f3, p = .ifff i1 f1 f2 f3 := by
  cases p with
  | ifff i1 f1 f2 f3 => exact ⟨i1, f1, f2, f3, rfl⟩
  | array s xs => cases s <;> cases h
  | scalar c v => cases c <;> cases h
  | raw s n => cases s <;> cases h
  | null | iiii | text | string | image => cases h

variable {U : UserType} {k : Kind U}

/-- A content with cells, for case distinctions. -/
theorem eq_of_fits (h : k.fits p.type) :
    (k = .numeric ∧ ∃ t xs, p = .array t xs) ∨
      (k = .iiii ∧ ∃ i1 i2 i3 i4, p = .iiii i1 i2 i3 i4) ∨
      ∃ field, k = .ifff field ∧ ∃ i1 f1 f2 f3, p = .ifff i1 f1 f2 f3 := by
  cases k with
  | numeric =>
    obtain ⟨t, ht⟩ := h
    obtain ⟨xs, hp⟩ := array_of_type ht.symm
    exact .inl ⟨rfl, t, xs, hp⟩
  | iiii => exact .inr (.inl ⟨rfl, iiii_of_type h⟩)
  | ifff field => exact .inr (.inr ⟨field, rfl, ifff_of_type h⟩)
  | string | image | eventId | timeStamp => cases h

theorem length_cells (h : k.fits p.type) : p.cells.length = p.length := by
  obtain ⟨-, t, xs, rfl⟩ | ⟨-, i1, i2, i3, i4, rfl⟩ | ⟨field, -, i1, f1, f2, f3, rfl⟩ := eq_of_fits h
  · exact List.length_map _
  · rfl
  · rfl

theorem cellType_congr (h : k.fits p.type) (hpq : p.type = q.type) : p.cellType = q.cellType := by
  obtain ⟨-, t, xs, rfl⟩ | ⟨-, i1, i2, i3, i4, rfl⟩ | ⟨field, -, i1, f1, f2, f3, rfl⟩ := eq_of_fits h
  · obtain ⟨ys, rfl⟩ := array_of_type hpq.symm
    rfl
  · obtain ⟨j1, j2, j3, j4, rfl⟩ := iiii_of_type hpq.symm
    rfl
  · obtain ⟨j1, g1, g2, g3, rfl⟩ := ifff_of_type hpq.symm
    rfl

/-- A content is known by its type and its cells. -/
theorem ext_cells (h : k.fits p.type) (hpq : p.type = q.type) (hcells : p.cells = q.cells) :
    p = q := by
  obtain ⟨-, t, xs, rfl⟩ | ⟨-, i1, i2, i3, i4, rfl⟩ | ⟨field, -, i1, f1, f2, f3, rfl⟩ := eq_of_fits h
  · obtain ⟨ys, rfl⟩ := array_of_type hpq.symm
    rw [List.map_injective_iff.mpr sigma_mk_injective hcells]
  · obtain ⟨j1, j2, j3, j4, rfl⟩ := iiii_of_type hpq.symm
    have hmembers := List.map_injective_iff.mpr sigma_mk_injective hcells
    cases hmembers
    rfl
  · obtain ⟨j1, g1, g2, g3, rfl⟩ := ifff_of_type hpq.symm
    cases hcells
    rfl

theorem numbers_array (t : ArrayType) (xs : List t.elem.Val) :
    (array t xs).numbers = some ⟨t.elem, xs⟩ := by
  cases t <;> rfl

end Payload

section Read
variable {C : Conversions} {M : ImageLayout} {U : UserType} {a : RegisterAccessor U} {p q : Payload}

/-- The user value of a number. -/
def Conversions.toUser (C : Conversions) (U : UserType) (x : Number) : U.Val :=
  C.numericToUserType U x.1 x.2

/-- A numeric read, whichever way the numbers are reached. -/
theorem numericValues_of_numbers {c : CType} {xs : List c.Val} (hU : U ≠ .void)
    (hn : p.type ≠ .null) (h : p.numbers = some ⟨c, xs⟩)
    (hl : sizeAdd a.nElements a.elementOffset ≤ p.length) :
    numericValues C a p =
      (slice xs a.elementOffset a.nElements).map (List.map (C.numericToUserType U c)) := by
  rw [numericValues, if_neg hU, if_neg hn, if_neg (by omega)]
  cases hf : p.fastArray with
  | some pair =>
    obtain ⟨d, ys⟩ := pair
    rw [Payload.numbers, hf] at h
    cases h
    have hc : copyFromSource C U c = C.numericToUserType U c := funext (copyFromSource_eq C U c)
    rw [← hc]
  | none =>
    rw [Payload.numbers, hf] at h
    have he : p.elements = some ⟨c, xs⟩ := h
    rw [he]

theorem postReadValues_numbers (h : a.kind = .numeric ∨ a.kind = .iiii) (dst : EqData) :
    postReadValues C M a dst = numericValues C a dst.payload := by
  obtain ⟨kind, _⟩ := a
  obtain rfl | rfl : kind = .numeric ∨ kind = .iiii := h
  · rfl
  · rfl

theorem postReadValues_ifff {field : Field} (h : a.kind = .ifff field) (dst : EqData) :
    postReadValues C M a dst = fieldValues C U field dst.payload := by
  obtain ⟨kind, _⟩ := a
  obtain rfl : kind = .ifff field := h
  rfl

theorem first_ifff {field : Field} (h : a.kind = .ifff field) : a.first = field.index := by
  rw [RegisterAccessor.first, h]

theorem first_numbers (h : a.kind = .numeric ∨ a.kind = .iiii) : a.first = a.elementOffset := by
  rw [RegisterAccessor.first]
  obtain h | h := h <;> rw [h]

/-- The numbers of an array or an IIII are its cells. -/
theorem numbers_of_fits (h : a.kind = .numeric ∨ a.kind = .iiii) (hfits : a.kind.fits p.type) :
    ∃ c xs, p.numbers = some ⟨c, xs⟩ ∧ p.cells = xs.map (Sigma.mk c) ∧ p.type ≠ .null := by
  obtain ⟨-, t, xs, rfl⟩ | ⟨-, i1, i2, i3, i4, rfl⟩ | ⟨field, hf, -⟩ := Payload.eq_of_fits hfits
  · exact ⟨t.elem, xs, Payload.numbers_array t xs, rfl, t.type_ne_null⟩
  · exact ⟨.int32, [i1, i2, i3, i4], rfl, rfl, by simp [Payload.type]⟩
  · rw [hf] at h
    obtain h | h := h <;> cases h

theorem slice_map {c : CType} {xs : List c.Val} {o n : ℕ} :
    (slice xs o n).map (List.map (C.numericToUserType U c)) =
      if o + n ≤ xs.length then
        .ok ((((xs.map (Sigma.mk c)).drop o).take n).map (C.toUser U))
      else .error .undefined := by
  unfold slice
  split
  · simp only [Except.map, ← List.map_drop, ← List.map_take, List.map_map]
    rfl
  · rfl

/-- An IFFF field has one cell, which is there. -/
theorem fieldValues_cells {field : Field} (h : a.kind = .ifff field) (hn : a.nElements = 1)
    (hfits : a.kind.fits p.type) :
    a.first + a.nElements ≤ p.length ∧
      fieldValues C U field p = .ok (((p.cells.drop a.first).take a.nElements).map (C.toUser U)) := by
  rw [h] at hfits
  obtain ⟨i1, f1, f2, f3, rfl⟩ := Payload.ifff_of_type hfits
  rw [first_ifff h, hn]
  cases field with
  | i | f1 | f2 | f3 => exact ⟨by simp [Field.index, Payload.length], rfl⟩

/-- A read which succeeds has found the range and taken its cells. -/
theorem postReadValues_ok {dst : EqData} {values : List U.Val}
    (hfits : a.kind.fits dst.payload.type) (hn : a.kind.field?.isSome → a.nElements = 1)
    (hvoid : U = .void → a.kind.field?.isSome) (h : postReadValues C M a dst = .ok values) :
    a.first + a.nElements ≤ dst.payload.length ∧
      values = ((dst.payload.cells.drop a.first).take a.nElements).map (C.toUser U) := by
  obtain ⟨hf, hk⟩ | ⟨field, hk⟩ := Kind.cases_of_fits hfits
  · have hU : U ≠ .void := fun hU => by simpa [hf] using hvoid hU
    obtain ⟨c, xs, hnumbers, hcells, hnull⟩ := numbers_of_fits hk hfits
    rw [postReadValues_numbers hk] at h
    obtain ⟨hl, -⟩ := numericValues_ok hU hnull h
    rw [numericValues_of_numbers hU hnull hnumbers hl, slice_map, ← hcells] at h
    have hlength := Payload.length_cells hfits
    rw [hcells, List.length_map] at hlength
    split at h
    · cases h
      rw [first_numbers hk]
      exact ⟨by omega, rfl⟩
    · cases h
  · obtain ⟨hl, hv⟩ := fieldValues_cells (C := C) hk (hn (by rw [hk]; rfl)) hfits
    rw [postReadValues_ifff hk, hv] at h
    cases h
    exact ⟨hl, rfl⟩

/-- A read of a range which is there succeeds. -/
theorem postReadValues_eq {dst : EqData} (hfits : a.kind.fits dst.payload.type)
    (hn : a.kind.field?.isSome → a.nElements = 1) (hvoid : U = .void → a.kind.field?.isSome)
    (hl : a.first + a.nElements ≤ dst.payload.length) (hlt : dst.payload.length < 2 ^ 64) :
    postReadValues C M a dst =
      .ok (((dst.payload.cells.drop a.first).take a.nElements).map (C.toUser U)) := by
  obtain ⟨hf, hk⟩ | ⟨field, hk⟩ := Kind.cases_of_fits hfits
  · have hU : U ≠ .void := fun hU => by simpa [hf] using hvoid hU
    obtain ⟨c, xs, hnumbers, hcells, hnull⟩ := numbers_of_fits hk hfits
    rw [first_numbers hk] at hl ⊢
    have hsum : sizeAdd a.nElements a.elementOffset ≤ dst.payload.length := by
      rw [sizeAdd, Nat.mod_eq_of_lt (by omega)]
      omega
    have hlength := Payload.length_cells hfits
    rw [hcells, List.length_map] at hlength
    rw [postReadValues_numbers hk, numericValues_of_numbers hU hnull hnumbers hsum, slice_map,
      ← hcells, if_pos (by omega)]
  · rw [postReadValues_ifff hk]
    exact (fieldValues_cells hk (hn (by rw [hk]; rfl)) hfits).2

theorem postReadValues_void (h : a.kind = .numeric ∨ a.kind = .iiii) (hU : U = .void)
    (dst : EqData) : postReadValues C M a dst = .ok [] := by
  rw [postReadValues_numbers h, numericValues, if_pos hU]

end Read

end DoocsBackend.Accessor
