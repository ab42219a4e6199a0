import DoocsBackend.Catalogue.Cache

/-! # A concrete choice of the libraries

`collapse` is what `ChimeraTK::RegisterPath` does to a path: repeated separators become
one and a trailing separator is dropped.
-/
namespace DoocsBackend.Catalogue

/-- Drop every separator which is followed by another one or by nothing. -/
def collapse : Text → Text
  | [] => []
  | c :: s => if c = '/' ∧ (s = [] ∨ s.head? = some '/') then collapse s else c :: collapse s

/-- The text of the register path made from a text. -/
def registerPath (s : Text) : Text :=
  if collapse ('/' :: s) = [] then ['/'] else collapse ('/' :: s)

theorem collapse_of_no_separator {f : Text} (h : '/' ∉ f) : collapse f = f := by
  induction f with
  | nil => rfl
  | cons c f ih =>
    rw [List.mem_cons, not_or] at h
    rw [collapse, if_neg (by rintro ⟨rfl, -⟩; exact h.1 rfl), ih h.2]

theorem collapse_leaf {f : Text} (hf : f ≠ []) (h : '/' ∉ f) : collapse ('/' :: f) = '/' :: f := by
  rw [collapse, if_neg, collapse_of_no_separator h]
  rintro ⟨-, h' | h'⟩
  · exact hf h'
  · exact h (List.mem_of_mem_head? h')

/-- Collapsing a path does not look past its last component. -/
theorem collapse_append_leaf {s f : Text} (hf : f ≠ []) (h : '/' ∉ f) :
    collapse (s ++ '/' :: f) = collapse s ++ '/' :: f := by
  induction s with
  | nil => exact collapse_leaf hf h
  | cons c s ih =>
    rw [List.cons_append, collapse, collapse, ih]
    cases s with
    | nil =>
      by_cases hc : c = '/' <;> simp [hc, collapse]
    | cons d s => simp only [List.cons_append, List.head?_cons, reduceCtorEq, false_or]; split <;> rfl

theorem head?_collapse (s : Text) : (collapse s).head? = none ∨ (collapse s).head? = s.head? := by
  induction s with
  | nil => exact .inl rfl
  | cons c s ih =>
    rw [collapse]
    split
    · rename_i h
      rcases h.2 with rfl | hs
      · exact .inl rfl
      · rw [hs] at ih
        rw [List.head?_cons, h.1]
        exact ih
    · exact .inr rfl

theorem collapse_collapse (s : Text) : collapse (collapse s) = collapse s := by
  induction s with
  | nil => rfl
  | cons c s ih =>
    rw [collapse]
    split
    · exact ih
    · rename_i h
      rw [collapse, if_neg, ih]
      rintro ⟨rfl, hs⟩
      refine h ⟨rfl, ?_⟩
      rcases hs with hs | hs
      · cases s with
        | nil => exact .inl rfl
        | cons d s =>
          rw [collapse] at hs
          split at hs
          · rename_i h'; exact .inr (by rw [List.head?_cons, h'.1])
          · cases hs
      · rcases head?_collapse s with h' | h'
        · rw [hs] at h'; cases h'
        · exact .inr (h' ▸ hs)

theorem parentOf_registerPath (s : Text) : parentOf (registerPath s) = collapse ('/' :: s) := by
  unfold registerPath
  split
  · rename_i h; rw [h]; rfl
  · rw [parentOf, if_neg]
    intro h
    have hc := collapse_collapse ('/' :: s)
    rw [h] at hc
    cases hc

theorem head?_registerPath (s : Text) : (registerPath s).head? = some '/' := by
  unfold registerPath
  split
  · rfl
  · rename_i h
    rcases head?_collapse ('/' :: s) with h' | h'
    · exact absurd (List.head?_eq_none_iff.mp h') h
    · exact h'

theorem registerPath_registerPath (s : Text) : registerPath (registerPath s) = registerPath s := by
  have h : collapse ('/' :: registerPath s) = collapse (registerPath s) := by
    rw [collapse, if_pos ⟨rfl, .inr (head?_registerPath s)⟩]
  have h' : collapse (registerPath s) = collapse ('/' :: s) := by
    rw [registerPath]
    split
    · rename_i h; rw [h]; rfl
    · exact collapse_collapse _
  rw [registerPath, h, h', ← registerPath]

theorem registerPath_child (s f : Text) (hf : f ≠ []) (h : '/' ∉ f) :
    registerPath (s ++ '/' :: f) = parentOf (registerPath s) ++ '/' :: f := by
  have hc : collapse ('/' :: (s ++ '/' :: f)) = collapse ('/' :: s) ++ '/' :: f :=
    collapse_append_leaf (s := '/' :: s) hf h
  rw [parentOf_registerPath, registerPath, hc, if_neg (by simp)]

/-- A numbering in which `INT` has the id 1, as in the documented cache file. -/
def numberedTypes : List DoocsType :=
  [.null, .int, .float, .string, .bool, .double, .text, .iiii, .ifff, .ustr, .image, .spectrum,
   .gspectrum, .short, .ushort, .uint, .long, .ulong, .aBool, .aShort, .aUshort, .aInt, .aUint,
   .aLong, .aUlong, .aFloat, .aDouble, .aByte]

/-- `ChimeraTK::AccessModeFlags::serialize`, a comma separated list. -/
def serializeFlags (flags : AccessModeFlags) : Text :=
  match flags.raw, flags.waitForNewData with
  | false, false => []
  | true, false => "raw".toList
  | false, true => "wait_for_new_data".toList
  | true, true => "raw,wait_for_new_data".toList

def deserializeFlags (s : Text) : Except Failure AccessModeFlags :=
  if s = [] then .ok {}
  else if s = "raw".toList then .ok { raw := true }
  else if s = "wait_for_new_data".toList then .ok { waitForNewData := true }
  else if s = "raw,wait_for_new_data".toList then .ok { raw := true, waitForNewData := true }
  else .error (.logicError "Unknown access mode flag".toList)

/-- Libraries with this numbering whose files hold the document tree itself. -/
def plainLibraries : CacheLibraries where
  type z := numberedTypes.getD z.toNat .other
  id t := numberedTypes.idxOf t
  type_id t _ := by cases t <;> rfl
  typeString _ := []
  path := registerPath
  path_path := registerPath_registerPath
  path_child := registerPath_child
  serialize := serializeFlags
  deserialize := deserializeFlags
  deserialize_serialize flags := by rcases flags with ⟨_ | _, _ | _⟩ <;> rfl
  File := XmlNode
  write document := document
  parse file := some file
  parse_write _ := rfl

end DoocsBackend.Catalogue
