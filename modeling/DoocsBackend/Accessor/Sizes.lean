import DoocsBackend.Accessor.PartialWrite

/-! # The sizes of accessors

`initialise` and the length checks of reads and writes compute with `size_t`, where the sum of
length and offset and the length of an image body may wrap. DOOCS takes lengths as `int`.
-/
namespace DoocsBackend.Accessor
open Catalogue (DoocsBackendRegisterInfo)

/-- A successful `initialise`, with the length and type it has found. The length is a `size_t`. -/
structure Initialisation (M : ImageLayout) (typeOf : ℤ → DoocsType) (U : UserType) where
  kind : Kind U
  args : Arguments
  info : DoocsBackendRegisterInfo
  useZMQ : Bool
  shape : ℕ × DoocsType
  accessor : RegisterAccessor U
  found : actualShape M typeOf args info = .ok shape
  succeeded : initialise M typeOf kind args info useZMQ = .ok accessor
  length_lt : shape.1 < 2 ^ 64

/-- In addition, neither `length` nor `set` changes the type of an object. -/
structure TypedEqData extends EqDataLibrary where
  type_setLength : ∀ n p, (setLength n p).type = p.type
  type_set : ∀ c v p, (set c v p).type = p.type

section Definitions
variable {M : ImageLayout} {typeOf : ℤ → DoocsType} {U : UserType}

/-- The data object `src` of the accessor after any number of writes. -/
inductive Source (K : TypedEqData) (C : Conversions) (a : RegisterAccessor U) (actualLength : ℕ) :
    Payload → Prop where
  | initialised : Source K C a actualLength
      (K.setLength (toInt actualLength) (.blank 0 a.src.type))
  | written {s : WriteState} {src src' : Payload} {buffer : List U.Val}
      (before : Source K C a actualLength src) (length : buffer.length = a.bufferLength)
      (ok : doPreWrite K.toEqDataLibrary C a s src buffer = .ok src') :
      Source K C a actualLength src'

/-- The object numbers are written to, where the server answers with `dst`. -/
def writeTarget (K : TypedEqData) (a : RegisterAccessor U) (src dst : Payload) : Payload :=
  if a.isPartial then lengthen K.toEqDataLibrary a dst else src

/-- All sizes are what they are taken for. -/
structure SizesAreSound (C : Conversions) (x : Initialisation M typeOf U) : Prop where
  range : x.shape.2 ≠ .image → x.accessor.elementOffset + x.accessor.nElements ≤ x.shape.1
  bufferLength : x.shape.2 ≠ .image → x.accessor.bufferLength = x.accessor.nElements
  isPartial : x.shape.2 ≠ .image → (x.accessor.isPartial = false ↔
    x.accessor.elementOffset = 0 ∧ x.accessor.nElements = x.shape.1)
  header : x.shape.2 = .image → M.headerSize ≤ x.shape.1
  /-- What passes the length check of a read has the range of the accessor. -/
  read : x.shape.2 ≠ .image → ∀ dst : Payload,
    sizeAdd x.accessor.nElements x.accessor.elementOffset ≤ dst.length →
      x.accessor.elementOffset + x.accessor.nElements ≤ dst.length
  /-- The array a write goes to has the range of the accessor. -/
  write : x.shape.2 ≠ .image → x.kind = .numeric → U ≠ .void → ∀ (K : TypedEqData) src,
    Source K C x.accessor x.shape.1 src → ∀ dst t xs,
      writeTarget K x.accessor src dst = .array t xs →
        x.accessor.elementOffset + x.accessor.nElements ≤ xs.length

/-- No sum of a length and an offset wraps, and those which become an `int` fit into it; there is room
for the header of an image. -/
structure SizesFit (x : Initialisation M typeOf U) : Prop where
  sum : x.shape.2 ≠ .image → wordsOf x.args x.shape.1 + x.args.wordOffsetInRegister < 2 ^ 64
  header : x.shape.2 = .image → M.headerSize ≤ x.shape.1
  int : x.shape.2 ≠ .image → x.kind = .numeric → U ≠ .void →
    ¬ (wordsOf x.args x.shape.1 = x.shape.1 ∧ x.args.wordOffsetInRegister = 0) ∨
      (∃ t : ArrayType, t.type = x.shape.2) →
    wordsOf x.args x.shape.1 + x.args.wordOffsetInRegister < 2 ^ 31

end Definitions

section Sufficient
variable {C : Conversions} {M : ImageLayout} {typeOf : ℤ → DoocsType} {U : UserType}
  {x : Initialisation M typeOf U} {K : TypedEqData}

theorem Initialisation.accessor_eq (x : Initialisation M typeOf U) :
    x.accessor = initialised M x.kind x.args x.useZMQ x.shape ∧
      (sizeAdd (wordsOf x.args x.shape.1) x.args.wordOffsetInRegister ≤ x.shape.1 ∨
        x.shape.2 = .image) := by
  obtain ⟨shape, hshape, hr, -, ha⟩ := initialise_ok x.succeeded
  obtain rfl : shape = x.shape := by
    have hfound := x.found
    rw [hshape] at hfound
    cases hfound
    rfl
  exact ⟨ha, hr⟩

theorem Initialisation.nElements_eq (x : Initialisation M typeOf U) :
    x.accessor.nElements = wordsOf x.args x.shape.1 := by
  rw [x.accessor_eq.1]
  rfl

theorem Initialisation.elementOffset_eq (x : Initialisation M typeOf U) :
    x.accessor.elementOffset = x.args.wordOffsetInRegister := by
  rw [x.accessor_eq.1]
  rfl

theorem Initialisation.kind_eq (x : Initialisation M typeOf U) : x.accessor.kind = x.kind := by
  rw [x.accessor_eq.1]
  rfl

theorem Initialisation.type_eq (x : Initialisation M typeOf U) :
    x.accessor.src.type = x.shape.2 := by
  rw [x.accessor_eq.1]
  exact Payload.type_blank _ _

/-- An accessor is partial unless it is for everything. -/
theorem Initialisation.isPartial_iff (x : Initialisation M typeOf U) :
    x.accessor.isPartial = false ↔
      x.accessor.elementOffset = 0 ∧ x.accessor.nElements = x.shape.1 := by
  rw [x.nElements_eq, x.elementOffset_eq, and_comm, x.accessor_eq.1]
  exact isPartial_initialised

theorem type_writeNumbers {a : RegisterAccessor U} {buffer : List U.Val} {p S : Payload}
    (h : writeNumbers K.toEqDataLibrary C a buffer p = .ok S) : S.type = p.type := by
  cases p with
  | array t xs =>
    rw [writeNumbers] at h
    split at h
    · cases hc : copyToTarget C a t.elem buffer xs with
      | error e =>
        rw [hc] at h
        cases h
      | ok ys =>
        rw [hc] at h
        cases h
        rfl
    · split at h
      · split at h
        · cases h
          exact K.type_set _ _ _
        · cases h
      · split at h
        · cases h
          rfl
        · cases h
  | _ =>
    simp only [writeNumbers] at h
    split at h
    · split at h
      · cases h
        exact K.type_set _ _ _
      · cases h
    · cases h

theorem type_lengthen {a : RegisterAccessor U} {p : Payload} :
    (lengthen K.toEqDataLibrary a p).type = p.type := by
  unfold lengthen
  split
  · exact K.type_setLength _ _
  · rfl

/-- A write of a whole array is one to `src`. -/
theorem writeNumbers_of_doPreWrite {a : RegisterAccessor U} {s : WriteState} {src src' : Payload}
    {buffer : List U.Val} (hk : a.kind = .numeric) (hU : U ≠ .void) (hp : a.isPartial = false)
    (h : doPreWrite K.toEqDataLibrary C a s src buffer = .ok src') :
    writeNumbers K.toEqDataLibrary C a buffer src = .ok src' := by
  unfold doPreWrite at h
  cases hc : checkWriteable a s with
  | error e =>
    rw [hc] at h
    cases h
  | ok u =>
    rw [hc, ok_bind, kindPreWrite_numeric hk, numericPreWrite, if_neg hU, hp] at h
    exact h

/-- The data object of an accessor for a whole property has the type and the length found. -/
theorem Source.of_whole {a : RegisterAccessor U} {actualLength : ℕ} {src : Payload}
    (h : Source K C a actualLength src) (hk : a.kind = .numeric) (hU : U ≠ .void)
    (hp : a.isPartial = false) : src.type = a.src.type ∧ ∀ t : ArrayType, a.src.type = t.type →
      0 < actualLength → actualLength < 2 ^ 31 → ∃ xs, src = .array t xs ∧ xs.length = actualLength := by
  induction h with
  | initialised =>
    refine ⟨(K.type_setLength _ _).trans (Payload.type_blank _ _), fun t ht _ hlt => ?_⟩
    rw [ht, blank_array, toInt_of_lt hlt, K.setLength_array t _ _ (Nat.zero_le _) hlt]
    exact ⟨_, rfl, by simp⟩
  | written before length ok ih =>
    have hwrite := writeNumbers_of_doPreWrite hk hU hp ok
    refine ⟨(type_writeNumbers hwrite).trans ih.1, fun t ht hpos hlt => ?_⟩
    obtain ⟨xs, rfl, hxs⟩ := ih.2 t ht hpos hlt
    obtain ⟨ys, rfl, hys⟩ := writeNumbers_array_ok (by omega) hwrite
    exact ⟨ys, rfl, hys.trans hxs⟩

/-- What has been read is made as long as the range where the sum is an `int`. -/
theorem length_of_lengthen {a : RegisterAccessor U} {dst : Payload} {t : ArrayType}
    {xs : List t.elem.Val} (hsum : a.nElements + a.elementOffset < 2 ^ 31)
    (h : lengthen K.toEqDataLibrary a dst = .array t xs) :
    a.elementOffset + a.nElements ≤ xs.length := by
  have htype : dst.type = t.type := by
    rw [← type_lengthen (K := K) (a := a), h]
    rfl
  obtain ⟨ys, rfl⟩ := Payload.array_of_type htype
  have hadd : sizeAdd a.nElements a.elementOffset = a.nElements + a.elementOffset :=
    Nat.mod_eq_of_lt (by omega)
  obtain ⟨zs, hzs, hlength⟩ := length_lengthen (K := K.toEqDataLibrary) (a := a) ys (by omega)
  rw [h] at hzs
  cases hzs
  omega

theorem sizesAreSound_of_sizesFit (h : SizesFit x) : SizesAreSound C x := by
  have hn := x.nElements_eq
  have ho := x.elementOffset_eq
  have hsum (himage : x.shape.2 ≠ .image) :
      sizeAdd x.accessor.nElements x.accessor.elementOffset =
        x.accessor.nElements + x.accessor.elementOffset := by
    have := h.sum himage
    rw [sizeAdd, Nat.mod_eq_of_lt (by omega)]
  constructor
  · intro himage
    have := x.accessor_eq.2.resolve_right himage
    rw [← hn, ← ho, hsum himage] at this
    omega
  · intro _
    rw [x.accessor_eq.1]
    rfl
  · exact fun _ => x.isPartial_iff
  · exact h.header
  · intro himage dst hlength
    rw [hsum himage] at hlength
    omega
  · intro himage hk hU K src hsrc dst t xs htarget
    have hint := h.int himage hk hU
    rw [← hn, ← ho] at hint
    unfold writeTarget at htarget
    split at htarget
    · rename_i hp
      have hnot : ¬ (x.accessor.nElements = x.shape.1 ∧ x.accessor.elementOffset = 0) := by
        intro hall
        have := x.isPartial_iff.mpr hall.symm
        rw [hp] at this
        cases this
      exact length_of_lengthen (hint (.inl hnot)) htarget
    · rename_i hp
      rw [Bool.not_eq_true] at hp
      obtain ⟨hzero, hall⟩ := x.isPartial_iff.mp hp
      obtain ⟨hsame, harray⟩ := hsrc.of_whole (x.kind_eq.trans hk) hU hp
      rw [htarget] at hsame
      have ht : t.type = x.shape.2 := hsame.trans x.type_eq
      have hlt := hint (.inr ⟨t, ht⟩)
      by_cases hpos : 0 < x.shape.1
      · obtain ⟨ys, hys, hlength⟩ := harray t (x.type_eq.trans ht.symm) hpos (by omega)
        rw [htarget] at hys
        cases hys
        omega
      · omega

end Sufficient

/-- Data objects which change only where something is defined keep their types. -/
def plainTypedEqData : TypedEqData where
  toEqDataLibrary := plainEqData
  type_setLength n p := by
    cases p with
    | array t xs =>
      simp only [plainEqData]
      split <;> rfl
    | _ => rfl
  type_set c v p := by
    cases p with
    | scalar d w =>
      simp only [plainEqData]
      split
      · exact congrArg CType.scalarType ‹c = d›
      · rfl
    | _ => rfl

section Necessary
variable {C : Conversions} {M : ImageLayout} {typeOf : ℤ → DoocsType} {U : UserType}
  {x : Initialisation M typeOf U}

/-- A length which does not fit into an `int` is not reached. -/
theorem plainEqData_setLength {n : ℕ} (hn : 2 ^ 31 ≤ n) (t : ArrayType) :
    ∃ ys, plainEqData.setLength (toInt n) (.array t []) = .array t ys ∧ ys.length < n := by
  simp only [plainEqData]
  split
  · rename_i h
    refine ⟨_, rfl, ?_⟩
    rw [List.length_rightpad, List.length_take]
    have : (toInt n).toNat < n := by omega
    simpa using this
  · exact ⟨[], rfl, by rw [List.length_nil]; omega⟩

/-- An array which is read is not made long enough. -/
theorem exists_short_lengthen {a : RegisterAccessor U} (hlong : 2 ^ 31 ≤ a.nElements + a.elementOffset)
    (hlt : a.nElements + a.elementOffset < 2 ^ 64) :
    ∃ ys, lengthen plainEqData a (.array .aInt []) = .array .aInt ys ∧
      ys.length < a.nElements + a.elementOffset := by
  have hsum : sizeAdd a.nElements a.elementOffset = a.nElements + a.elementOffset :=
    Nat.mod_eq_of_lt hlt
  rw [lengthen, hsum, if_pos (by simp only [Payload.length, List.length_nil]; omega)]
  exact plainEqData_setLength hlong .aInt

/-- An array which is to be written as a whole has not been made long enough. -/
theorem exists_short_source (actualLength : ℕ) {type : DoocsType} {t : ArrayType}
    (hlong : 2 ^ 31 ≤ actualLength) (ht : type = t.type) :
    ∃ ys, plainEqData.setLength (toInt actualLength) (.blank 0 type) = .array t ys ∧
      ys.length < actualLength := by
  rw [ht, blank_array]
  exact plainEqData_setLength hlong t

theorem sizesFit_of_sizesAreSound (h : SizesAreSound C x) : SizesFit x := by
  have hn := x.nElements_eq
  have ho := x.elementOffset_eq
  have hlt := x.length_lt
  have hpartial : x.accessor.isPartial = false ↔
      wordsOf x.args x.shape.1 = x.shape.1 ∧ x.args.wordOffsetInRegister = 0 := by
    rw [x.isPartial_iff, hn, ho, and_comm]
  refine ⟨fun himage => ?_, h.header, fun himage hk hU hwrites => ?_⟩
  · have := h.range himage
    omega
  · by_contra hlong
    have hrange := h.range himage
    have hwrite := h.write himage hk hU plainTypedEqData _ .initialised
    by_cases hwhole : wordsOf x.args x.shape.1 = x.shape.1 ∧ x.args.wordOffsetInRegister = 0
    · obtain ⟨t, ht⟩ := hwrites.resolve_left (not_not.mpr hwhole)
      obtain ⟨ys, hys, hlength⟩ :=
        exists_short_source x.shape.1 (by omega) (x.type_eq.trans ht.symm)
      have := hwrite .null t ys (by rw [writeTarget, hpartial.mpr hwhole]; exact hys)
      omega
    · have hp : x.accessor.isPartial = true := by
        rw [← Bool.not_eq_false]
        exact mt hpartial.mp hwhole
      obtain ⟨ys, hys, hlength⟩ := exists_short_lengthen (a := x.accessor) (by omega) (by omega)
      have := hwrite (.array .aInt []) .aInt ys (by rw [writeTarget, if_pos hp]; exact hys)
      omega

end Necessary

/-- All sizes are sound exactly if no sum of length and offset wraps, those which become an `int` fit
into it, and the length of an image includes its header. -/
theorem sizes_are_sound_iff (C : Conversions) {M : ImageLayout} {typeOf : ℤ → DoocsType}
    {U : UserType} (x : Initialisation M typeOf U) : SizesAreSound C x ↔ SizesFit x :=
  ⟨sizesFit_of_sizesAreSound, sizesAreSound_of_sizesFit⟩

theorem wrapping_lt : 2 ^ 64 - 1 < 2 ^ 64 := by decide

theorem ten_lt : 10 < 2 ^ 64 := by decide

/-- One element of an array of ten, at the largest offset. -/
def wrappingArguments : Arguments where
  path := "FACILITY/DEVICE/LOCATION/A".toList
  numberOfWords := 1
  wordOffsetInRegister := 2 ^ 64 - 1
  flags := {}
  info := some ⟨"/LOCATION/A".toList, 10, Catalogue.DoocsBackendRegisterCatalogue.signedInteger 11,
    {}, Catalogue.plainLibraries.id .aInt, true, true⟩
  isOpen := true
  rc := .ok
  dst := .array .aInt (List.replicate 10 (0 : Int32))
  attachError := none
  numberOfWords_lt := Arguments.one_lt
  wordOffset_lt := wrapping_lt

def wrappingInitialisation : Initialisation plainImageLayout Catalogue.plainLibraries.type .int32 where
  kind := .numeric
  args := wrappingArguments
  info := ⟨"/LOCATION/A".toList, 10, Catalogue.DoocsBackendRegisterCatalogue.signedInteger 11, {},
    Catalogue.plainLibraries.id .aInt, true, true⟩
  useZMQ := false
  shape := (10, .aInt)
  accessor := initialised plainImageLayout .numeric wrappingArguments false (10, .aInt)
  found := rfl
  succeeded := rfl
  length_lt := ten_lt

/-- The sum of length and offset is 0, and the element far behind the end of the array. -/
theorem not_sizes_are_sound : ¬ SizesAreSound plainConversions wrappingInitialisation := by
  intro h
  exact absurd (h.range (by decide)) (by decide)

end DoocsBackend.Accessor
