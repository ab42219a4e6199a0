import DoocsBackend.Accessor.PartialWrite

/-! # Copies through a pointer and element access

Arrays of some types are copied through a pointer. The loops over `dataGet` and over `set` with an
index, which all other types go through, would do the same for them, were it not for `A_BOOL`: its
elements are of type `short`, but accessed as `bool`.
-/
namespace DoocsBackend.Accessor

/-- The C++ type `callForDoocsType` selects. -/
def ArrayType.accessType : ArrayType → CType
  | .aBool => .bool
  | .aShort => .int16
  | .aUshort => .uint16
  | .aInt => .int32
  | .aUint => .uint32
  | .aLong => .int64
  | .aUlong => .uint64
  | .spectrum | .gspectrum | .aFloat => .float
  | .aDouble => .double

theorem callForDoocsType_type (t : ArrayType) : callForDoocsType t.type = some t.accessType := by
  cases t <;> rfl

/-- The `bool` a `short` converts to. -/
def boolOfShort (v : Int16) : Bool := decide (v ≠ 0)

/-- The `short` a `bool` converts to. -/
def shortOfBool (b : Bool) : Int16 := if b then 1 else 0

/-- What `dataGet` returns for an element. -/
def ArrayType.dataGet : (t : ArrayType) → t.elem.Val → t.accessType.Val
  | .aBool, v => boolOfShort v
  | .aShort, v | .aUshort, v | .aInt, v | .aUint, v | .aLong, v | .aUlong, v | .spectrum, v
  | .gspectrum, v | .aFloat, v | .aDouble, v => v

/-- What `set` stores for a number. -/
def ArrayType.stored : (t : ArrayType) → t.accessType.Val → t.elem.Val
  | .aBool, b => shortOfBool b
  | .aShort, v | .aUshort, v | .aInt, v | .aUint, v | .aLong, v | .aUlong, v | .spectrum, v
  | .gspectrum, v | .aFloat, v | .aDouble, v => v

/-- Every element is the same as a `bool`, except for the elements of an `A_BOOL` which are neither
0 nor 1. -/
def ArrayType.IsFaithful : (t : ArrayType) → t.elem.Val → Prop
  | .aBool, (v : Int16) => v = 0 ∨ v = 1
  | .aShort, _ | .aUshort, _ | .aInt, _ | .aUint, _ | .aLong, _ | .aUlong, _ | .spectrum, _
  | .gspectrum, _ | .aFloat, _ | .aDouble, _ => True

/-- The numeric user types. -/
def UserType.isNumeric : UserType → Bool
  | .string | .void => false
  | _ => true

/-- Conversions which treat a `bool` like the number 0 or 1. A user type other than `Boolean` tells
1 from all other small numbers. -/
structure NumberConversions extends Conversions where
  numericToUserType_bool : ∀ U, U.isNumeric = true → ∀ b : Bool,
    numericToUserType U .bool b = numericToUserType U .int16 (shortOfBool b)
  numericToUserType_one : ∀ U, U.isNumeric = true → U ≠ .boolean → ∀ v : Int16,
    numericToUserType U .int16 v = numericToUserType U .int16 (1 : Int16) → v = 1
  numericToUserType_boolean : ∀ v : Int16, numericToUserType .boolean .int16 v = boolOfShort v
  userTypeToNumeric_bool : ∀ U, U.isNumeric = true → ∀ (u : U.Val) (v : Int16),
    userTypeToNumeric .int16 U u = v → v = 0 ∨ v = 1 → userTypeToNumeric .bool U u = decide (v = 1)

/-- An array with a pointer fast path, and an accessor with its buffer for a range of the array.
Lengths are `int`s in DOOCS. -/
structure FastTransfer (U : UserType) where
  accessor : RegisterAccessor U
  type : ArrayType
  values : List type.elem.Val
  buffer : List U.Val
  isNumeric : U.isNumeric = true
  kind : accessor.kind = .numeric
  hasPointer : type.hasPointer = true
  length_lt : values.length < 2 ^ 31
  range : accessor.elementOffset + accessor.nElements ≤ values.length
  length_buffer : buffer.length = accessor.nElements

section Loops
variable (C : Conversions) {U : UserType}

/-- The loop over `dataGet`, starting at element `i` of the buffer; `n` elements are left. -/
def getElements (t : ArrayType) (offset : ℕ) (xs : List t.elem.Val) :
    ℕ → ℕ → List U.Val → Except Failure (List U.Val)
  | _, 0, buffer => .ok buffer
  | i, n + 1, buffer =>
    let index := toInt (sizeAdd i offset)
    if 0 ≤ index ∧ i < buffer.length then
      match xs[index.toNat]? with
      | some v => getElements t offset xs (i + 1) n
          (buffer.set i (C.numericToUserType U t.accessType (t.dataGet v)))
      | none => .error .undefined
    else .error .undefined

variable (K : EqDataLibrary) (M : ImageLayout)

namespace FastTransfer

/-- The buffer after a read by element access. -/
def slowRead (x : FastTransfer U) : Except Failure (List U.Val) :=
  getElements C x.type x.accessor.elementOffset x.values 0 x.accessor.nElements x.buffer

/-- The array after a write by element access. -/
def slowWrite (x : FastTransfer U) : List x.type.elem.Val :=
  setElements x.accessor.elementOffset setElement 0
    ((x.buffer.take x.accessor.nElements).map fun u =>
      x.type.stored (C.userTypeToNumeric x.type.accessType U u)) x.values

/-- `doPostRead` and `doPreWrite` do what the loops would do. -/
structure Agrees (x : FastTransfer U) : Prop where
  read : ∀ error eventId time, doPostRead C M x.accessor
    ⟨.array x.type x.values, error, eventId, time⟩ x.buffer = x.slowRead C
  write : writeNumbers K C x.accessor x.buffer (.array x.type x.values) =
    .ok (.array x.type (x.slowWrite C))

/-- The elements read. -/
def selected (x : FastTransfer U) : List x.type.elem.Val :=
  (x.values.drop x.accessor.elementOffset).take x.accessor.nElements

/-- An `A_BOOL` holds zeros and ones where numbers are read from it, and is to hold zeros and ones
where it is written. -/
structure IsFaithful (x : FastTransfer U) : Prop where
  read : U = .boolean ∨ ∀ v ∈ x.selected, x.type.IsFaithful v
  written : ∀ u ∈ x.buffer, x.type.IsFaithful (C.userTypeToNumeric x.type.elem U u)

end FastTransfer

end Loops

section Elements
variable (C : NumberConversions) {U : UserType} {t : ArrayType}

theorem shortOfBool_boolOfShort {v : Int16} (h : v ≠ 0) : shortOfBool (boolOfShort v) = 1 := by
  simp [shortOfBool, boolOfShort, h]

theorem boolOfShort_shortOfBool (b : Bool) : boolOfShort (shortOfBool b) = b := by
  cases b <;> rfl

theorem numericToUserType_boolOfShort_iff (hU : U.isNumeric = true) (v : Int16) :
    C.numericToUserType U .int16 v = C.numericToUserType U .bool (boolOfShort v) ↔
      U = .boolean ∨ v = 0 ∨ v = 1 := by
  rw [C.numericToUserType_bool U hU]
  by_cases hboolean : U = .boolean
  · subst hboolean
    refine iff_of_true ?_ (.inl rfl)
    rw [C.numericToUserType_boolean, C.numericToUserType_boolean, boolOfShort_shortOfBool]
  by_cases hzero : v = 0
  · subst hzero
    exact iff_of_true rfl (.inr (.inl rfl))
  · rw [shortOfBool_boolOfShort hzero]
    refine ⟨fun h => .inr (.inr (C.numericToUserType_one U hU hboolean v h)), fun h => ?_⟩
    rw [(h.resolve_left hboolean).resolve_left hzero]

theorem shortOfBool_userTypeToNumeric_iff (hU : U.isNumeric = true) (u : U.Val) {v : Int16}
    (hv : C.userTypeToNumeric .int16 U u = v) :
    v = shortOfBool (C.userTypeToNumeric .bool U u) ↔ v = 0 ∨ v = 1 := by
  constructor
  · intro h
    subst h
    unfold shortOfBool
    split
    · exact .inr rfl
    · exact .inl rfl
  · intro h
    rw [C.userTypeToNumeric_bool U hU u v hv h]
    obtain rfl | rfl := h
    · rfl
    · rfl

/-- Reading through the pointer and reading by `dataGet` give the same for a faithful element. -/
theorem dataGet_iff (hU : U.isNumeric = true) (ht : t.hasPointer = true) (v : t.elem.Val) :
    C.numericToUserType U t.elem v = C.numericToUserType U t.accessType (t.dataGet v) ↔
      U = .boolean ∨ t.IsFaithful v := by
  cases t with
  | aBool => exact numericToUserType_boolOfShort_iff C hU v
  | aUshort | aUint | aUlong | gspectrum => cases ht
  | aShort | aInt | aLong | spectrum | aFloat | aDouble => exact iff_of_true rfl (.inr trivial)

theorem stored_iff (hU : U.isNumeric = true) (ht : t.hasPointer = true) (u : U.Val) :
    C.userTypeToNumeric t.elem U u = t.stored (C.userTypeToNumeric t.accessType U u) ↔
      t.IsFaithful (C.userTypeToNumeric t.elem U u) := by
  cases t with
  | aBool => exact shortOfBool_userTypeToNumeric_iff C hU u rfl
  | aUshort | aUint | aUlong | gspectrum => cases ht
  | aShort | aInt | aLong | spectrum | aFloat | aDouble => exact iff_of_true rfl trivial

end Elements

section Agreement
variable {C : Conversions} {K : EqDataLibrary} {M : ImageLayout} {U : UserType}

/-- The loop fills the buffer with the elements from the offset on. -/
theorem getElements_eq {t : ArrayType} {offset : ℕ} {xs : List t.elem.Val} (hlt : xs.length < 2 ^ 31)
    {i n : ℕ} {buffer : List U.Val} (hxs : offset + (i + n) ≤ xs.length)
    (hbuffer : i + n ≤ buffer.length) :
    getElements C t offset xs i n buffer =
      .ok (Range.overwrite i (((xs.drop (offset + i)).take n).map fun v =>
        C.numericToUserType U t.accessType (t.dataGet v)) buffer) := by
  induction n generalizing i buffer with
  | zero => simp [getElements, Range.overwrite_nil]
  | succ n ih =>
    have hsum : sizeAdd i offset = offset + i := by
      rw [sizeAdd, Nat.mod_eq_of_lt (by omega)]
      omega
    have hi : offset + i < xs.length := by omega
    rw [getElements, hsum, toInt_of_lt (by omega), if_pos ⟨Int.natCast_nonneg _, by omega⟩,
      Int.toNat_natCast, List.getElem?_eq_getElem hi]
    dsimp only
    rw [ih (by omega) (by rw [List.length_set]; omega), List.drop_eq_getElem_cons hi,
      List.take_succ_cons, List.map_cons, Range.overwrite_cons, Nat.add_assoc]
    simp only [List.length_cons, List.length_map, List.length_take, List.length_drop]
    omega

namespace FastTransfer
variable (x : FastTransfer U)

theorem length_selected : x.selected.length = x.accessor.nElements := by
  have hrange := x.range
  rw [selected, List.length_take, List.length_drop]
  omega

theorem slowRead_eq : x.slowRead C = .ok (x.selected.map fun v =>
    C.numericToUserType U x.type.accessType (x.type.dataGet v)) := by
  have hrange := x.range
  have hbuffer := x.length_buffer
  rw [slowRead, getElements_eq x.length_lt (by omega) (by omega), Nat.add_zero]
  change Except.ok (Range.overwrite 0 (x.selected.map _) x.buffer) = _
  rw [Range.overwrite_all]
  rw [List.length_map, x.length_selected, hbuffer]

theorem slowWrite_eq : x.slowWrite C = Range.overwrite x.accessor.elementOffset
    (x.buffer.map fun u => x.type.stored (C.userTypeToNumeric x.type.accessType U u)) x.values := by
  have hrange := x.range
  have hbuffer := x.length_buffer
  rw [slowWrite, List.take_of_length_le (by omega), setElements_eq _ x.length_lt, Nat.zero_add]
  rw [List.length_map]
  omega

theorem ne_void (x : FastTransfer U) : U ≠ .void := by
  rintro rfl
  exact Bool.false_ne_true x.isNumeric

/-- The fast path converts the elements as they are stored. -/
theorem doPostRead_eq (error : ℤ) (eventId : EventId) (time : Int64) :
    doPostRead C M x.accessor ⟨.array x.type x.values, error, eventId, time⟩ x.buffer =
      .ok (x.selected.map (C.numericToUserType U x.type.elem)) := by
  have hrange := x.range
  have hlt := x.length_lt
  have hbuffer := x.length_buffer
  have hsum : sizeAdd x.accessor.nElements x.accessor.elementOffset ≤ x.values.length := by
    rw [sizeAdd, Nat.mod_eq_of_lt (by omega)]
    omega
  have hread : numericValues C x.accessor (.array x.type x.values) =
      .ok (x.selected.map (C.numericToUserType U x.type.elem)) := by
    rw [numericValues_of_numbers (p := .array x.type x.values) x.ne_void x.type.type_ne_null
      (Payload.numbers_array x.type x.values) hsum, slice, if_pos hrange]
    rfl
  rw [doPostRead, postReadValues_numbers (.inl x.kind), hread]
  change Except.ok (_ ++ x.buffer.drop _) = _
  rw [List.length_map, x.length_selected, ← hbuffer, List.drop_length, List.append_nil]

theorem writeNumbers_eq : writeNumbers K C x.accessor x.buffer (.array x.type x.values) =
    .ok (.array x.type (Range.overwrite x.accessor.elementOffset
      (x.buffer.map (C.userTypeToNumeric x.type.elem U)) x.values)) := by
  rw [writeNumbers, if_pos x.hasPointer, copyToTarget_eq x.range x.length_buffer]
  rfl

/-- What is written to a range tells the lists apart. -/
theorem overwrite_inj {α : Type} {o : ℕ} {vs ws xs : List α} (hl : vs.length = ws.length)
    (h : Range.overwrite o vs xs = Range.overwrite o ws xs) : vs = ws := by
  unfold Range.overwrite at h
  rw [hl] at h
  have hfront : xs.take o ++ vs = xs.take o ++ ws := List.append_cancel_right h
  exact List.append_cancel_left hfront

theorem array_inj {t : ArrayType} {xs ys : List t.elem.Val} :
    Payload.array t xs = .array t ys ↔ xs = ys := by
  constructor
  · intro h
    injection h
  · rintro rfl
    rfl

end FastTransfer

end Agreement

/-- The pointer paths agree with element access if and only if all elements of an `A_BOOL` are 0 or
1, in the array which is read and in the one which is written. -/
theorem fast_agrees_iff (C : NumberConversions) (K : EqDataLibrary) (M : ImageLayout) {U : UserType}
    (x : FastTransfer U) : x.Agrees C.toConversions K M ↔ x.IsFaithful C.toConversions := by
  have hread : (∀ error eventId time, doPostRead C.toConversions M x.accessor
      ⟨.array x.type x.values, error, eventId, time⟩ x.buffer = x.slowRead C.toConversions) ↔
      (U = .boolean ∨ ∀ v ∈ x.selected, x.type.IsFaithful v) := by
    simp only [x.doPostRead_eq, x.slowRead_eq, Except.ok.injEq, List.map_inj_left, forall_const,
      dataGet_iff C x.isNumeric x.hasPointer, ← forall_or_left]
  have hwrite : writeNumbers K C.toConversions x.accessor x.buffer (.array x.type x.values) =
      .ok (.array x.type (x.slowWrite C.toConversions)) ↔
      ∀ u ∈ x.buffer, x.type.IsFaithful (C.userTypeToNumeric x.type.elem U u) := by
    rw [x.writeNumbers_eq, x.slowWrite_eq, Except.ok.injEq, FastTransfer.array_inj]
    have hinj (f g : U.Val → x.type.elem.Val) :
        Range.overwrite x.accessor.elementOffset (x.buffer.map f) x.values =
          Range.overwrite x.accessor.elementOffset (x.buffer.map g) x.values ↔
        ∀ u ∈ x.buffer, f u = g u := by
      rw [← List.map_inj_left]
      exact ⟨FastTransfer.overwrite_inj (by rw [List.length_map, List.length_map]),
        congrArg fun vs => Range.overwrite x.accessor.elementOffset vs x.values⟩
    rw [hinj]
    simp only [stored_iff C x.isNumeric x.hasPointer]
  constructor
  · rintro ⟨hr, hw⟩
    exact ⟨hread.mp hr, hwrite.mp hw⟩
  · rintro ⟨hr, hw⟩
    exact ⟨hread.mpr hr, hwrite.mpr hw⟩

namespace Limiting

/-- The nearest number of a user type; of the floating point numbers only 0 and 1 are told from the
others. -/
def userTypeOfInt : (U : UserType) → ℤ → U.Val
  | .int8, z => Int8.ofInt (max (-2 ^ 7) (min z (2 ^ 7 - 1)))
  | .uint8, z => UInt8.ofNat (min z.toNat (2 ^ 8 - 1))
  | .int16, z => Int16.ofInt (max (-2 ^ 15) (min z (2 ^ 15 - 1)))
  | .uint16, z => UInt16.ofNat (min z.toNat (2 ^ 16 - 1))
  | .int32, z => Int32.ofInt (max (-2 ^ 31) (min z (2 ^ 31 - 1)))
  | .uint32, z => UInt32.ofNat (min z.toNat (2 ^ 32 - 1))
  | .int64, z => Int64.ofInt (max (-2 ^ 63) (min z (2 ^ 63 - 1)))
  | .uint64, z => UInt64.ofNat (min z.toNat (2 ^ 64 - 1))
  | .float, z => if z = 0 then 0#32 else if z = 1 then 0x3F800000#32 else 0x40000000#32
  | .double, z =>
    if z = 0 then 0#64 else if z = 1 then 0x3FF0000000000000#64 else 0x4000000000000000#64
  | .string, z => z.repr.toList
  | .boolean, z => decide (z ≠ 0)
  | .void, _ => ()

/-- The number a user value stands for. -/
def intOfUserType : (U : UserType) → U.Val → ℤ
  | .int8, v => Int8.toInt v
  | .uint8, v => (UInt8.toNat v : ℤ)
  | .int16, v => Int16.toInt v
  | .uint16, v => (UInt16.toNat v : ℤ)
  | .int32, v => Int32.toInt v
  | .uint32, v => (UInt32.toNat v : ℤ)
  | .int64, v => Int64.toInt v
  | .uint64, v => (UInt64.toNat v : ℤ)
  | .float, (v : BitVec 32) => if v = 0#32 then 0 else if v = 0x3F800000#32 then 1 else 2
  | .double, (v : BitVec 64) =>
    if v = 0#64 then 0 else if v = 0x3FF0000000000000#64 then 1 else 2
  | .string, _ => 0
  | .boolean, (v : Bool) => v.toNat
  | .void, _ => 0

def numericOfInt : (c : CType) → ℤ → c.Val
  | .bool, z => decide (z ≠ 0)
  | .int16, z => userTypeOfInt .int16 z
  | .uint16, z => userTypeOfInt .uint16 z
  | .int32, z => userTypeOfInt .int32 z
  | .uint32, z => userTypeOfInt .uint32 z
  | .int64, z => userTypeOfInt .int64 z
  | .uint64, z => userTypeOfInt .uint64 z
  | .float, z => userTypeOfInt .float z
  | .double, z => userTypeOfInt .double z

def numericToUserType (U : UserType) (c : CType) (v : c.Val) : U.Val :=
  match sameType c U with
  | some e => e v
  | none => userTypeOfInt U (Plain.toInt c v)

def userTypeToNumeric (c : CType) (U : UserType) (u : U.Val) : c.Val :=
  match sameType c U with
  | some e => e.symm u
  | none => numericOfInt c (intOfUserType U u)

/-- No other number becomes the user value of 1. -/
theorem intOfUserType_userTypeOfInt (U : UserType) (hU : U.isNumeric = true)
    (hboolean : U ≠ .boolean) (z : ℤ) : intOfUserType U (userTypeOfInt U z) = 1 ↔ z = 1 := by
  cases U with
  | int8 =>
    rw [intOfUserType, userTypeOfInt, Int8.toInt_ofInt_of_le (by omega) (by omega)]
    omega
  | int16 =>
    rw [intOfUserType, userTypeOfInt, Int16.toInt_ofInt_of_le (by omega) (by omega)]
    omega
  | int32 =>
    rw [intOfUserType, userTypeOfInt, Int32.toInt_ofInt_of_le (by omega) (by omega)]
    omega
  | int64 =>
    rw [intOfUserType, userTypeOfInt, Int64.toInt_ofInt_of_le (by omega) (by omega)]
    omega
  | uint8 =>
    rw [intOfUserType, userTypeOfInt, UInt8.toNat_ofNat_of_lt' (by simp only [UInt8.size]; omega)]
    omega
  | uint16 =>
    rw [intOfUserType, userTypeOfInt, UInt16.toNat_ofNat_of_lt' (by simp only [UInt16.size]; omega)]
    omega
  | uint32 =>
    rw [intOfUserType, userTypeOfInt, UInt32.toNat_ofNat_of_lt' (by simp only [UInt32.size]; omega)]
    omega
  | uint64 =>
    rw [intOfUserType, userTypeOfInt, UInt64.toNat_ofNat_of_lt' (by simp only [UInt64.size]; omega)]
    omega
  | float | double =>
    by_cases hzero : z = 0
    · subst hzero
      decide
    · by_cases hone : z = 1
      · subst hone
        decide
      · simp [intOfUserType, userTypeOfInt, hzero, hone]
  | string | void => cases hU
  | boolean => exact absurd rfl hboolean

theorem userTypeOfInt_one (U : UserType) (hU : U.isNumeric = true) (hboolean : U ≠ .boolean)
    {z : ℤ} (h : userTypeOfInt U z = userTypeOfInt U 1) : z = 1 := by
  have hone := intOfUserType_userTypeOfInt U hU hboolean
  exact (hone z).mp ((congrArg (intOfUserType U) h).trans ((hone 1).mpr rfl))

theorem numericToUserType_int16 (U : UserType) (v : Int16) :
    numericToUserType U .int16 v = userTypeOfInt U v.toInt := by
  cases U with
  | int16 =>
    have hlow := v.le_toInt
    have hhigh := v.toInt_lt
    rw [userTypeOfInt, min_eq_left (by omega), max_eq_right (by omega)]
    exact (Int16.ofInt_toInt v).symm
  | _ => rfl

theorem numericToUserType_bool (U : UserType) (b : Bool) :
    numericToUserType U .bool b = numericToUserType U .int16 (shortOfBool b) := by
  rw [numericToUserType_int16]
  cases b with
  | false | true => cases U <;> rfl

theorem numericOfInt_bool {z : ℤ} {v : Int16} (h : numericOfInt .int16 z = v) (hv : v = 0 ∨ v = 1) :
    numericOfInt .bool z = decide (v = 1) := by
  have hlimited : max (-2 ^ 15) (min z (2 ^ 15 - 1)) = v.toInt := by
    have hz := congrArg Int16.toInt h
    simp only [numericOfInt, userTypeOfInt] at hz
    rwa [Int16.toInt_ofInt_of_le (by omega) (by omega)] at hz
  obtain rfl | rfl := hv
  · have hz : z = 0 := by
      rw [show Int16.toInt 0 = 0 from rfl] at hlimited
      omega
    subst hz
    rfl
  · have hz : z = 1 := by
      rw [show Int16.toInt 1 = 1 from rfl] at hlimited
      omega
    subst hz
    rfl

theorem userTypeToNumeric_bool (U : UserType) (u : U.Val) {v : Int16}
    (h : userTypeToNumeric .int16 U u = v) (hv : v = 0 ∨ v = 1) :
    userTypeToNumeric .bool U u = decide (v = 1) := by
  cases U with
  | int16 =>
    obtain rfl : (u : Int16) = v := h
    obtain hu | hu := hv
    · rw [hu]
      rfl
    · rw [hu]
      rfl
  | _ => exact numericOfInt_bool h hv

theorem zero_ne_one (U : UserType) (h : U ≠ .void) :
    numericToUserType U .int64 (0 : Int64) ≠ numericToUserType U .int64 (1 : Int64) := by
  cases U
  all_goals first | exact absurd rfl h | decide

end Limiting

/-- Conversions to the nearest number. -/
def limitingConversions : NumberConversions where
  numericToUserType := Limiting.numericToUserType
  userTypeToNumeric := Limiting.userTypeToNumeric
  numericToUserType_same c U e h v := by simp [Limiting.numericToUserType, h]
  userTypeToNumeric_same c U e h v := by simp [Limiting.userTypeToNumeric, h]
  userTypeToNumeric_void c v := by cases c <;> rfl
  zero_ne_one := Limiting.zero_ne_one
  typeString _ := []
  getString := plainConversions.getString
  getString_text _ := rfl
  getString_string _ := rfl
  numericToUserType_bool U _ := Limiting.numericToUserType_bool U
  numericToUserType_one U hU hboolean v h := by
    rw [Limiting.numericToUserType_int16, Limiting.numericToUserType_int16] at h
    exact Int16.toInt_inj.mp (Limiting.userTypeOfInt_one U hU hboolean h)
  numericToUserType_boolean v := by
    rw [Limiting.numericToUserType_int16]
    exact decide_eq_decide.mpr (not_congr (Int16.toInt_inj (y := 0)))
  userTypeToNumeric_bool U _ u _ := Limiting.userTypeToNumeric_bool U u

/-- An `A_BOOL` with an element 5, and an accessor for it. -/
def fiveTransfer : FastTransfer .int32 where
  accessor :=
    ⟨.numeric, "FACILITY/DEVICE/LOCATION/FLAGS".toList, 2, 0, true, false, false, 2,
      .blank 2 .aBool⟩
  type := .aBool
  values := [(5 : Int16), (0 : Int16)]
  buffer := [(0 : Int32), (0 : Int32)]
  isNumeric := rfl
  kind := rfl
  hasPointer := rfl
  length_lt := by decide
  range := le_rfl
  length_buffer := rfl

/-- The element is read as 5 through the pointer and as 1 by `dataGet`. -/
theorem not_fast_agrees :
    ¬ fiveTransfer.Agrees limitingConversions.toConversions plainEqData plainImageLayout := by
  intro h
  have hread := h.read 0 0 0
  exact absurd hread (by decide)

end DoocsBackend.Accessor
