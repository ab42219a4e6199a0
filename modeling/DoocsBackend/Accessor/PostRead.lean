import DoocsBackend.Accessor.Construct

/-! # Filling the buffer after a read

What the `doPostRead` functions of the accessor classes put into the buffer. Version and
validity, which the base class keeps, are treated elsewhere.
-/
namespace DoocsBackend.Accessor

/-- The `n` elements from `offset` on; reading past the end is undefined. -/
def slice {α : Type} (xs : List α) (offset n : ℕ) : Except Failure (List α) :=
  if offset + n ≤ xs.length then .ok ((xs.drop offset).take n) else .error .undefined

/-- Access outside of the array is the only thing that goes wrong. -/
theorem map_slice_ne_error {α β : Type} {xs : List α} {offset n : ℕ} {f : List α → β} {e : Failure}
    (he : e ≠ .undefined) : (slice xs offset n).map f ≠ .error e := by
  unfold slice
  split
  · exact fun h => by cases h
  · intro h
    cases h
    exact he rfl

namespace Payload

/-- The types with a pointer fast path, with the array the pointer leads to. -/
def fastArray : Payload → Option ((c : CType) × List c.Val)
  | .array .spectrum xs => some ⟨.float, xs⟩
  | .array .aFloat xs => some ⟨.float, xs⟩
  | .array .aDouble xs => some ⟨.double, xs⟩
  | .array .aInt xs => some ⟨.int32, xs⟩
  | .array .aLong xs => some ⟨.int64, xs⟩
  | .array .aBool xs => some ⟨.int16, xs⟩
  | .array .aShort xs => some ⟨.int16, xs⟩
  | _ => none

/-- What `dataGet` returns for all indices, at the C++ type of `callForDoocsType`. -/
def elements : Payload → Option ((c : CType) × List c.Val)
  | .scalar c v => some ⟨c, [v]⟩
  | .array .aBool xs => some ⟨.bool, xs.map fun v : Int16 => decide (v ≠ 0)⟩
  | .array .aShort xs => some ⟨.int16, xs⟩
  | .array .aUshort xs => some ⟨.uint16, xs⟩
  | .array .aInt xs => some ⟨.int32, xs⟩
  | .array .aUint xs => some ⟨.uint32, xs⟩
  | .array .aLong xs => some ⟨.int64, xs⟩
  | .array .aUlong xs => some ⟨.uint64, xs⟩
  | .array .spectrum xs => some ⟨.float, xs⟩
  | .array .gspectrum xs => some ⟨.float, xs⟩
  | .array .aFloat xs => some ⟨.float, xs⟩
  | .array .aDouble xs => some ⟨.double, xs⟩
  | .iiii i1 i2 i3 i4 => some ⟨.int32, [i1, i2, i3, i4]⟩
  | _ => none

/-- `dataGet` is called with the type `callForDoocsType` selects. -/
theorem elements_type (p : Payload) : p.elements.map Sigma.fst = callForDoocsType p.type := by
  cases p with
  | scalar c v => cases c <;> rfl
  | array t xs => cases t <;> rfl
  | raw t n => cases t <;> rfl
  | null | iiii | ifff | text | string | image => rfl

end Payload

variable (C : Conversions) (M : ImageLayout) {U : UserType}

/-- A copy through the pointer: of the memory if the types are the same, converted otherwise. -/
def copyFromSource (U : UserType) (c : CType) (v : c.Val) : U.Val :=
  match sameType c U with
  | some e => e v
  | none => C.numericToUserType U c v

theorem copyFromSource_eq (U : UserType) (c : CType) (v : c.Val) :
    copyFromSource C U c v = C.numericToUserType U c v := by
  unfold copyFromSource
  cases h : sameType c U with
  | none => rfl
  | some e => exact (C.numericToUserType_same c U e h v).symm

/-- `DoocsBackendNumericRegisterAccessor::doPostRead`. -/
def numericValues (a : RegisterAccessor U) (dst : Payload) : Except Failure (List U.Val) :=
  if U = .void then .ok []
  else if dst.type = .null then .ok (List.replicate a.nElements U.zero)
  else if dst.length < sizeAdd a.nElements a.elementOffset then
    .error (.runtimeError ("DoocsBackend: Unexpected array length found in remote property ".toList ++
      a.path ++ ": ".toList ++ dst.length.repr.toList ++ " is shorter than the expected ".toList ++
      (sizeAdd a.nElements a.elementOffset).repr.toList))
  else match dst.fastArray with
    | some ⟨c, xs⟩ =>
      (slice xs a.elementOffset a.nElements).map (List.map (copyFromSource C U c))
    | none => match dst.elements with
      | some ⟨c, xs⟩ =>
        (slice xs a.elementOffset a.nElements).map (List.map (C.numericToUserType U c))
      | none =>
        .error (.runtimeError ("DoocsBackend: Unexpected DOOCS type found in remote property ".toList ++
          a.path ++ ": ".toList ++ C.typeString dst.type ++ " is not a numeric type.".toList))

/-- The numbers in a reply, whichever way they are read. -/
def Payload.numbers (p : Payload) : Option ((c : CType) × List c.Val) := p.fastArray <|> p.elements

/-- A read succeeds only on numbers, all of which are converted the same way. -/
theorem numericValues_ok {C : Conversions} {a : RegisterAccessor U} {dst : Payload}
    {values : List U.Val} (hU : U ≠ .void) (hn : dst.type ≠ .null)
    (h : numericValues C a dst = .ok values) :
    sizeAdd a.nElements a.elementOffset ≤ dst.length ∧
      ∃ c xs, dst.numbers = some ⟨c, xs⟩ ∧
        (slice xs a.elementOffset a.nElements).map (List.map (C.numericToUserType U c)) = .ok values := by
  rw [numericValues, if_neg hU, if_neg hn] at h
  split at h
  · cases h
  · rename_i hl
    refine ⟨by omega, ?_⟩
    split at h
    · rename_i c xs hf
      have hc : copyFromSource C U c = C.numericToUserType U c := funext (copyFromSource_eq C U c)
      exact ⟨c, xs, by rw [Payload.numbers, hf]; rfl, by rw [← hc]; exact h⟩
    · rename_i hf
      split at h
      · rename_i c xs he
        exact ⟨c, xs, by rw [Payload.numbers, hf, he]; rfl, h⟩
      · cases h

/-- The member of an IFFF structure a field name stands for. -/
def fieldValue (C : Conversions) (U : UserType) (i1 : Int32) (f1 f2 f3 : BitVec 32) : Field → U.Val
  | .i => C.numericToUserType U .int32 i1
  | .f1 => C.numericToUserType U .float f1
  | .f2 => C.numericToUserType U .float f2
  | .f3 => C.numericToUserType U .float f3

/-- `DoocsBackendIFFFRegisterAccessor::doPostRead`; `get_ifff` gives a null pointer for all
other types. -/
def fieldValues (U : UserType) (field : Field) : Payload → Except Failure (List U.Val)
  | .ifff i1 f1 f2 f3 => .ok [fieldValue C U i1 f1 f2 f3 field]
  | _ => .error .undefined

/-- `DoocsBackendImageRegisterAccessor::doPostRead`, for a buffer of the given size. -/
def imageValues (bufferLength : ℕ) : Payload → Except Failure (List UInt8)
  | .image h body => M.set bufferLength h body
  | _ => .error .assertion

/-- The values `doPostRead` puts into the leading elements of the buffer. -/
def postReadValues (a : RegisterAccessor U) (dst : EqData) : Except Failure (List U.Val) :=
  match U, a, a.kind with
  | _, a, .numeric => numericValues C a dst.payload
  | _, a, .iiii => numericValues C a dst.payload
  | U, _, .ifff field => fieldValues C U field dst.payload
  | .string, _, .string => .ok [C.getString dst.payload]
  | .uint8, a, .image => imageValues M a.bufferLength dst.payload
  | U, _, .eventId => .ok [C.numericToUserType U .int64 dst.eventId]
  | U, _, .timeStamp => .ok [C.numericToUserType U .int64 dst.secondsSinceEpoch]

/-- The buffer after `doPostRead`. -/
def doPostRead (a : RegisterAccessor U) (dst : EqData) (buffer : List U.Val) :
    Except Failure (List U.Val) :=
  (postReadValues C M a dst).map fun values => values ++ buffer.drop values.length

end DoocsBackend.Accessor
