import DoocsBackend.Accessor.PostRead
import DoocsBackend.Backend.State
import DoocsBackend.Library.Range

/-! # Preparing a write

`doPreWrite` puts the buffer into `src`, the data object which is sent to the server. Where the
accessor covers only a part of the property, the rest comes from the server first.
-/
namespace DoocsBackend.Accessor

/-- The functions of `doocs::EqData` which change or convert an object, as far as DOOCS defines
what they do. -/
structure EqDataLibrary where
  /-- The value of the elements `length` adds to an array. -/
  fill : (t : ArrayType) → t.elem.Val
  setLength : ℤ → Payload → Payload
  setLength_array : ∀ t (xs : List t.elem.Val) (n : ℕ), xs.length ≤ n → n < 2 ^ 31 →
    setLength n (.array t xs) = .array t (xs.rightpad n (fill t))
  /-- `set` with a single number. -/
  set : (c : CType) → c.Val → Payload → Payload
  set_zeros : ∀ t n, set .int32 (0 : Int32) (.array t (List.replicate n t.elem.zero)) =
    .array t (List.replicate n t.elem.zero)
  getInt : Payload → ℕ → Int32
  getInt_iiii : ∀ i1 i2 i3 i4, getInt (.iiii i1 i2 i3 i4) 0 = i1 ∧ getInt (.iiii i1 i2 i3 i4) 1 = i2 ∧
    getInt (.iiii i1 i2 i3 i4) 2 = i3 ∧ getInt (.iiii i1 i2 i3 i4) 3 = i4

/-- The `int` made from a `size_t`. -/
def toInt (n : ℕ) : ℤ := (n : ℤ).bmod (2 ^ 32)

/-- What `doPreWrite` finds when it is called. -/
structure WriteState where
  backend : Backend.BackendState
  /-- The member `_isWriteable`. -/
  isWriteable : Bool
  /-- The answer of the server to a `get`. -/
  rc : ReturnCode
  dst : Payload

namespace Payload

/-- The member of an IIII structure at the given index is replaced, if there is one. -/
def setMember (idx : ℤ) (raw : Int32) : Payload → Payload
  | .iiii i1 i2 i3 i4 => match idx with
    | 0 => .iiii raw i2 i3 i4
    | 1 => .iiii i1 raw i3 i4
    | 2 => .iiii i1 i2 raw i4
    | 3 => .iiii i1 i2 i3 raw
    | _ => .iiii i1 i2 i3 i4
  | p => p

/-- `set` with the four numbers of an IIII. -/
def setIiii (i1 i2 i3 i4 : Int32) : Payload → Payload
  | .iiii .. => .iiii i1 i2 i3 i4
  | p => p

/-- `set` with an IFFF structure. -/
def setIfff (i1 : Int32) (f1 f2 f3 : BitVec 32) : Payload → Payload
  | .ifff .. => .ifff i1 f1 f2 f3
  | p => p

/-- `set` with a C string, which ends at the first null character. -/
def setText (s : Text) : Payload → Payload
  | .text _ => .text (s.takeWhile (· ≠ '\x00'))
  | .string _ => .string (s.takeWhile (· ≠ '\x00'))
  | p => p

end Payload

/-- The array types written through a pointer. -/
def ArrayType.hasPointer : ArrayType → Bool
  | .spectrum | .aFloat | .aDouble | .aInt | .aLong | .aBool | .aShort => true
  | .aUshort | .aUint | .aUlong | .gspectrum => false

section PreWrite
variable (K : EqDataLibrary) (C : Conversions) {U : UserType}

/-- `isWriteable`, which some accessor classes override. -/
def isWriteable (a : RegisterAccessor U) (s : WriteState) : Bool :=
  match a.kind with
  | .image | .eventId | .timeStamp => false
  | _ => s.isWriteable

/-- `DoocsBackendRegisterAccessor::doPreWrite`. -/
def checkWriteable (a : RegisterAccessor U) (s : WriteState) : Except Failure Unit :=
  if ¬ s.backend.opened then
    .error (.logicError "Write operation not allowed while device is closed.".toList)
  else if ¬ isWriteable a s then
    .error (.logicError ("Try to write read-only register \"".toList ++ a.path ++ "\".".toList))
  else .ok ()

/-- `doReadTransferSynchronously`, with the data object it reads. -/
def doReadTransferSynchronously (a : RegisterAccessor U) (s : WriteState) : Except Failure Payload :=
  if s.backend.hasActiveException then .error (.runtimeError s.backend.activeExceptionMessage)
  else if a.useZMQ then .error .assertion
  else if s.rc.isCommunicationError then
    .error (.runtimeError ("Cannot read from DOOCS property: ".toList ++ C.getString s.dst))
  else .ok s.dst

/-- Store values from an offset on through a pointer; writing outside of the array is undefined. -/
def store {c : CType} (offset : ℕ) (values xs : List c.Val) : Except Failure (List c.Val) :=
  if offset + values.length ≤ xs.length then .ok (Range.overwrite offset values xs)
  else .error .undefined

/-- A copy through the pointer: of the memory if the types are the same, converted otherwise. -/
def copyToTarget (a : RegisterAccessor U) (c : CType) (buffer : List U.Val) (xs : List c.Val) :
    Except Failure (List c.Val) :=
  match sameType c U with
  | some e =>
    if a.nElements ≤ buffer.length then
      store a.elementOffset ((buffer.take a.nElements).map e.symm) xs
    else .error .undefined
  | none => store a.elementOffset (buffer.map (C.userTypeToNumeric c U)) xs

/-- `set` with a number and an index, for a number of the type of the elements. -/
def setElement {α : Type} (idx : ℤ) (v : α) (xs : List α) : List α :=
  if 0 ≤ idx then xs.set idx.toNat v else xs

/-- The loop over the values, starting at the given number. -/
def setElements {σ α : Type} (offset : ℕ) (f : ℤ → α → σ → σ) : ℕ → List α → σ → σ
  | _, [], x => x
  | i, v :: vs, x => setElements offset f (i + 1) vs (f (toInt (sizeAdd i offset)) v x)

/-- `DoocsBackendNumericRegisterAccessor::doPreWrite`, after the checks and the reading. -/
def writeNumbers (a : RegisterAccessor U) (buffer : List U.Val) :
    Payload → Except Failure Payload
  | .array t xs =>
    if t.hasPointer then (copyToTarget C a t.elem buffer xs).map (.array t)
    else if xs.length = 0 then
      match buffer[0]? with
      | some v => .ok (K.set t.elem (C.userTypeToNumeric t.elem U v) (.array t xs))
      | none => .error .undefined
    else if a.nElements ≤ buffer.length then
      .ok (.array t (setElements a.elementOffset setElement 0
        ((buffer.take a.nElements).map (C.userTypeToNumeric t.elem U)) xs))
    else .error .undefined
  | src => match callForDoocsType src.type with
    | some c => match buffer[0]? with
      | some v => .ok (K.set c (C.userTypeToNumeric c U v) src)
      | none => .error .undefined
    | none =>
      .error (.runtimeError ("DoocsBackend: Unexpected DOOCS type found in remote property ".toList ++
        a.path ++ ": ".toList ++ C.typeString src.type ++ " is not a numeric type.".toList))

/-- The server might have changed the length of the array. -/
def lengthen (a : RegisterAccessor U) (src : Payload) : Payload :=
  if src.length < sizeAdd a.nElements a.elementOffset then
    K.setLength (toInt (sizeAdd a.nElements a.elementOffset)) src
  else src

/-- `DoocsBackendNumericRegisterAccessor::doPreWrite`. -/
def numericPreWrite (a : RegisterAccessor U) (s : WriteState) (src : Payload)
    (buffer : List U.Val) : Except Failure Payload :=
  if U = .void then .ok (K.set .int32 (0 : Int32) src)
  else if a.isPartial then
    doReadTransferSynchronously C a s >>= fun dst => writeNumbers K C a buffer (lengthen K a dst)
  else writeNumbers K C a buffer src

/-- The loop over the members of an IIII, reached through a pointer. -/
def writeMembers (a : RegisterAccessor U) (buffer : List U.Val) :
    Payload → Except Failure Payload
  | .iiii i1 i2 i3 i4 =>
    if a.nElements ≤ buffer.length then
      .ok (setElements a.elementOffset Payload.setMember 0
        ((buffer.take a.nElements).map (C.userTypeToNumeric .int32 U)) (.iiii i1 i2 i3 i4))
    else .error .undefined
  | _ => .error .undefined

/-- `DoocsBackendIIIIRegisterAccessor::doPreWrite`. -/
def iiiiPreWrite (a : RegisterAccessor U) (s : WriteState) (src : Payload) (buffer : List U.Val) :
    Except Failure Payload :=
  if ¬ a.isArray then
    match buffer[0]? with
    | some v => .ok (K.set .int32 (C.userTypeToNumeric .int32 U v) src)
    | none => .error .undefined
  else if a.isPartial then
    doReadTransferSynchronously C a s >>= fun dst => writeMembers C a buffer
      (src.setIiii (K.getInt dst 0) (K.getInt dst 1) (K.getInt dst 2) (K.getInt dst 3))
  else writeMembers C a buffer src

/-- `DoocsBackendIFFFRegisterAccessor::doPreWrite`. -/
def ifffPreWrite (field : Field) (a : RegisterAccessor U) (s : WriteState) (src : Payload)
    (buffer : List U.Val) : Except Failure Payload :=
  doReadTransferSynchronously C a s >>= fun dst =>
    match dst, buffer[0]? with
    | .ifff i1 f1 f2 f3, some v => .ok (match field with
      | .i => src.setIfff (C.userTypeToNumeric .int32 U v) f1 f2 f3
      | .f1 => src.setIfff i1 (C.userTypeToNumeric .float U v) f2 f3
      | .f2 => src.setIfff i1 f1 (C.userTypeToNumeric .float U v) f3
      | .f3 => src.setIfff i1 f1 f2 (C.userTypeToNumeric .float U v))
    | _, _ => .error .undefined

/-- `DoocsBackendStringRegisterAccessor::doPreWrite`. -/
def stringPreWrite (src : Payload) (buffer : List Text) : Except Failure Payload :=
  match buffer[0]? with
  | some s => .ok (src.setText s)
  | none => .error .undefined

/-- What each accessor class does after the checks of the base class. -/
def kindPreWrite (a : RegisterAccessor U) (s : WriteState) (src : Payload) (buffer : List U.Val) :
    Except Failure Payload :=
  match U, a, a.kind, buffer with
  | _, a, .numeric, buffer => numericPreWrite K C a s src buffer
  | _, a, .iiii, buffer => iiiiPreWrite K C a s src buffer
  | _, a, .ifff field, buffer => ifffPreWrite C field a s src buffer
  | .string, _, .string, buffer => stringPreWrite src buffer
  | _, _, .image, _ | _, _, .eventId, _ | _, _, .timeStamp, _ => .ok src

/-- `doPreWrite`: the data object `src` after it, if it succeeds. -/
def doPreWrite (a : RegisterAccessor U) (s : WriteState) (src : Payload) (buffer : List U.Val) :
    Except Failure Payload :=
  checkWriteable a s >>= fun _ => kindPreWrite K C a s src buffer

end PreWrite

end DoocsBackend.Accessor
