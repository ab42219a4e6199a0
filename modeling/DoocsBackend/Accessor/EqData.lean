import DoocsBackend.Basic

/-! # DOOCS data objects

`doocs::EqData` holds a value of one of the property types. Its typed getters give a
value only for the types they are made for.
-/
namespace DoocsBackend.Accessor

/-- The C++ number types DOOCS stores. -/
inductive CType where
  | bool | int16 | uint16 | int32 | uint32 | int64 | uint64 | float | double
  deriving DecidableEq, Repr

/-- Floating point numbers are carried around as their bit patterns. -/
def CType.Val : CType → Type
  | .bool => Bool
  | .int16 => Int16
  | .uint16 => UInt16
  | .int32 => Int32
  | .uint32 => UInt32
  | .int64 => Int64
  | .uint64 => UInt64
  | .float => BitVec 32
  | .double => BitVec 64

instance : (c : CType) → DecidableEq c.Val
  | .bool => inferInstanceAs (DecidableEq Bool)
  | .int16 => inferInstanceAs (DecidableEq Int16)
  | .uint16 => inferInstanceAs (DecidableEq UInt16)
  | .int32 => inferInstanceAs (DecidableEq Int32)
  | .uint32 => inferInstanceAs (DecidableEq UInt32)
  | .int64 => inferInstanceAs (DecidableEq Int64)
  | .uint64 => inferInstanceAs (DecidableEq UInt64)
  | .float => inferInstanceAs (DecidableEq (BitVec 32))
  | .double => inferInstanceAs (DecidableEq (BitVec 64))

def CType.zero : (c : CType) → c.Val
  | .bool => false
  | .int16 => (0 : Int16)
  | .uint16 => (0 : UInt16)
  | .int32 => (0 : Int32)
  | .uint32 => (0 : UInt32)
  | .int64 => (0 : Int64)
  | .uint64 => (0 : UInt64)
  | .float => 0#32
  | .double => 0#64

/-- The type of a property holding one such number. -/
def CType.scalarType : CType → DoocsType
  | .bool => .bool
  | .int16 => .short
  | .uint16 => .ushort
  | .int32 => .int
  | .uint32 => .uint
  | .int64 => .long
  | .uint64 => .ulong
  | .float => .float
  | .double => .double

/-- The types of properties holding arrays of numbers. -/
inductive ArrayType where
  | aBool | aShort | aUshort | aInt | aUint | aLong | aUlong | spectrum | gspectrum | aFloat | aDouble
  deriving DecidableEq, Repr

def ArrayType.type : ArrayType → DoocsType
  | .aBool => .aBool
  | .aShort => .aShort
  | .aUshort => .aUshort
  | .aInt => .aInt
  | .aUint => .aUint
  | .aLong => .aLong
  | .aUlong => .aUlong
  | .spectrum => .spectrum
  | .gspectrum => .gspectrum
  | .aFloat => .aFloat
  | .aDouble => .aDouble

/-- How an array element is stored: an `A_BOOL` is an array of `short`. -/
def ArrayType.elem : ArrayType → CType
  | .aBool | .aShort => .int16
  | .aUshort => .uint16
  | .aInt => .int32
  | .aUint => .uint32
  | .aLong => .int64
  | .aUlong => .uint64
  | .spectrum | .gspectrum | .aFloat => .float
  | .aDouble => .double

/-- The image header fields the backend reads. -/
structure IMH where
  width : UInt32
  height : UInt32
  bpp : UInt32
  ebitpp : UInt32
  imageFormat : ℕ
  frame : UInt32
  xStart : UInt32
  yStart : UInt32
  scaleX : BitVec 32
  scaleY : BitVec 32
  deriving DecidableEq, Repr

/-- Types no accessor supports. -/
inductive RawType where
  | ustr | aByte | other
  deriving DecidableEq, Repr

def RawType.type : RawType → DoocsType
  | .ustr => .ustr
  | .aByte => .aByte
  | .other => .other

inductive Payload where
  | null
  | scalar (c : CType) (v : c.Val)
  | array (t : ArrayType) (xs : List t.elem.Val)
  | iiii (i1 i2 i3 i4 : Int32)
  | ifff (i1 : Int32) (f1 f2 f3 : BitVec 32)
  | text (s : Text)
  | string (s : Text)
  | image (header : IMH) (body : List UInt8)
  | raw (t : RawType) (length : ℕ)
  deriving DecidableEq

namespace Payload

def type : Payload → DoocsType
  | .null => .null
  | .scalar c _ => c.scalarType
  | .array t _ => t.type
  | .iiii .. => .iiii
  | .ifff .. => .ifff
  | .text _ => .text
  | .string _ => .string
  | .image .. => .image
  | .raw t _ => t.type

/-- `EqData::length`: the number of elements, of characters or of bytes in the image body. -/
def length : Payload → ℕ
  | .null => 0
  | .scalar .. => 1
  | .array _ xs => xs.length
  | .iiii .. => 4
  | .ifff .. => 4
  | .text s => s.length
  | .string s => s.length
  | .image _ body => body.length
  | .raw _ n => n

/-- `EqData::array_length`, which is 0 for everything but arrays and images. -/
def arrayLength : Payload → ℕ
  | .array _ xs => xs.length
  | .image _ body => body.length
  | .raw .aByte n => n
  | _ => 0

/-- The data object after `set_type` and `length`. -/
def blank (n : ℕ) : DoocsType → Payload
  | .bool => .scalar .bool CType.bool.zero
  | .short => .scalar .int16 CType.int16.zero
  | .ushort => .scalar .uint16 CType.uint16.zero
  | .int => .scalar .int32 CType.int32.zero
  | .uint => .scalar .uint32 CType.uint32.zero
  | .long => .scalar .int64 CType.int64.zero
  | .ulong => .scalar .uint64 CType.uint64.zero
  | .float => .scalar .float CType.float.zero
  | .double => .scalar .double CType.double.zero
  | .aBool => .array .aBool (List.replicate n (CType.zero _))
  | .aShort => .array .aShort (List.replicate n (CType.zero _))
  | .aUshort => .array .aUshort (List.replicate n (CType.zero _))
  | .aInt => .array .aInt (List.replicate n (CType.zero _))
  | .aUint => .array .aUint (List.replicate n (CType.zero _))
  | .aLong => .array .aLong (List.replicate n (CType.zero _))
  | .aUlong => .array .aUlong (List.replicate n (CType.zero _))
  | .spectrum => .array .spectrum (List.replicate n (CType.zero _))
  | .gspectrum => .array .gspectrum (List.replicate n (CType.zero _))
  | .aFloat => .array .aFloat (List.replicate n (CType.zero _))
  | .aDouble => .array .aDouble (List.replicate n (CType.zero _))
  | .iiii => .iiii 0 0 0 0
  | .ifff => .ifff 0 0 0 0
  | .text => .text []
  | .string => .string []
  | .image => .image ⟨0, 0, 0, 0, 0, 0, 0, 0, 0, 0⟩ (List.replicate n 0)
  | .ustr => .raw .ustr n
  | .aByte => .raw .aByte n
  | .null => .null
  | .other => .raw .other n

@[simp] theorem type_blank (n : ℕ) (t : DoocsType) : (blank n t).type = t := by cases t <;> rfl

end Payload

/-- `doocs::EventId`, where 0 means that there is none. -/
abbrev EventId := Int64

/-- A reply of the server. -/
structure EqData where
  payload : Payload
  error : ℤ
  eventId : EventId
  secondsSinceEpoch : Int64
  deriving DecidableEq

/-- The user types of ChimeraTK. -/
inductive UserType where
  | int8 | uint8 | int16 | uint16 | int32 | uint32 | int64 | uint64 | float | double
  | string | boolean | void
  deriving DecidableEq, Repr

def UserType.Val : UserType → Type
  | .int8 => Int8
  | .uint8 => UInt8
  | .int16 => Int16
  | .uint16 => UInt16
  | .int32 => Int32
  | .uint32 => UInt32
  | .int64 => Int64
  | .uint64 => UInt64
  | .float => BitVec 32
  | .double => BitVec 64
  | .string => Text
  | .boolean => Bool
  | .void => Unit

instance : (U : UserType) → DecidableEq U.Val
  | .int8 => inferInstanceAs (DecidableEq Int8)
  | .uint8 => inferInstanceAs (DecidableEq UInt8)
  | .int16 => inferInstanceAs (DecidableEq Int16)
  | .uint16 => inferInstanceAs (DecidableEq UInt16)
  | .int32 => inferInstanceAs (DecidableEq Int32)
  | .uint32 => inferInstanceAs (DecidableEq UInt32)
  | .int64 => inferInstanceAs (DecidableEq Int64)
  | .uint64 => inferInstanceAs (DecidableEq UInt64)
  | .float => inferInstanceAs (DecidableEq (BitVec 32))
  | .double => inferInstanceAs (DecidableEq (BitVec 64))
  | .string => inferInstanceAs (DecidableEq (List Char))
  | .boolean => inferInstanceAs (DecidableEq Bool)
  | .void => inferInstanceAs (DecidableEq Unit)

/-- `UserType()`. -/
def UserType.zero : (U : UserType) → U.Val
  | .int8 => (0 : Int8)
  | .uint8 => (0 : UInt8)
  | .int16 => (0 : Int16)
  | .uint16 => (0 : UInt16)
  | .int32 => (0 : Int32)
  | .uint32 => (0 : UInt32)
  | .int64 => (0 : Int64)
  | .uint64 => (0 : UInt64)
  | .float => 0#32
  | .double => 0#64
  | .string => ([] : Text)
  | .boolean => false
  | .void => ()

/-- `std::is_same` of a user type and a number type: the values are the same, too. -/
def sameType : (c : CType) → (U : UserType) → Option (c.Val ≃ U.Val)
  | .int16, .int16 => some (Equiv.refl Int16)
  | .uint16, .uint16 => some (Equiv.refl UInt16)
  | .int32, .int32 => some (Equiv.refl Int32)
  | .uint32, .uint32 => some (Equiv.refl UInt32)
  | .int64, .int64 => some (Equiv.refl Int64)
  | .uint64, .uint64 => some (Equiv.refl UInt64)
  | .float, .float => some (Equiv.refl (BitVec 32))
  | .double, .double => some (Equiv.refl (BitVec 64))
  | _, _ => none

/-- The conversions of ChimeraTK and DOOCS between numbers, user types and texts. -/
structure Conversions where
  numericToUserType : (U : UserType) → (c : CType) → c.Val → U.Val
  userTypeToNumeric : (c : CType) → (U : UserType) → U.Val → c.Val
  numericToUserType_same : ∀ c U e, sameType c U = some e → ∀ v, numericToUserType U c v = e v
  userTypeToNumeric_same : ∀ c U e, sameType c U = some e →
    ∀ v, userTypeToNumeric c U v = e.symm v
  /-- A `Void` is written as 0. -/
  userTypeToNumeric_void : ∀ c v, userTypeToNumeric c .void v = c.zero
  zero_ne_one : ∀ U, U ≠ .void →
    numericToUserType U .int64 (0 : Int64) ≠ numericToUserType U .int64 (1 : Int64)
  /-- `EqData::type_string`. -/
  typeString : DoocsType → Text
  /-- `EqData::get_string`. -/
  getString : Payload → Text
  getString_text : ∀ s, getString (.text s) = s
  getString_string : ∀ s, getString (.string s) = s

namespace Plain

/-- The number a value stands for; of the floating point numbers only 1 is told from 0. -/
def toInt : (c : CType) → c.Val → ℤ
  | .bool, (b : Bool) => b.toNat
  | .int16, v => Int16.toInt v
  | .uint16, v => (UInt16.toNat v : ℤ)
  | .int32, v => Int32.toInt v
  | .uint32, v => (UInt32.toNat v : ℤ)
  | .int64, v => Int64.toInt v
  | .uint64, v => (UInt64.toNat v : ℤ)
  | .float, (v : BitVec 32) => if v = 0x3F800000#32 then 1 else 0
  | .double, (v : BitVec 64) => if v = 0x3FF0000000000000#64 then 1 else 0

def userTypeOfInt : (U : UserType) → ℤ → U.Val
  | .int8, z => Int8.ofInt z
  | .uint8, z => UInt8.ofInt z
  | .int16, z => Int16.ofInt z
  | .uint16, z => UInt16.ofInt z
  | .int32, z => Int32.ofInt z
  | .uint32, z => UInt32.ofInt z
  | .int64, z => Int64.ofInt z
  | .uint64, z => UInt64.ofInt z
  | .float, z => if z = 0 then 0#32 else 0x3F800000#32
  | .double, z => if z = 0 then 0#64 else 0x3FF0000000000000#64
  | .string, z => if z = 0 then ['0'] else ['1']
  | .boolean, z => decide (z ≠ 0)
  | .void, _ => ()

def numericToUserType (U : UserType) (c : CType) (v : c.Val) : U.Val :=
  match sameType c U with
  | some e => e v
  | none => userTypeOfInt U (toInt c v)

def userTypeToNumeric (c : CType) (U : UserType) (v : U.Val) : c.Val :=
  match sameType c U with
  | some e => e.symm v
  | none => c.zero

theorem zero_ne_one (U : UserType) (h : U ≠ .void) :
    numericToUserType U .int64 (0 : Int64) ≠ numericToUserType U .int64 (1 : Int64) := by
  cases U
  all_goals first | exact absurd rfl h | decide

end Plain

/-- Conversions which are right for equal types and for the numbers 0 and 1. -/
def plainConversions : Conversions where
  numericToUserType := Plain.numericToUserType
  userTypeToNumeric := Plain.userTypeToNumeric
  numericToUserType_same c U e h v := by simp [Plain.numericToUserType, h]
  userTypeToNumeric_same c U e h v := by simp [Plain.userTypeToNumeric, h]
  userTypeToNumeric_void c v := by cases c <;> rfl
  zero_ne_one := Plain.zero_ne_one
  typeString _ := []
  getString
    | .text s | .string s => s
    | _ => []
  getString_text _ := rfl
  getString_string _ := rfl

end DoocsBackend.Accessor
