import Mathlib

/-! # Texts, failures and DOOCS type names

The vocabulary shared by all parts of the backend.
-/
namespace DoocsBackend

/-- A `std::string`. -/
abbrev Text := List Char

/-- How an operation can end without a result. -/
inductive Failure where
  | logicError (what : Text)
  | runtimeError (what : Text)
  /-- `std::length_error`: a vector is to have more elements than any vector can have. -/
  | lengthError
  /-- A failed `assert`. -/
  | assertion
  /-- Behaviour the C++ standard leaves undefined, such as reading through a null pointer. -/
  | undefined
  deriving DecidableEq, Repr

@[simp] theorem ok_bind {α β : Type} (a : α) (f : α → Except Failure β) :
    (Except.ok a >>= f) = f a := rfl

@[simp] theorem error_bind {α β : Type} (e : Failure) (f : α → Except Failure β) :
    (Except.error e >>= f) = Except.error e := rfl

/-- The property types of `eq_types.h`, as far as the backend distinguishes them:
`aShort` is `DATA_A_SHORT`, and so on. -/
inductive DoocsType where
  | null | bool | aBool | short | aShort | ushort | aUshort | int | aInt | uint | aUint
  | long | aLong | ulong | aUlong | float | spectrum | gspectrum | aFloat | double | aDouble
  | iiii | ifff | text | string | ustr | image | aByte | other
  deriving DecidableEq, Repr

/-- The results of a DOOCS call the backend tells apart. -/
inductive ReturnCode where
  | ok | illProperty | illLocation | illAddress | transactionError | transportError | other
  deriving DecidableEq, Repr

/-- The calls whose failure means that the server cannot be reached. -/
def ReturnCode.isCommunicationError (rc : ReturnCode) : Bool :=
  rc == .transactionError || rc == .transportError

end DoocsBackend
