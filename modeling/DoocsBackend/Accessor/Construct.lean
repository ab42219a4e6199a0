import DoocsBackend.Accessor.Image
import DoocsBackend.Catalogue.RegisterInfo

/-! # Accessors and their construction

The shape of an accessor is fixed by its constructor: from a reply of the server where
one arrives, from the catalogue otherwise.
-/
namespace DoocsBackend.Accessor
open Catalogue (AccessModeFlags DoocsBackendRegisterInfo)

inductive Field where
  | i | f1 | f2 | f3
  deriving DecidableEq, Repr

/-- The accessor classes for a user type. Only texts are read into strings as such, and only
bytes hold an image. -/
inductive Kind : UserType → Type where
  | numeric {U : UserType} : Kind U
  | iiii {U : UserType} : Kind U
  | ifff {U : UserType} (field : Field) : Kind U
  | string : Kind .string
  | image : Kind .uint8
  | eventId {U : UserType} : Kind U
  | timeStamp {U : UserType} : Kind U

/-- The field of an IFFF accessor, none for all other accessors. -/
def Kind.field? {U : UserType} : Kind U → Option Field
  | .ifff field => some field
  | _ => none

/-- The data members of an accessor which do not change after construction, except `src`,
which `doPreWrite` prepares anew for every write. -/
structure RegisterAccessor (U : UserType) where
  kind : Kind U
  path : Text
  nElements : ℕ
  elementOffset : ℕ
  isArray : Bool
  isPartial : Bool
  useZMQ : Bool
  /-- The size of `buffer_2D[0]`. -/
  bufferLength : ℕ
  src : Payload

/-- Addition of two `size_t` values. -/
def sizeAdd (a b : ℕ) : ℕ := (a + b) % 2 ^ 64

theorem le_plainMaxSize : 2 ^ 32 ≤ 2 ^ 63 - 1 := by decide

/-- The constructor arguments, with the state of the backend and of the server at that time. -/
structure Arguments where
  path : Text
  numberOfWords : ℕ
  wordOffsetInRegister : ℕ
  flags : AccessModeFlags
  /-- The catalogue entry, if there is one. -/
  info : Option DoocsBackendRegisterInfo
  isOpen : Bool
  /-- The answer of the server to the `get` of an open backend. -/
  rc : ReturnCode
  dst : Payload
  /-- The error text where `dmsg_attach` fails. -/
  attachError : Option Text
  /-- The most elements `buffer_2D[0]` can have, which depends on the user type. -/
  maxSize : ℕ := 2 ^ 63 - 1
  numberOfWords_lt : numberOfWords < 2 ^ 64
  wordOffset_lt : wordOffsetInRegister < 2 ^ 64
  le_maxSize : 2 ^ 32 ≤ maxSize := by exact le_plainMaxSize

theorem Arguments.zero_lt : 0 < 2 ^ 64 := by decide

theorem Arguments.one_lt : 1 < 2 ^ 64 := by decide

section Initialise
variable (M : ImageLayout) (typeOf : ℤ → DoocsType)

/-- Length and type of the property according to a reply. -/
def shapeOfReply (dst : Payload) : ℕ × DoocsType :=
  let actualLength := if dst.arrayLength = 0 then dst.length else dst.arrayLength
  -- the byte array needs to store header and body of an image
  (if dst.type = .image then actualLength + M.headerSize else actualLength, dst.type)

/-- Length and type of the property, before strings are counted as one element. -/
def reportedShape (args : Arguments) (info : DoocsBackendRegisterInfo) :
    Except Failure (ℕ × DoocsType) :=
  if args.isOpen ∧ args.rc = .ok then .ok (shapeOfReply M args.dst)
  else if args.isOpen ∧
      (args.rc = .illProperty ∨ args.rc = .illLocation ∨ args.rc = .illAddress) then
    .error (.logicError ("Property does not exist: ".toList ++ args.path))
  else .ok (info.length, typeOf info.doocsTypeId)

/-- `actualLength` and `typeId`. -/
def actualShape (args : Arguments) (info : DoocsBackendRegisterInfo) :
    Except Failure (ℕ × DoocsType) :=
  (reportedShape M typeOf args info).map fun shape =>
    if shape.2 = .text ∨ shape.2 = .string then (1, shape.2) else shape

/-- The number of words asked for, where 0 stands for all of them. -/
def wordsOf (args : Arguments) (actualLength : ℕ) : ℕ :=
  if args.numberOfWords = 0 then actualLength else args.numberOfWords

/-- The accessor `initialise` sets up for a property of the given length and type. -/
def initialised {U : UserType} (kind : Kind U) (args : Arguments) (useZMQ : Bool)
    (shape : ℕ × DoocsType) : RegisterAccessor U where
  kind := kind
  path := args.path
  nElements := wordsOf args shape.1
  elementOffset := args.wordOffsetInRegister
  isArray := decide (1 < shape.1)
  isPartial := !decide (wordsOf args shape.1 = shape.1 ∧ args.wordOffsetInRegister = 0)
  useZMQ := useZMQ
  bufferLength := wordsOf args shape.1
  src := .blank (if shape.2 = .image then shape.1 - M.headerSize else shape.1) shape.2

/-- `initialise` for an accessor of the given kind, after `useZMQ` has been decided. -/
def initialise {U : UserType} (kind : Kind U) (args : Arguments) (info : DoocsBackendRegisterInfo)
    (useZMQ : Bool) : Except Failure (RegisterAccessor U) :=
  actualShape M typeOf args info >>= fun shape =>
    if shape.1 < sizeAdd (wordsOf args shape.1) args.wordOffsetInRegister ∧ shape.2 ≠ .image then
      .error (.logicError
        "Requested number of words exceeds the length of the DOOCS property!".toList)
    else if args.maxSize < wordsOf args shape.1 then .error .lengthError
    else match (if useZMQ then args.attachError else none) with
      | some text => .error (.runtimeError ("Cannot subscribe to DOOCS property '".toList ++
          args.path ++ "' via ZeroMQ: ".toList ++ text))
      | none => .ok (initialised M kind args useZMQ shape)

/-- The constructor of `DoocsBackendRegisterAccessor`. -/
def constructBase {U : UserType} (kind : Kind U) (args : Arguments) :
    Except Failure (RegisterAccessor U) :=
  if args.flags.raw then .error (.logicError "Access mode flag 'raw' is not known here.".toList)
  else match args.info with
    | none => .error (.logicError "Register not found in catalogue.".toList)
    | some info =>
      if args.flags.waitForNewData ∧ ¬ info.accessModeFlags.waitForNewData then
        .error (.logicError "invalid access mode for this register".toList)
      else initialise M typeOf kind args info args.flags.waitForNewData

/-- The C++ type `callForDoocsType` calls its argument for; there is none for types which are
not numeric, for which it throws. -/
def callForDoocsType : DoocsType → Option CType
  | .bool | .aBool => some .bool
  | .short | .aShort => some .int16
  | .ushort | .aUshort => some .uint16
  | .int | .aInt | .iiii => some .int32
  | .uint | .aUint => some .uint32
  | .long | .aLong => some .int64
  | .ulong | .aUlong => some .uint64
  | .float | .spectrum | .gspectrum | .aFloat => some .float
  | .double | .aDouble => some .double
  | _ => none

/-- What the constructor of the accessor class does after that of the base class. -/
def checkKind {U : UserType} (args : Arguments) (a : RegisterAccessor U) :
    Except Failure (RegisterAccessor U) :=
  match a.kind with
  | .numeric | .iiii => if callForDoocsType a.src.type = none then .error .assertion else .ok a
  | .ifff _ =>
    if 1 < args.numberOfWords ∨ args.wordOffsetInRegister ≠ 0 then
      .error (.logicError ("Register '".toList ++ a.path ++ "' is scalar.".toList))
    else if a.src.type ≠ .ifff then .error (.logicError "DOOCS data type not supported.".toList)
    -- DOOCS reports a length of 4
    else .ok { a with nElements := 1 }
  | .string =>
    if a.src.type ≠ .text ∧ a.src.type ≠ .string then
      .error (.logicError "DOOCS data type not supported.".toList)
    else .ok a
  | .image =>
    if a.src.type ≠ .image then .error (.logicError "DOOCS data type not supported.".toList)
    else if 0 < args.wordOffsetInRegister then
      .error (.logicError "DoocsBackendImageRegisterAccessor does not support nonzero offset".toList)
    else .ok a
  | .eventId | .timeStamp => .ok a

/-- The virtual registers are constructed with one word at offset 0 whatever was asked for. -/
def kindArguments {U : UserType} (kind : Kind U) (args : Arguments) : Arguments :=
  match kind with
  | .eventId | .timeStamp =>
    { args with
      numberOfWords := 1, wordOffsetInRegister := 0
      numberOfWords_lt := Arguments.one_lt, wordOffset_lt := Arguments.zero_lt }
  | _ => args

def construct {U : UserType} (kind : Kind U) (args : Arguments) :
    Except Failure (RegisterAccessor U) :=
  constructBase M typeOf kind (kindArguments kind args) >>= checkKind (kindArguments kind args)

/-- An accessor object, which exists only if a constructor returned it. -/
abbrev Constructed (U : UserType) :=
  {a : RegisterAccessor U // ∃ kind args, construct M typeOf kind args = .ok a}

end Initialise

variable {M : ImageLayout} {typeOf : ℤ → DoocsType} {U : UserType} {kind : Kind U}
  {args : Arguments} {a : RegisterAccessor U}

theorem initialise_ok {info : DoocsBackendRegisterInfo} {useZMQ : Bool}
    (h : initialise M typeOf kind args info useZMQ = .ok a) :
    ∃ shape, actualShape M typeOf args info = .ok shape ∧
      (sizeAdd (wordsOf args shape.1) args.wordOffsetInRegister ≤ shape.1 ∨ shape.2 = .image) ∧
      wordsOf args shape.1 ≤ args.maxSize ∧ a = initialised M kind args useZMQ shape := by
  unfold initialise at h
  cases hs : actualShape M typeOf args info with
  | error e => rw [hs] at h; cases h
  | ok shape =>
    rw [hs, ok_bind] at h
    split at h
    · cases h
    · rename_i hr
      split at h
      · cases h
      · rename_i hsize
        split at h
        · cases h
        · cases h
          refine ⟨shape, rfl, ?_, not_lt.mp hsize, rfl⟩
          by_cases hi : shape.2 = .image
          · exact .inr hi
          · exact .inl (by simpa [hi] using hr)

/-- What a constructor returns is what `initialise` has set up, as far as the accessor class
has not changed it. -/
theorem construct_ok (h : construct M typeOf kind args = .ok a) :
    ∃ useZMQ info shape, (kindArguments kind args).info = some info ∧
      actualShape M typeOf (kindArguments kind args) info = .ok shape ∧
      (sizeAdd (wordsOf (kindArguments kind args) shape.1)
        (kindArguments kind args).wordOffsetInRegister ≤ shape.1 ∨ shape.2 = .image) ∧
      checkKind (kindArguments kind args)
        (initialised M kind (kindArguments kind args) useZMQ shape) = .ok a := by
  unfold construct at h
  cases hb : constructBase M typeOf kind (kindArguments kind args) with
  | error e => rw [hb] at h; cases h
  | ok b =>
    rw [hb, ok_bind] at h
    unfold constructBase at hb
    split at hb
    · cases hb
    · split at hb
      · cases hb
      · rename_i info hinfo
        split at hb
        · cases hb
        · obtain ⟨shape, hs, hr, -, rfl⟩ := initialise_ok hb
          exact ⟨_, info, shape, hinfo, hs, hr, h⟩

/-- Only the number of elements of an IFFF field is changed after `initialise`. -/
theorem checkKind_ok {b : RegisterAccessor U} (h : checkKind args b = .ok a) :
    a = b ∧ (∀ field, b.kind ≠ .ifff field) ∨
      a = { b with nElements := 1 } ∧ ∃ field, b.kind = .ifff field := by
  obtain ⟨kind, _, _, _, _, _, _, _, _⟩ := b
  cases kind <;> simp only [checkKind] at h <;> repeat' split at h
  all_goals cases h
  all_goals simp

/-- Except for IFFF fields, the buffer holds the elements of the accessor and nothing else. -/
theorem Constructed.bufferLength_eq (b : Constructed M typeOf U)
    (hf : ∀ field, b.1.kind ≠ .ifff field) : b.1.bufferLength = b.1.nElements := by
  obtain ⟨a, kind, args, h⟩ := b
  obtain ⟨useZMQ, info, shape, -, -, -, hc⟩ := construct_ok h
  obtain ⟨rfl, -⟩ | ⟨rfl, field, hk⟩ := checkKind_ok hc
  · rfl
  · exact absurd hk (hf field)

/-- The virtual registers have one element. -/
theorem Constructed.bufferLength_eq_one (b : Constructed M typeOf U)
    (hk : b.1.kind = .eventId ∨ b.1.kind = .timeStamp) : b.1.bufferLength = 1 := by
  obtain ⟨a, kind, args, h⟩ := b
  obtain ⟨useZMQ, info, shape, -, -, -, hc⟩ := construct_ok h
  obtain ⟨rfl, -⟩ | ⟨rfl, field, hf⟩ := checkKind_ok hc
  · obtain rfl | rfl : kind = .eventId ∨ kind = .timeStamp := hk
    · rfl
    · rfl
  · obtain rfl : kind = .ifff field := hf
    simp [initialised] at hk

end DoocsBackend.Accessor
