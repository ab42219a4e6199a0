import DoocsBackend.Accessor.Construct
import DoocsBackend.Catalogue.Fetcher

/-! # Catalogue entries and accessors

The catalogue describes a register from a reply to the fetcher, an accessor finds out its shape
by itself. Both have to come to the same number of elements and the same kind of numbers.
-/
namespace DoocsBackend.Accessor
open Catalogue (DoocsBackendRegisterInfo Libraries AccessModeFlags PropertyAnswer CatalogueFetcher)
open Catalogue.DoocsBackendRegisterCatalogue (propertyRegisters)

/-- The types whose numbers are read by the numeric accessor. -/
def numericTypes : List DoocsType :=
  [.bool, .aBool, .short, .aShort, .ushort, .aUshort, .int, .aInt, .uint, .aUint, .long, .aLong,
    .ulong, .aUlong, .float, .spectrum, .gspectrum, .aFloat, .double, .aDouble]

/-- The accessor class is the one `getRegisterAccessor_impl` makes for a property of this type, or
for a field of it. -/
def Kind.Serves {U : UserType} (kind : Kind U) (type : DoocsType) : Prop :=
  match kind with
  | .numeric => type ∈ numericTypes
  | .iiii => type = .iiii
  | .ifff _ => type = .ifff
  | .string => type = .text ∨ type = .string
  | .image => type = .image
  | .eventId | .timeStamp => False

/-- `T` is an integer type or `bool`. -/
def CType.isInteger : CType → Bool
  | .float | .double => false
  | _ => true

/-- A reply to the fetcher which carries the given data without an error. -/
structure Announces (L : Libraries) (answer : PropertyAnswer) (dst : Payload) : Prop where
  arrayLength : answer.arrayLength = dst.arrayLength
  type : L.type answer.type = dst.type

/-- All of a register is asked for, with an access mode the register has. -/
structure Arguments.AsksForAll (args : Arguments) (info : DoocsBackendRegisterInfo) : Prop where
  numberOfWords : args.numberOfWords = 0
  wordOffset : args.wordOffsetInRegister = 0
  entry : args.info = some info
  raw : args.flags.raw = false
  waitForNewData : args.flags.waitForNewData = true →
    info.accessModeFlags.waitForNewData = true ∧ args.attachError = none

/-- The accessor is initialised from a reply with this data. -/
structure Arguments.IsLive (args : Arguments) (dst : Payload) : Prop where
  isOpen : args.isOpen = true
  rc : args.rc = .ok
  dst : args.dst = dst

/-- The accessor is initialised from the catalogue. -/
def Arguments.IsFromCatalogue (args : Arguments) : Prop :=
  args.isOpen = true →
    args.rc = .transactionError ∨ args.rc = .transportError ∨ args.rc = .other

section Shape
variable (L : Libraries) (M : ImageLayout) {U : UserType}

/-- The accessor exists and gives the user as many elements as the entry says. -/
def HasLength (kind : Kind U) (args : Arguments) (length : ℕ) : Prop :=
  ∃ a, construct M L.type kind args = .ok a ∧ a.nElements = length ∧ a.bufferLength = length

/-- The entry describes the accessor, whether that is made from the same data or from the entry. -/
structure Describes (kind : Kind U) (dst : Payload) (info : DoocsBackendRegisterInfo) : Prop where
  live : ∀ args : Arguments, args.AsksForAll info → args.IsLive dst →
    HasLength L M kind args info.length
  catalogue : ∀ args : Arguments, args.AsksForAll info → args.IsFromCatalogue →
    HasLength L M kind args info.length
  isIntegral : ∀ c, callForDoocsType dst.type = some c →
    (info.dataDescriptor.isIntegral = true ↔ c.isInteger = true)

/-- Integer types which `addProperty` leaves to the branch for floating point numbers. -/
def announcedAsFloatingPoint : List DoocsType :=
  [.bool, .aBool, .short, .ushort, .aUshort, .uint, .aUint, .long, .ulong, .aUlong]

variable {L M} {kind : Kind U} {args : Arguments} {info : DoocsBackendRegisterInfo}
  {name : Text} {length : ℕ} {id : ℤ} {flags : AccessModeFlags}

/-- The length of the entries for a type, given the one which is reported. -/
def entryLength (type : DoocsType) (length : ℕ) : ℕ :=
  match type with
  | .text | .string | .ustr => 1
  | .iiii => 4
  | _ => if length = 0 then 1 else length

theorem shape_of_mem_propertyRegisters (h : info ∈ propertyRegisters L name length id flags) :
    info.length = entryLength (L.type id) length ∧ info.doocsTypeId = id := by
  unfold propertyRegisters at h
  cases ht : L.type id
  all_goals
    simp only [ht, List.mem_cons, List.not_mem_nil, or_false] at h
    rcases h with rfl | rfl | rfl | rfl
  all_goals exact ⟨rfl, rfl⟩

/-- The entries of integer types which are described as such. -/
theorem isIntegral_of_mem_propertyRegisters
    (h : info ∈ propertyRegisters L name length id flags) (hifff : L.type id ≠ .ifff)
    (himage : L.type id ≠ .image) : info.dataDescriptor.isIntegral =
      decide (L.type id ∈ [.aShort, .aByte, .aLong, .int, .aInt, .iiii]) := by
  unfold propertyRegisters at h
  cases ht : L.type id
  case ifff => exact absurd ht hifff
  case image => exact absurd ht himage
  all_goals
    simp only [ht, List.mem_singleton] at h
    rw [h]
    rfl

theorem wordsOf_of_asksForAll (hall : args.AsksForAll info) (n : ℕ) : wordsOf args n = n :=
  if_pos hall.numberOfWords

/-- Nothing is wrong with asking for all of a register. -/
theorem constructBase_of_asksForAll {shape : ℕ × DoocsType} (hall : args.AsksForAll info)
    (hs : actualShape M L.type args info = .ok shape) (hlength : shape.1 < 2 ^ 32) :
    constructBase M L.type kind args =
      .ok (initialised M kind args args.flags.waitForNewData shape) := by
  have hmode : ¬ (args.flags.waitForNewData = true ∧ ¬ info.accessModeFlags.waitForNewData = true) :=
    fun h => h.2 (hall.waitForNewData h.1).1
  have hrange : ¬ (shape.1 < sizeAdd (wordsOf args shape.1) args.wordOffsetInRegister ∧
      shape.2 ≠ .image) := by
    rw [wordsOf_of_asksForAll hall, hall.wordOffset, sizeAdd, Nat.add_zero]
    exact fun h => absurd h.1 (Nat.mod_le _ _).not_gt
  have hsize : ¬ args.maxSize < wordsOf args shape.1 := by
    rw [wordsOf_of_asksForAll hall, not_lt]
    exact hlength.le.trans args.le_maxSize
  have hattach : (if args.flags.waitForNewData = true then args.attachError else none) = none := by
    split
    · rename_i h
      exact (hall.waitForNewData h).2
    · rfl
  rw [constructBase, if_neg (by rw [hall.raw]; exact Bool.false_ne_true), hall.entry]
  simp only
  rw [if_neg hmode, initialise, hs, ok_bind, if_neg hrange, if_neg hsize, hattach]

theorem src_type_initialised (kind : Kind U) (args : Arguments) (useZMQ : Bool)
    (shape : ℕ × DoocsType) : (initialised M kind args useZMQ shape).src.type = shape.2 :=
  Payload.type_blank _ _

/-- The accessor class accepts its own types; for the field of an IFFF it corrects the number of
elements. -/
theorem checkKind_of_serves {shape : ℕ × DoocsType} (hall : args.AsksForAll info)
    (hk : kind.Serves shape.2) :
    let a := initialised M kind args args.flags.waitForNewData shape
    checkKind args a = .ok { a with nElements := if shape.2 = .ifff then 1 else a.nElements } := by
  intro a
  have hsrc : a.src.type = shape.2 := src_type_initialised _ _ _ _
  have hwords : ¬ (1 < args.numberOfWords ∨ args.wordOffsetInRegister ≠ 0) := by
    rw [hall.numberOfWords, hall.wordOffset]
    simp
  have hoffset : ¬ 0 < args.wordOffsetInRegister := by
    rw [hall.wordOffset]
    exact lt_irrefl 0
  cases kind with
  | numeric =>
    have hnumeric : ∀ t ∈ numericTypes, callForDoocsType t ≠ none ∧ t ≠ .ifff := by decide
    change (if callForDoocsType a.src.type = none then _ else Except.ok a) = _
    rw [hsrc, if_neg (hnumeric _ hk).1, if_neg (hnumeric _ hk).2]
  | iiii =>
    have ht : shape.2 = .iiii := hk
    change (if callForDoocsType a.src.type = none then _ else Except.ok a) = _
    rw [hsrc, ht, if_neg (by decide), if_neg (by decide)]
  | ifff field =>
    have ht : shape.2 = .ifff := hk
    change (if _ then _ else if a.src.type ≠ DoocsType.ifff then _
      else Except.ok { a with nElements := 1 }) = _
    rw [hsrc, if_neg hwords, if_neg (not_not.mpr ht), if_pos ht]
  | string =>
    have ht : shape.2 = .text ∨ shape.2 = .string := hk
    change (if a.src.type ≠ DoocsType.text ∧ a.src.type ≠ DoocsType.string then _ else Except.ok a) = _
    rw [hsrc, if_neg fun h => ht.elim h.1 h.2, if_neg]
    rcases ht with ht | ht <;> simp [ht]
  | image =>
    have ht : shape.2 = .image := hk
    change (if a.src.type ≠ DoocsType.image then _ else if _ then _ else Except.ok a) = _
    rw [hsrc, if_neg (not_not.mpr ht), if_neg hoffset, ht, if_neg (by decide)]
  | eventId | timeStamp => exact hk.elim

/-- The accessor of a whole register takes its length from the shape it finds. -/
theorem construct_of_asksForAll {shape : ℕ × DoocsType} (hall : args.AsksForAll info)
    (hk : kind.Serves shape.2) (hs : actualShape M L.type args info = .ok shape)
    (hlength : shape.1 < 2 ^ 32) :
    ∃ a, construct M L.type kind args = .ok a ∧ a.bufferLength = shape.1 ∧
      a.nElements = if shape.2 = .ifff then 1 else shape.1 := by
  have hargs : kindArguments kind args = args := by
    cases kind with
    | eventId | timeStamp => exact hk.elim
    | _ => rfl
  have hwords := wordsOf_of_asksForAll hall shape.1
  rw [construct, hargs, constructBase_of_asksForAll hall hs hlength, ok_bind, checkKind_of_serves hall hk]
  refine ⟨_, rfl, hwords, ?_⟩
  simp only [initialised, hwords]

theorem hasLength_iff_of_shape {shape : ℕ × DoocsType} {length : ℕ} (hall : args.AsksForAll info)
    (hk : kind.Serves shape.2) (hs : actualShape M L.type args info = .ok shape)
    (hlength : shape.1 < 2 ^ 32) :
    HasLength L M kind args length ↔
      shape.1 = length ∧ (shape.2 = .ifff → length = 1) := by
  obtain ⟨a, ha, hbuffer, helements⟩ := construct_of_asksForAll hall hk hs hlength
  rw [HasLength, ha]
  simp only [Except.ok.injEq, exists_eq_left', hbuffer, helements]
  by_cases ht : shape.2 = .ifff
  · rw [if_pos ht]
    exact ⟨fun h => ⟨h.2, fun _ => h.1.symm⟩, fun h => ⟨(h.2 ht).symm, h.1⟩⟩
  · rw [if_neg ht]
    exact ⟨fun h => ⟨h.2, fun h' => absurd h' ht⟩, fun h => ⟨h.1, h.1⟩⟩

/-- Strings count as one element. -/
def countStrings (shape : ℕ × DoocsType) : ℕ × DoocsType :=
  if shape.2 = .text ∨ shape.2 = .string then (1, shape.2) else shape

theorem actualShape_of_isLive {dst : Payload} (h : args.IsLive dst) :
    actualShape M L.type args info = .ok (countStrings (shapeOfReply M dst)) := by
  rw [actualShape, reportedShape, if_pos ⟨h.isOpen, h.rc⟩, h.dst]
  rfl

theorem actualShape_of_isFromCatalogue (h : args.IsFromCatalogue) :
    actualShape M L.type args info = .ok (countStrings (info.length, L.type info.doocsTypeId)) := by
  rw [actualShape, reportedShape, if_neg, if_neg]
  · rfl
  · rintro ⟨hopen, hrc⟩
    rcases h hopen with hrc' | hrc' | hrc' <;> simp [hrc'] at hrc
  · rintro ⟨hopen, hrc⟩
    rcases h hopen with hrc' | hrc' | hrc' <;> simp [hrc'] at hrc

/-- A reply of a supported type whose lengths are consistent with the type. -/
def Payload.IsConsistent : Payload → Prop
  | .array _ xs => xs ≠ []
  | .raw .. | .null => False
  | _ => True

theorem lengthOf_eq {answer : PropertyAnswer} {dst : Payload} (ha : Announces L answer dst) :
    CatalogueFetcher.lengthOf L M answer =
      if dst.type = .image then dst.arrayLength + M.headerSize else dst.arrayLength := by
  rw [CatalogueFetcher.lengthOf, ha.type, ha.arrayLength]

/-- The length found in a reply is the one announced for it, except for the whole IFFF. -/
theorem countStrings_shapeOfReply {answer : PropertyAnswer} {dst : Payload}
    (ha : Announces L answer dst) (hdst : dst.IsConsistent) :
    countStrings (shapeOfReply M dst) =
      (if dst.type = .ifff then 4
        else entryLength dst.type (CatalogueFetcher.lengthOf L M answer), dst.type) := by
  rw [lengthOf_eq ha]
  cases dst with
  | null | raw => exact hdst.elim
  | scalar c v => cases c <;> rfl
  | array t xs =>
    have hpos : xs.length ≠ 0 := List.length_pos_iff.mpr hdst |>.ne'
    cases t <;>
      simp [countStrings, shapeOfReply, entryLength, Payload.type, ArrayType.type,
        Payload.arrayLength, hpos]
  | iiii | ifff | text | string => rfl
  | image header body =>
    have := M.headerSize_pos
    by_cases hb : body.length = 0 <;>
      simp [countStrings, shapeOfReply, entryLength, Payload.type, Payload.arrayLength,
        Payload.length, hb]
    all_goals omega

/-- Strings count as one element in the catalogue already. -/
theorem countStrings_entry (type : DoocsType) (n : ℕ) :
    countStrings (entryLength type n, type) = (entryLength type n, type) := by
  unfold countStrings
  split
  · rename_i h
    rcases h with h | h
    · simp only at h
      rw [h]
      rfl
    · simp only at h
      rw [h]
      rfl
  · rfl

theorem entryLength_ifff {answer : PropertyAnswer} {dst : Payload} (ha : Announces L answer dst)
    (ht : dst.type = .ifff) :
    entryLength dst.type (CatalogueFetcher.lengthOf L M answer) = 1 := by
  rw [lengthOf_eq ha]
  cases dst with
  | ifff => rfl
  | scalar c v => cases c <;> cases ht
  | array t xs => cases t <;> cases ht
  | raw t n => cases t <;> cases ht
  | null | iiii | text | string | image => cases ht

/-- Arguments which ask for all of a register while the backend is open. -/
def openArguments (info : DoocsBackendRegisterInfo) (dst : Payload) : Arguments where
  path := []
  numberOfWords := 0
  wordOffsetInRegister := 0
  flags := {}
  info := some info
  isOpen := true
  rc := .ok
  dst := dst
  attachError := none
  numberOfWords_lt := Arguments.zero_lt
  wordOffset_lt := Arguments.zero_lt

theorem asksForAll_openArguments (info : DoocsBackendRegisterInfo) (dst : Payload) :
    (openArguments info dst).AsksForAll info :=
  ⟨rfl, rfl, rfl, rfl, fun _ => by contradiction⟩

theorem announcedAsFloatingPoint_iff {type : DoocsType} (himage : type ≠ .image) :
    (∀ c, callForDoocsType type = some c →
      (decide (type ∈ [.aShort, .aByte, .aLong, .int, .aInt, .iiii]) = true ↔
        c.isInteger = true)) ↔ type ∉ announcedAsFloatingPoint := by
  cases type <;> simp [callForDoocsType, announcedAsFloatingPoint, CType.isInteger] at himage ⊢

/-- The catalogue describes the accessors of a property, however they are initialised, exactly if
its type is neither an integer type announced as floating point nor IFFF, whose accessors have four
elements when initialised from a reply. -/
theorem describes_iff {answer : PropertyAnswer} {dst : Payload} (hk : kind.Serves dst.type)
    (hdst : dst.IsConsistent) (ha : Announces L answer dst)
    (hinfo : info ∈ propertyRegisters L name (CatalogueFetcher.lengthOf L M answer) answer.type
      flags) (hunsigned : info.length < 2 ^ 32) :
    Describes L M kind dst info ↔ dst.type ∉ announcedAsFloatingPoint ∧ dst.type ≠ .ifff := by
  obtain ⟨hlength, hid⟩ := shape_of_mem_propertyRegisters hinfo
  rw [ha.type] at hlength
  have hlive (args : Arguments) (hall : args.AsksForAll info) (h : args.IsLive dst) :
      HasLength L M kind args info.length ↔ dst.type ≠ .ifff := by
    have hs : actualShape M L.type args info = _ := actualShape_of_isLive h
    rw [countStrings_shapeOfReply ha hdst, ← hlength] at hs
    have hfits : (if dst.type = .ifff then 4 else info.length) < 2 ^ 32 := by
      split
      · decide
      · exact hunsigned
    rw [hasLength_iff_of_shape hall hk hs hfits, hlength]
    by_cases ht : dst.type = .ifff
    · rw [entryLength_ifff ha ht, if_pos ht]
      simp [ht]
    · rw [if_neg ht]
      simp [ht]
  have hcatalogue (args : Arguments) (hall : args.AsksForAll info) (h : args.IsFromCatalogue) :
      HasLength L M kind args info.length := by
    have hs : actualShape M L.type args info = _ := actualShape_of_isFromCatalogue h
    rw [hid, ha.type, hlength, countStrings_entry, ← hlength] at hs
    rw [hasLength_iff_of_shape hall hk hs hunsigned, hlength]
    exact ⟨rfl, fun ht => entryLength_ifff ha ht⟩
  have hintegral (hifff : dst.type ≠ .ifff) : (∀ c, callForDoocsType dst.type = some c →
      (info.dataDescriptor.isIntegral = true ↔ c.isInteger = true)) ↔
        dst.type ∉ announcedAsFloatingPoint := by
    by_cases himage : dst.type = .image
    · rw [himage]
      exact iff_of_true (fun c hc => by cases hc) (by decide)
    · rw [← announcedAsFloatingPoint_iff himage, ← ha.type,
        isIntegral_of_mem_propertyRegisters hinfo (by rwa [ha.type]) (by rwa [ha.type])]
  constructor
  · intro h
    have hifff : dst.type ≠ .ifff := (hlive _ (asksForAll_openArguments info dst) ⟨rfl, rfl, rfl⟩).mp
      (h.live _ (asksForAll_openArguments info dst) ⟨rfl, rfl, rfl⟩)
    exact ⟨(hintegral hifff).mp h.isIntegral, hifff⟩
  · rintro ⟨hn, hifff⟩
    exact ⟨fun args hall h => (hlive args hall h).mpr hifff, hcatalogue, (hintegral hifff).mpr hn⟩

/-- The error-free answer to the fetcher for a property of the given type. -/
def answerOf (type : DoocsType) (arrayLength : ℕ) : PropertyAnswer where
  rc := 0
  error := 0
  text := []
  arrayLength := arrayLength
  type := Catalogue.plainLibraries.id type
  spnGet := ⟨1, .other⟩
  spnSet := ⟨1, .other⟩

/-- The entry of a plain numeric property `P`. -/
def plainEntry (type : DoocsType) (length : ℕ) (description : Catalogue.DataDescriptor) :
    DoocsBackendRegisterInfo where
  name := "/P".toList
  length := length
  dataDescriptor := description
  accessModeFlags := {}
  doocsTypeId := Catalogue.plainLibraries.id type

theorem serves_intArray (xs : List ArrayType.aInt.elem.Val) :
    (Kind.numeric (U := .int32)).Serves (Payload.array .aInt xs).type := by
  change DoocsType.aInt ∈ numericTypes
  decide

theorem describes_intArray :
    Describes Catalogue.plainLibraries.toLibraries plainImageLayout (Kind.numeric (U := .int32))
      (.array .aInt [(1 : Int32), (2 : Int32)])
      (plainEntry .aInt 2 (Catalogue.DoocsBackendRegisterCatalogue.signedInteger 11)) := by
  have hinfo : plainEntry .aInt 2 (Catalogue.DoocsBackendRegisterCatalogue.signedInteger 11) ∈
      propertyRegisters Catalogue.plainLibraries.toLibraries "/P".toList
        (CatalogueFetcher.lengthOf Catalogue.plainLibraries.toLibraries plainImageLayout
          (answerOf .aInt 2)) (answerOf .aInt 2).type {} := List.mem_singleton.mpr rfl
  exact (describes_iff (serves_intArray _) (List.cons_ne_nil _ _) ⟨rfl, rfl⟩ hinfo (by decide)).mpr (by decide)

/-- A `LONG` is announced as a floating point number. -/
theorem not_describes_long : ∃ info ∈ propertyRegisters Catalogue.plainLibraries.toLibraries
      "/P".toList (CatalogueFetcher.lengthOf Catalogue.plainLibraries.toLibraries plainImageLayout
        (answerOf .long 0)) (answerOf .long 0).type {},
    ¬ Describes Catalogue.plainLibraries.toLibraries plainImageLayout (Kind.numeric (U := .int64))
      (.scalar .int64 (0 : Int64)) info := by
  refine ⟨plainEntry .long 1 Catalogue.DoocsBackendRegisterCatalogue.floatingPoint,
    List.mem_singleton.mpr rfl, fun h => ?_⟩
  have hintegral := (h.isIntegral .int64 rfl).mpr rfl
  cases hintegral

end Shape

end DoocsBackend.Accessor
