import DoocsBackend.Basic
import DoocsBackend.Library.FirstWins

/-! # The register catalogue

A property becomes one, three or more registers: the property itself (or the four
fields of an IFFF) and the two virtual registers below it. Registers whose name is
taken already are skipped.
-/
namespace DoocsBackend.Catalogue

inductive FundamentalType where
  | numeric | string
  deriving DecidableEq, Repr

inductive DataType where
  | none | uint8
  deriving DecidableEq, Repr

/-- `ChimeraTK::DataDescriptor`, by its constructor arguments. -/
structure DataDescriptor where
  fundamentalType : FundamentalType
  isIntegral : Bool := false
  isSigned : Bool := false
  nDigits : ℕ := 0
  nFractionalDigits : ℕ := 0
  rawDataType : DataType := .none
  deriving DecidableEq, Repr

/-- `ChimeraTK::AccessModeFlags`, a set of the two access modes. -/
structure AccessModeFlags where
  raw : Bool := false
  waitForNewData : Bool := false
  deriving DecidableEq, Repr

/-- The components in front of a child of the path: none for the root. -/
def parentOf (path : Text) : Text := if path = ['/'] then [] else path

/-- The code outside the repository which the catalogue rests on. -/
structure Libraries where
  /-- The name `eq_types.h` gives to a type id. -/
  type : ℤ → DoocsType
  id : DoocsType → ℤ
  type_id : ∀ t, t ≠ .other → type (id t) = t
  /-- `doocs::EqData::type_string`. -/
  typeString : ℤ → Text
  /-- The text of the `ChimeraTK::RegisterPath` made from a text. -/
  path : Text → Text
  path_path : ∀ s, path (path s) = path s
  path_child : ∀ s f, f ≠ [] → '/' ∉ f → path (s ++ '/' :: f) = parentOf (path s) ++ '/' :: f

structure DoocsBackendRegisterInfo where
  name : Text
  length : ℕ
  dataDescriptor : DataDescriptor
  accessModeFlags : AccessModeFlags
  doocsTypeId : ℤ
  readable : Bool := true
  writable : Bool := true
  deriving DecidableEq, Repr

/-- The registers in the order they were added; no two have the same name. -/
structure DoocsBackendRegisterCatalogue where
  registers : List DoocsBackendRegisterInfo := []
  isCatalogueComplete : Bool := false
  nodup : (registers.map (·.name)).Nodup := by simp

namespace DoocsBackendRegisterCatalogue

def empty : DoocsBackendRegisterCatalogue := {}

def hasRegister (c : DoocsBackendRegisterCatalogue) (name : Text) : Bool :=
  FirstWins.has DoocsBackendRegisterInfo.name c.registers name

/-- `if(!hasRegister(info.getRegisterName())) addRegister(info);` -/
def addNew (c : DoocsBackendRegisterCatalogue) (info : DoocsBackendRegisterInfo) :
    DoocsBackendRegisterCatalogue where
  registers := FirstWins.insertNew DoocsBackendRegisterInfo.name c.registers info
  isCatalogueComplete := c.isCatalogueComplete
  nodup := FirstWins.nodup_insertNew c.nodup

variable (L : Libraries)

/-- Numeric, integral and signed, with the given number of decimal digits. -/
def signedInteger (digits : ℕ) : DataDescriptor :=
  { fundamentalType := .numeric, isIntegral := true, isSigned := true, nDigits := digits }

/-- What every floating point register is described as. -/
def floatingPoint : DataDescriptor :=
  { fundamentalType := .numeric, isSigned := true, nDigits := 320, nFractionalDigits := 300 }

/-- The byte array an image is read into. -/
def imageBytes : DataDescriptor :=
  { fundamentalType := .numeric, isIntegral := true, nDigits := 3, rawDataType := .uint8 }

/-- The registers a property of the given shape consists of, in the order of addition. -/
def propertyRegisters (name : Text) (length : ℕ) (doocsType : ℤ) (flags : AccessModeFlags) :
    List DoocsBackendRegisterInfo :=
  -- DOOCS reports length 0 if not an array
  let info : DoocsBackendRegisterInfo :=
    { name := L.path name, length := if length = 0 then 1 else length,
      dataDescriptor := floatingPoint, accessModeFlags := flags, doocsTypeId := doocsType }
  match L.type doocsType with
  | .text | .string | .ustr =>
    -- in case of strings, DOOCS reports the length of the string
    [{ info with length := 1, dataDescriptor := { fundamentalType := .string } }]
  | .aShort => [{ info with dataDescriptor := signedInteger 6 }]
  | .aByte => [{ info with dataDescriptor := signedInteger 4 }]
  | .aLong => [{ info with dataDescriptor := signedInteger 20 }]
  | .int | .aInt => [{ info with dataDescriptor := signedInteger 11 }]
  | .iiii => [{ info with length := 4, dataDescriptor := signedInteger 11 }]
  | .ifff =>
    [{ info with name := L.path (name ++ "/I".toList), dataDescriptor := signedInteger 11 },
     { info with name := L.path (name ++ "/F1".toList) },
     { info with name := L.path (name ++ "/F2".toList) },
     { info with name := L.path (name ++ "/F3".toList) }]
  | .image => [{ info with dataDescriptor := imageBytes, writable := false }]
  -- floating point data types: always treat like double
  | _ => [info]

/-- The read-only 64 bit register `name/field` next to a property. -/
def virtualRegister (name field : Text) (flags : AccessModeFlags) : DoocsBackendRegisterInfo :=
  { name := L.path (name ++ '/' :: field), length := 1, dataDescriptor := signedInteger 20,
    accessModeFlags := flags, doocsTypeId := L.id .long, writable := false }

def addProperty (c : DoocsBackendRegisterCatalogue) (name : Text) (length : ℕ) (doocsType : ℤ)
    (flags : AccessModeFlags) : DoocsBackendRegisterCatalogue :=
  let c := (propertyRegisters L name length doocsType flags).foldl addNew c
  let c := c.addNew (virtualRegister L name "eventId".toList flags)
  c.addNew (virtualRegister L name "timeStamp".toList flags)

/-- All registers one call offers to the catalogue. -/
def offered (name : Text) (length : ℕ) (doocsType : ℤ) (flags : AccessModeFlags) :
    List DoocsBackendRegisterInfo :=
  propertyRegisters L name length doocsType flags ++
    [virtualRegister L name "eventId".toList flags, virtualRegister L name "timeStamp".toList flags]

@[simp] theorem foldl_addNew_registers (c : DoocsBackendRegisterCatalogue)
    (infos : List DoocsBackendRegisterInfo) :
    (infos.foldl addNew c).registers =
      FirstWins.insertAll DoocsBackendRegisterInfo.name c.registers infos := by
  induction infos generalizing c with
  | nil => rfl
  | cons info infos ih => exact ih (c.addNew info)

/-- One call is the first-wins registration of what it offers. -/
theorem addProperty_registers (c : DoocsBackendRegisterCatalogue) (name : Text) (length : ℕ)
    (doocsType : ℤ) (flags : AccessModeFlags) :
    (addProperty L c name length doocsType flags).registers =
      FirstWins.insertAll DoocsBackendRegisterInfo.name c.registers
        (offered L name length doocsType flags) := by
  rw [offered, FirstWins.insertAll_append, ← foldl_addNew_registers]
  rfl

variable {L} {c : DoocsBackendRegisterCatalogue} {name : Text} {length : ℕ} {doocsType : ℤ}
  {flags : AccessModeFlags} {info : DoocsBackendRegisterInfo}

theorem mem_addProperty_of_mem (h : info ∈ c.registers) :
    info ∈ (addProperty L c name length doocsType flags).registers := by
  rw [addProperty_registers]
  exact FirstWins.mem_insertAll_of_mem h

theorem hasRegister_addProperty (h : info ∈ offered L name length doocsType flags) :
    (addProperty L c name length doocsType flags).hasRegister info.name = true := by
  rw [hasRegister, addProperty_registers]
  exact FirstWins.has_insertAll_of_offered h

/-- Whatever its type, a property has the virtual register of its event ids. -/
theorem hasRegister_eventId :
    (addProperty L c name length doocsType flags).hasRegister
      (L.path (name ++ "/eventId".toList)) = true := by
  have h : virtualRegister L name "eventId".toList flags ∈ offered L name length doocsType flags := by
    simp [offered]
  exact hasRegister_addProperty h

theorem hasRegister_iff {n : Text} :
    c.hasRegister n = true ↔ ∃ info ∈ c.registers, info.name = n :=
  FirstWins.has_iff

theorem hasRegister_empty (n : Text) : empty.hasRegister n = false := rfl

theorem hasRegister_addProperty_iff {n : Text} :
    (addProperty L c name length doocsType flags).hasRegister n = true ↔
      c.hasRegister n = true ∨
        ∃ info ∈ offered L name length doocsType flags, info.name = n := by
  rw [hasRegister, addProperty_registers]
  exact FirstWins.has_insertAll_iff

theorem hasRegister_addProperty_of_has {n : Text} (h : c.hasRegister n = true) :
    (addProperty L c name length doocsType flags).hasRegister n = true := by
  obtain ⟨info, hm, rfl⟩ := hasRegister_iff.mp h
  exact hasRegister_iff.mpr ⟨info, mem_addProperty_of_mem hm, rfl⟩

end DoocsBackendRegisterCatalogue

/-- The arguments of one `addProperty` call. -/
structure PropertyCall where
  name : Text
  length : ℕ
  doocsType : ℤ
  flags : AccessModeFlags
  deriving DecidableEq, Repr

/-- The catalogue left by a sequence of calls on an empty one. -/
def fill (L : Libraries) (calls : List PropertyCall) : DoocsBackendRegisterCatalogue :=
  calls.foldl (fun c p => c.addProperty L p.name p.length p.doocsType p.flags) .empty

/-- What holds of every entry of the catalogue, given what its type id stands for: a length is at
least 1 and fits into an `int`, and an IIII has four elements. -/
structure DoocsBackendRegisterInfo.WellFormed (type : ℤ → DoocsType)
    (info : DoocsBackendRegisterInfo) : Prop where
  length_pos : 0 < info.length
  length_lt : info.length < 2 ^ 31
  length_iiii : type info.doocsTypeId = .iiii → info.length = 4

namespace DoocsBackendRegisterCatalogue
variable {L : Libraries} {name : Text} {length : ℕ} {doocsType : ℤ} {flags : AccessModeFlags}
  {info : DoocsBackendRegisterInfo}

theorem wellFormed_virtualRegister (field : Text) :
    (virtualRegister L name field flags).WellFormed L.type := by
  refine ⟨Nat.one_pos, Nat.one_lt_two_pow (by decide), fun h => ?_⟩
  rw [virtualRegister, L.type_id .long (by decide)] at h
  cases h

theorem wellFormed_propertyRegisters (hl : length < 2 ^ 31)
    (h : info ∈ propertyRegisters L name length doocsType flags) : info.WellFormed L.type := by
  have hpos : 0 < (if length = 0 then 1 else length) := by split <;> omega
  have hlt : (if length = 0 then 1 else length) < 2 ^ 31 := by split <;> omega
  unfold propertyRegisters at h
  cases ht : L.type doocsType
  all_goals
    simp only [ht, List.mem_cons, List.not_mem_nil, or_false] at h
    rcases h with rfl | rfl | rfl | rfl
  all_goals
    exact ⟨by first | exact hpos | exact Nat.succ_pos _, by first | exact hlt | norm_num,
      by simp [ht]⟩

theorem wellFormed_offered (hl : length < 2 ^ 31)
    (h : info ∈ offered L name length doocsType flags) : info.WellFormed L.type := by
  rcases List.mem_append.mp h with h | h
  · exact wellFormed_propertyRegisters hl h
  · simp only [List.mem_cons, List.not_mem_nil, or_false] at h
    rcases h with rfl | rfl
    · exact wellFormed_virtualRegister _
    · exact wellFormed_virtualRegister _

end DoocsBackendRegisterCatalogue

/-- If all lengths reported by DOOCS are `int`s, every entry of the catalogue is well formed. -/
theorem wellFormed_fill {L : Libraries} {calls : List PropertyCall}
    (h : ∀ p ∈ calls, p.length < 2 ^ 31) :
    ∀ info ∈ (fill L calls).registers, info.WellFormed L.type := by
  induction calls using List.reverseRecOn with
  | nil =>
    intro info hinfo
    cases hinfo
  | append_singleton calls p ih =>
    intro info hinfo
    rw [fill, List.foldl_append, List.foldl_cons, List.foldl_nil,
      DoocsBackendRegisterCatalogue.addProperty_registers] at hinfo
    rcases FirstWins.mem_or_offered_of_mem_insertAll hinfo with hold | hnew
    · exact ih (fun q hq => h q (by simp [hq])) info hold
    · exact DoocsBackendRegisterCatalogue.wellFormed_offered (h p (by simp)) hnew

end DoocsBackend.Catalogue
