import DoocsBackend.Accessor.Image
import DoocsBackend.Catalogue.RegisterPath

/-! # Fetching the catalogue from the server

The names below the server address form a tree with the properties at its leaves. All
properties the server can be asked about become registers. The catalogue counts as complete
only if nothing was left out for an error or a cancellation.
-/
namespace DoocsBackend.Catalogue
open Accessor (ImageLayout)

/-! ## Texts -/

def ignorePatterns : List Text :=
  [".HIST", ".FILT", "._FILT", ".EGU", ".DESC", ".HSTAT", "._HSTAT", "._HIST", ".LIST", ".SAVE",
    ".COMMENT", ".XEGU", ".POLYPARA"].map String.toList

def ignoreList : List Text := ["MESSAGE.TICKER", "SPN"].map String.toList

def startsWith (s start : Text) : Bool := start.isPrefixOf s

/-- The levels below the facility an address goes down to. -/
def slashes (s : Text) : ℤ :=
  if startsWith s "doocs://".toList then s.count '/' - 3 else s.count '/'

/-- The name in an entry of a name list, without the comment which follows a blank. -/
def nameOf (entry : Text) : Text := entry.takeWhile (· ≠ ' ')

/-! ## Answers of the server -/

/-- The data objects the `SPN` property answers with: an `INT`, a `USTR` with its `i1_data` and
the integer part of the sum of its floating point members, or something else. -/
inductive SpnData where
  | int (v : ℤ)
  | ustr (i1 fSum : ℤ)
  | other
  deriving DecidableEq, Repr

/-- The port number in an answer, if there is one. -/
def SpnData.port (portp : ℤ) : SpnData → ℤ
  | .int v => v
  | .ustr i1 _ => i1
  | .other => portp

/-- Return code and data of a call on the `SPN` property. -/
structure SpnAnswer where
  rc : ℤ
  dst : SpnData
  deriving DecidableEq, Repr

/-- `checkZmqAvailability`, given the answers to `get` and to `set`. -/
def checkZmqAvailability (get set : SpnAnswer) : Bool :=
  if get.rc ≠ 0 then false
  else
    let portp := match get.dst with
      | .ustr i1 _ => i1
      | _ => 0
    let isSupported := match get.dst with
      | .ustr i1 fSum => decide (¬ (i1 = 0 ∧ fSum = 0))
      | _ => false
    if isSupported then get.dst.port portp ≠ 0
    else if set.rc ≠ 0 then false
    else set.dst.port portp ≠ 0

/-- What the server says when asked about a property. -/
structure PropertyAnswer where
  rc : ℤ
  error : ℤ
  /-- The text of the data object, for an error message. -/
  text : Text
  arrayLength : ℕ
  type : ℤ
  spnGet : SpnAnswer
  spnSet : SpnAnswer
  deriving DecidableEq, Repr

/-- The answers of a server, by the levels above the properties. Each location answers `names()`
with the entries below it or fails. -/
def NameTree : ℕ → Type
  | 0 => PropertyAnswer
  | n + 1 => Option (List (Text × NameTree n))

/-- The indicator of a cancellation, by the number of times it was asked before. -/
structure CancelFlag where
  isReady : ℕ → Bool
  stays : ∀ k, isReady k = true → isReady (k + 1) = true

/-- DOOCS error codes. -/
structure ErrorCodes where
  isSystemError : ℤ → Bool
  deviceError : ℤ

/-! ## The traversal -/

/-- The members of `CatalogueFetcher` which change. -/
structure CatalogueFetcher where
  catalogue : DoocsBackendRegisterCatalogue := .empty
  locationLookupError : Bool := false
  failedPropertyFirst : Text := []
  failedPropertyError : Text := []
  failedPropertyCount : ℕ := 0
  /-- How often the cancel flag was asked. -/
  polls : ℕ := 0

namespace CatalogueFetcher
variable (L : Libraries) (M : ImageLayout) (E : ErrorCodes) (F : CancelFlag) (serverAddress : Text)

/-- One of the internal properties of DOOCS. -/
def isFiltered (name : Text) : Bool := (endsWith name ignorePatterns).1 || ignoreList.contains name

/-- The property is not accessible, or has a permanent `device_error`. -/
def isSkipped (answer : PropertyAnswer) : Bool :=
  (answer.rc ≠ 0 && E.isSystemError answer.error) || answer.error == E.deviceError

/-- The shape in the answer is not that of the property. -/
def isFailed (answer : PropertyAnswer) : Bool := answer.rc ≠ 0 && answer.error ≠ 0

/-- The length a property is added to the catalogue with. -/
def lengthOf (answer : PropertyAnswer) : ℕ :=
  -- length of the byte string (body part, no header) is reported by DOOCS
  if L.type answer.type = .image then answer.arrayLength + M.headerSize else answer.arrayLength

/-- The call of `addProperty` for a property. -/
def propertyCall (fqn : Text) (answer : PropertyAnswer) : PropertyCall where
  name := fqn.drop serverAddress.length
  length := lengthOf L M answer
  doocsType := answer.type
  flags := { waitForNewData := checkZmqAvailability answer.spnGet answer.spnSet }

/-- `fillCatalogue` for a property. -/
def fillProperty (fixedComponents name : Text) (answer : PropertyAnswer) (s : CatalogueFetcher) :
    CatalogueFetcher :=
  if isFiltered name then s
  else
    let fqn := fixedComponents ++ '/' :: name
    if isSkipped E answer then s
    else if isFailed answer then
      { s with
        failedPropertyFirst := if s.locationLookupError then s.failedPropertyFirst else fqn
        failedPropertyError := if s.locationLookupError then s.failedPropertyError else answer.text
        failedPropertyCount := s.failedPropertyCount + 1
        locationLookupError := true }
    else
      let p := propertyCall L M serverAddress fqn answer
      { s with catalogue := s.catalogue.addProperty L p.name p.length p.doocsType p.flags }

/-- The loop over the entries of a name list, which ends early once it is cancelled. -/
def visit {α : Type} (f : Text → α → CatalogueFetcher → CatalogueFetcher) :
    List (Text × α) → CatalogueFetcher → CatalogueFetcher
  | [], s => s
  | (entry, x) :: entries, s =>
    if F.isReady s.polls then { s with polls := s.polls + 1 }
    else visit f entries (f (nameOf entry) x { s with polls := s.polls + 1 })

/-- `fillCatalogue` at a location `n` levels above those with properties: its `level` is `2 - n`
then, or more if `n` is 0. -/
def fillCatalogue : (n : ℕ) → Text → NameTree (n + 1) → CatalogueFetcher → CatalogueFetcher
  | _, _, none, s => { s with locationLookupError := true }
  | 0, fixedComponents, some entries, s =>
    visit F (fillProperty L M E serverAddress fixedComponents) entries s
  | n + 1, fixedComponents, some entries, s =>
    visit F (fun name => fillCatalogue n (fixedComponents ++ '/' :: name)) entries s

/-- How many levels of locations there are between the server address and the properties. -/
def levelsBelow : ℕ := (2 - slashes serverAddress).toNat

/-- `fetch`, for a server which answers as the tree says. -/
def fetch (tree : NameTree (levelsBelow serverAddress + 1)) :
    DoocsBackendRegisterCatalogue × Bool :=
  let s := fillCatalogue L M E F serverAddress (levelsBelow serverAddress) serverAddress tree {}
  let isComplete := !F.isReady s.polls && !s.locationLookupError &&
    decide (s.catalogue.registers.length ≠ 0)
  ({ s.catalogue with isCatalogueComplete := isComplete }, isComplete)

end CatalogueFetcher

end DoocsBackend.Catalogue
