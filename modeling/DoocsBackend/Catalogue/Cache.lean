import DoocsBackend.Catalogue.RegisterInfo

/-! # The catalogue cache file

`saveCatalogue` writes one XML element per register; `readCatalogue` feeds every such
element through `addProperty` again.
-/
namespace DoocsBackend.Catalogue

/-- A node of an XML document tree. -/
inductive XmlNode where
  | element (name : Text) (attributes : List (Text × Text)) (children : List XmlNode)
  | text (content : Text)
  | comment (content : Text)
  deriving Repr

namespace XmlNode

/-- `get_child_text()->get_content()` on a node with these children; `none` where there is
no text child to point to. -/
def childText : List XmlNode → Option Text
  | [] => none
  | .text content :: _ => some content
  | _ :: rest => childText rest

end XmlNode

/-- The libraries the cache file is written and read with. -/
structure CacheLibraries extends Libraries where
  serialize : AccessModeFlags → Text
  deserialize : Text → Except Failure AccessModeFlags
  deserialize_serialize : ∀ flags, deserialize (serialize flags) = .ok flags
  /-- The contents of a file. -/
  File : Type
  /-- `xmlpp::Document::write_to_stream_formatted`. -/
  write : XmlNode → File
  /-- `xmlpp::DomParser`, failing where it throws. -/
  parse : File → Option XmlNode
  parse_write : ∀ document, parse (write document) = some document

/-- The characters `std::isspace` accepts. -/
def isSpace (c : Char) : Bool := c ∈ [' ', '\t', '\n', '\x0b', '\x0c', '\x0d']

/-- Sign and value of the longest integer literal a text starts with, after white space;
`none` where `std::stoul` and `std::stol` throw `std::invalid_argument`. -/
def integerLiteral (s : Text) : Option (Bool × ℕ) :=
  let digitsOf (negative : Bool) (t : Text) :=
    let digits := t.takeWhile Char.isDigit
    if digits = [] then none else some (negative, Nat.ofDigitChars 10 digits 0)
  match s.dropWhile isSpace with
  | '-' :: t => digitsOf true t
  | '+' :: t => digitsOf false t
  | t => digitsOf false t

/-- `std::stoul` with a 64 bit `unsigned long`: a negative literal is negated modulo 2^64. -/
def stoul (s : Text) : Except Failure ℕ :=
  match integerLiteral s with
  | none => .error (.logicError "Failed to parse node: stoul".toList)
  | some (negative, n) =>
    if 2 ^ 64 ≤ n then .error (.logicError "Failed to parse node: stoul".toList)
    else .ok (if negative then (2 ^ 64 - n) % 2 ^ 64 else n)

/-- `std::stol` with a 64 bit `long`. -/
def stol (s : Text) : Except Failure ℤ :=
  match integerLiteral s with
  | none => .error (.logicError "Failed to parse node: stol".toList)
  | some (negative, n) =>
    let z : ℤ := if negative then -n else n
    if z < -2 ^ 63 ∨ 2 ^ 63 ≤ z then .error (.logicError "Failed to parse node: stol".toList)
    else .ok z

/-- `unsigned int convertToUint(s)`; the `unsigned long` is narrowed to 32 bits on return. -/
def convertToUint (s : Text) : Except Failure ℕ := (stoul s).map (· % 2 ^ 32)

/-- `int convertToInt(s)`; the `long` is narrowed to 32 bits on return. -/
def convertToInt (s : Text) : Except Failure ℤ := (stol s).map fun z => (z + 2 ^ 31) % 2 ^ 32 - 2 ^ 31

/-- `detail::endsWith`: the first of the patterns the text ends with, or the empty text. -/
def endsWith (s : Text) (patterns : List Text) : Bool × Text :=
  match patterns.find? (·.isSuffixOf s) with
  | some p => (true, p)
  | none => (false, [])

/-- Reading a missing text child dereferences a null pointer. -/
def requireText (children : List XmlNode) : Except Failure Text :=
  match XmlNode.childText children with
  | some content => .ok content
  | none => .error .undefined

def parseLength (children : List XmlNode) : Except Failure ℕ := requireText children >>= convertToUint

def parseTypeId (children : List XmlNode) : Except Failure ℤ := requireText children >>= convertToInt

/-- The only parser which allows for a missing text child. -/
def parseAccessMode (L : CacheLibraries) (children : List XmlNode) :
    Except Failure AccessModeFlags :=
  L.deserialize ((XmlNode.childText children).getD [])

/-- The local variables of `parseRegister`. -/
structure ParsedRegister where
  name : Text := []
  len : ℕ := 0
  flags : AccessModeFlags := {}
  doocsTypeId : ℤ := 0
  deriving DecidableEq, Repr

/-- One pass of the loop over the children of a register element. -/
def parseField (L : CacheLibraries) (r : ParsedRegister) : XmlNode → Except Failure ParsedRegister
  | .element nodeName _ children =>
    if nodeName = "name".toList then do return { r with name := ← requireText children }
    else if nodeName = "length".toList then do return { r with len := ← parseLength children }
    else if nodeName = "access_mode".toList then
      do return { r with flags := ← parseAccessMode L children }
    else if nodeName = "doocs_type_id".toList then
      do return { r with doocsTypeId := ← parseTypeId children }
    else .ok r
  | _ => .ok r

section FieldSteps
variable (L : CacheLibraries) (r : ParsedRegister) (attributes : List (Text × Text))
  (children : List XmlNode)

theorem parseField_name : parseField L r (.element "name".toList attributes children) =
    (requireText children).map fun name => { r with name := name } := rfl

theorem parseField_length : parseField L r (.element "length".toList attributes children) =
    (parseLength children).map fun len => { r with len := len } := rfl

theorem parseField_accessMode :
    parseField L r (.element "access_mode".toList attributes children) =
      (parseAccessMode L children).map fun flags => { r with flags := flags } := rfl

theorem parseField_typeId : parseField L r (.element "doocs_type_id".toList attributes children) =
    (parseTypeId children).map fun typeId => { r with doocsTypeId := typeId } := rfl

theorem parseField_comment (content : Text) : parseField L r (.comment content) = .ok r := rfl

end FieldSteps

/-- The suffixes `addProperty` gives to the fields of an IFFF. -/
def ifffPatterns : List Text := ["/I".toList, "/F1".toList, "/F2".toList, "/F3".toList]

/-- The property a register element stands for: for an IFFF the field name is removed. -/
def propertyName (L : CacheLibraries) (r : ParsedRegister) : Text :=
  if L.type r.doocsTypeId = .ifff then
    r.name.take (r.name.length - (endsWith r.name ifffPatterns).2.length)
  else r.name

def parseRegister (L : CacheLibraries) (children : List XmlNode)
    (catalogue : DoocsBackendRegisterCatalogue) : Except Failure DoocsBackendRegisterCatalogue := do
  let r ← children.foldlM (parseField L) {}
  return catalogue.addProperty L.toLibraries (propertyName L r) r.len r.doocsTypeId r.flags

/-- One pass of the loop over the children of the root element. -/
def readNode (L : CacheLibraries) (catalogue : DoocsBackendRegisterCatalogue) :
    XmlNode → Except Failure DoocsBackendRegisterCatalogue
  | .element _ _ children => parseRegister L children catalogue
  | _ => .ok catalogue

/-- `getRootNode` constructs the exception for an unexpected root name but does not throw it,
hence the root is read under any name. -/
def readCatalogue (L : CacheLibraries) (file : L.File) :
    Except Failure DoocsBackendRegisterCatalogue :=
  match L.parse file with
  | some (.element _ _ children) => children.foldlM (readNode L) .empty
  | some _ => .error .undefined
  | none => .error (.logicError "Error opening xmlfile".toList)

/-- `std::to_string`. -/
def toText (z : ℤ) : Text := if z < 0 then '-' :: Nat.toDigits 10 z.natAbs else Nat.toDigits 10 z.natAbs

def addRegInfoXmlNode (L : CacheLibraries) (r : DoocsBackendRegisterInfo) : XmlNode :=
  let tag (name content : Text) : XmlNode := .element name [] [.text content]
  .element "register".toList []
    [tag "name".toList r.name, tag "length".toList (toText r.length),
     tag "access_mode".toList (L.serialize r.accessModeFlags),
     tag "doocs_type_id".toList (toText r.doocsTypeId),
     .comment ("doocs id: ".toList ++ L.typeString r.doocsTypeId)]

/-- The document `saveCatalogue` builds. -/
def catalogueDocument (L : CacheLibraries) (c : DoocsBackendRegisterCatalogue) : XmlNode :=
  .element "catalogue".toList [("version".toList, "1.0".toList)]
    (c.registers.map (addRegInfoXmlNode L))

/-- The cache file after a `saveCatalogue` none of whose file operations fail. -/
def saveCatalogue (L : CacheLibraries) (c : DoocsBackendRegisterCatalogue) : L.File :=
  L.write (catalogueDocument L c)

end DoocsBackend.Catalogue
