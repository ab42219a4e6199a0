import DoocsBackend.Catalogue.RegisterPath

/-! # Malformed cache files

What `readCatalogue` makes of an arbitrary document is decided by the first element, in document
order, which lacks its text or has one that cannot be read.
-/
namespace DoocsBackend.Catalogue

/-- `AccessModeFlags::deserialize` throws nothing but `logic_error`. -/
structure StrictLibraries extends CacheLibraries where
  deserialize_error : ∀ s e, deserialize s = .error e → ∃ what, e = .logicError what

/-- A document, by its root element. -/
structure XmlDocument where
  root : Text
  attributes : List (Text × Text) := []
  children : List XmlNode := []

namespace XmlNode

def children : XmlNode → List XmlNode
  | .element _ _ children => children
  | _ => []

/-- An element with the given name which has a text that is not empty. -/
def IsText (tag : Text) : XmlNode → Prop
  | .element name _ children => name = tag ∧ ∃ text, childText children = some text ∧ text ≠ []
  | _ => False

/-- A register element without a gap. -/
def IsComplete : XmlNode → Prop
  | .element name _ fields => name = "register".toList → ∀ tag ∈
      ["name".toList, "length".toList, "doocs_type_id".toList], ∃ field ∈ fields, field.IsText tag
  | _ => True

/-- The elements whose text is read without a check. -/
def lacksText : XmlNode → Bool
  | .element name _ children =>
    (name == "name".toList || name == "length".toList || name == "doocs_type_id".toList) &&
      (childText children).isNone
  | _ => false

/-- The text is not a number in the range of the parser. -/
def isUnreadable (low high : ℤ) (text : Text) : Bool :=
  match integerLiteral text with
  | none => true
  | some (negative, n) =>
    let z : ℤ := if negative then -n else n
    decide (z < low ∨ high ≤ z)

/-- The elements with a text the parsers refuse. -/
def isRefused (L : StrictLibraries) : XmlNode → Bool
  | .element name _ children =>
    if name = "length".toList then
      (childText children).any (isUnreadable (-2 ^ 64 + 1) (2 ^ 64))
    else if name = "doocs_type_id".toList then
      (childText children).any (isUnreadable (-2 ^ 63) (2 ^ 63))
    else if name = "access_mode".toList then
      (L.deserialize ((childText children).getD [])).toOption.isNone
    else false
  | _ => false

end XmlNode

namespace XmlDocument

def node (document : XmlDocument) : XmlNode :=
  .element document.root document.attributes document.children

/-- The elements inside of the children of the root, in the order of the document. -/
def fields (document : XmlDocument) : List XmlNode := document.children.flatMap XmlNode.children

def IsComplete (document : XmlDocument) : Prop :=
  document.root = "catalogue".toList ∧ ∀ register ∈ document.children, register.IsComplete

/-- The first field which cannot be read. -/
def firstOffence (L : StrictLibraries) (document : XmlDocument) : Option XmlNode :=
  document.fields.find? fun field => field.lacksText || field.isRefused L

/-- A catalogue is returned for complete documents only, `logic_error` is thrown for all others, and
nothing that is missing is read or erased. -/
structure IsHandled (L : StrictLibraries) (document : XmlDocument) : Prop where
  returned : ∀ file catalogue, L.parse file = some document.node →
    readCatalogue L.toCacheLibraries file = .ok catalogue → document.IsComplete
  refused : ∀ file, L.parse file = some document.node → ¬ document.IsComplete →
    ∃ what, readCatalogue L.toCacheLibraries file = .error (.logicError what)
  defined : ∀ file, L.parse file = some document.node →
    readCatalogue L.toCacheLibraries file ≠ .error .undefined
  /-- Only what is there is removed from the name of an IFFF register. -/
  erased : ∀ name : Text, (endsWith name ifffPatterns).2.length ≤ name.length

/-- Nothing lacks its text before something is refused, and a document without either is complete. -/
structure IsRejectable (L : StrictLibraries) (document : XmlDocument) : Prop where
  refusedFirst : ∀ field, document.firstOffence L = some field → field.lacksText = false
  complete : document.firstOffence L = none → document.IsComplete

end XmlDocument

section Parsers
variable {L : StrictLibraries} {r : ParsedRegister} {field : XmlNode}

/-- The result of a step or of a loop whose first offence is given. -/
def Ends {α : Type} (offence : Option XmlNode) (result : Except Failure α) : Prop :=
  match offence with
  | none => ∃ x, result = .ok x
  | some field =>
    if field.lacksText then result = .error .undefined
    else ∃ what, result = .error (.logicError what)

theorem ends_map {α β : Type} {offence : Option XmlNode} {result : Except Failure α} {f : α → β}
    (h : Ends offence result) : Ends offence (result.map f) := by
  cases offence with
  | none =>
    obtain ⟨x, rfl⟩ := h
    exact ⟨f x, rfl⟩
  | some field =>
    unfold Ends at h ⊢
    dsimp only at h ⊢
    split
    · rename_i hlacks
      rw [if_pos hlacks] at h
      rw [h]
      rfl
    · rename_i hlacks
      rw [if_neg hlacks] at h
      obtain ⟨what, rfl⟩ := h
      exact ⟨what, rfl⟩

/-- A loop ends like its first step with an offence. -/
theorem ends_foldlM {σ : Type} {f : σ → XmlNode → Except Failure σ}
    {offence : XmlNode → Option XmlNode} (hf : ∀ s node, Ends (offence node) (f s node)) (s : σ)
    (nodes : List XmlNode) : Ends (nodes.findSome? offence) (nodes.foldlM f s) := by
  induction nodes generalizing s with
  | nil => exact ⟨s, rfl⟩
  | cons node nodes ih =>
    rw [List.findSome?_cons, List.foldlM_cons]
    have hnode := hf s node
    cases ho : offence node with
    | none =>
      rw [ho] at hnode
      obtain ⟨t, ht⟩ := hnode
      rw [ht]
      exact ih t
    | some field =>
      rw [ho] at hnode
      unfold Ends at hnode ⊢
      dsimp only at hnode ⊢
      split
      · rename_i hlacks
        rw [if_pos hlacks] at hnode
        rw [hnode]
        rfl
      · rename_i hlacks
        rw [if_neg hlacks] at hnode
        obtain ⟨what, hwhat⟩ := hnode
        exact ⟨what, by rw [hwhat]; rfl⟩

/-- The offence of a single field. -/
def offenceOf (L : StrictLibraries) : XmlNode → Option XmlNode :=
  Option.guard fun field => field.lacksText || field.isRefused L

theorem ends_ok {α : Type} {x : α} (hlacks : field.lacksText = false)
    (hrefused : field.isRefused L = false) : Ends (offenceOf L field) (.ok x) := by
  have hnone : offenceOf L field = none := by simp [offenceOf, Option.guard, hlacks, hrefused]
  rw [hnone]
  exact ⟨x, rfl⟩

theorem ends_undefined {α : Type} (hlacks : field.lacksText = true) :
    Ends (offenceOf L field) (.error .undefined : Except Failure α) := by
  have hsome : offenceOf L field = some field := by simp [offenceOf, Option.guard, hlacks]
  rw [hsome, Ends, if_pos hlacks]

theorem ends_logicError {α : Type} {what : Text} (hlacks : field.lacksText = false)
    (hrefused : field.isRefused L = true) :
    Ends (offenceOf L field) (.error (.logicError what) : Except Failure α) := by
  have hsome : offenceOf L field = some field := by simp [offenceOf, Option.guard, hrefused]
  rw [hsome, Ends, hlacks, if_neg Bool.false_ne_true]
  exact ⟨what, rfl⟩

theorem convertToUint_cases (s : Text) :
    (XmlNode.isUnreadable (-2 ^ 64 + 1) (2 ^ 64) s = false ∧ ∃ n, convertToUint s = .ok n) ∨
      (XmlNode.isUnreadable (-2 ^ 64 + 1) (2 ^ 64) s = true ∧
        ∃ what, convertToUint s = .error (.logicError what)) := by
  unfold XmlNode.isUnreadable convertToUint stoul
  cases integerLiteral s with
  | none => exact .inr ⟨rfl, _, rfl⟩
  | some literal =>
    obtain ⟨negative, n⟩ := literal
    dsimp only
    by_cases hn : 2 ^ 64 ≤ n
    · rw [if_pos hn]
      refine .inr ⟨?_, _, rfl⟩
      rw [decide_eq_true_iff]
      split <;> omega
    · rw [if_neg hn]
      refine .inl ⟨?_, _, rfl⟩
      rw [decide_eq_false_iff_not]
      split <;> omega

theorem convertToInt_cases (s : Text) :
    (XmlNode.isUnreadable (-2 ^ 63) (2 ^ 63) s = false ∧ ∃ z, convertToInt s = .ok z) ∨
      (XmlNode.isUnreadable (-2 ^ 63) (2 ^ 63) s = true ∧
        ∃ what, convertToInt s = .error (.logicError what)) := by
  unfold XmlNode.isUnreadable convertToInt stol
  cases integerLiteral s with
  | none => exact .inr ⟨rfl, _, rfl⟩
  | some literal =>
    obtain ⟨negative, n⟩ := literal
    dsimp only
    by_cases hz : (if negative = true then -(n : ℤ) else n) < -2 ^ 63 ∨
        2 ^ 63 ≤ (if negative = true then -(n : ℤ) else n)
    · rw [if_pos hz, decide_eq_true hz]
      exact .inr ⟨rfl, _, rfl⟩
    · rw [if_neg hz, decide_eq_false hz]
      exact .inl ⟨rfl, _, rfl⟩

theorem ends_requireText {α : Type} {children : List XmlNode} {parse : Text → Except Failure α}
    (hlacks : field.lacksText = (XmlNode.childText children).isNone)
    (hsome : ∀ text, XmlNode.childText children = some text → field.lacksText = false →
      Ends (offenceOf L field) (parse text)) :
    Ends (offenceOf L field) (requireText children >>= parse) := by
  unfold requireText
  cases htext : XmlNode.childText children with
  | none => exact ends_undefined (by rw [hlacks, htext]; rfl)
  | some text => exact hsome text htext (by rw [hlacks, htext]; rfl)

/-- A number is refused where it cannot be read. -/
theorem ends_number {α : Type} {low high : ℤ} {text : Text} {result : Except Failure α}
    (hlacks : field.lacksText = false)
    (hrefused : field.isRefused L = XmlNode.isUnreadable low high text)
    (hresult : (XmlNode.isUnreadable low high text = false ∧ ∃ z, result = .ok z) ∨
      (XmlNode.isUnreadable low high text = true ∧ ∃ what, result = .error (.logicError what))) :
    Ends (offenceOf L field) result := by
  obtain ⟨hreadable, z, rfl⟩ | ⟨hunreadable, what, rfl⟩ := hresult
  · exact ends_ok hlacks (hrefused.trans hreadable)
  · exact ends_logicError hlacks (hrefused.trans hunreadable)

/-- Each parser refuses what it cannot read, and reads a missing text except for the access mode. -/
theorem ends_parseField (r : ParsedRegister) (field : XmlNode) :
    Ends (offenceOf L field) (parseField L.toCacheLibraries r field) := by
  cases field with
  | text content => exact ends_ok rfl rfl
  | comment content => exact ends_ok rfl rfl
  | element name attributes children =>
    by_cases hname : name = "name".toList
    · subst hname
      rw [parseField_name]
      apply ends_map
      rw [← bind_pure (requireText children)]
      exact ends_requireText rfl fun text _ hlacks => ends_ok hlacks rfl
    by_cases hlength : name = "length".toList
    · subst hlength
      rw [parseField_length]
      apply ends_map
      apply ends_requireText rfl
      intro text htext hlacks
      refine ends_number hlacks ?_ (convertToUint_cases text)
      rw [XmlNode.isRefused, if_pos rfl, htext, Option.any_some]
    by_cases hmode : name = "access_mode".toList
    · subst hmode
      rw [parseField_accessMode]
      apply ends_map
      have hrefused : (XmlNode.element "access_mode".toList attributes children).isRefused L =
          (L.deserialize ((XmlNode.childText children).getD [])).toOption.isNone := by
        rw [XmlNode.isRefused, if_neg (by decide), if_neg (by decide), if_pos rfl]
      unfold parseAccessMode
      cases hflags : L.deserialize ((XmlNode.childText children).getD []) with
      | ok flags => exact ends_ok rfl (hrefused.trans (by rw [hflags]; rfl))
      | error e =>
        obtain ⟨what, rfl⟩ := L.deserialize_error _ e hflags
        exact ends_logicError rfl (hrefused.trans (by rw [hflags]; rfl))
    by_cases htype : name = "doocs_type_id".toList
    · subst htype
      rw [parseField_typeId]
      apply ends_map
      apply ends_requireText rfl
      intro text htext hlacks
      refine ends_number hlacks ?_ (convertToInt_cases text)
      rw [XmlNode.isRefused, if_neg (by decide), if_pos rfl, htext, Option.any_some]
    · rw [parseField, if_neg hname, if_neg hlength, if_neg hmode, if_neg htype]
      refine ends_ok ?_ ?_
      · rw [XmlNode.lacksText, beq_false_of_ne hname, beq_false_of_ne hlength, beq_false_of_ne htype]
        rfl
      · rw [XmlNode.isRefused, if_neg hlength, if_neg htype, if_neg hmode]

/-- A child of the root ends like the first of its fields with an offence. -/
theorem ends_readNode (catalogue : DoocsBackendRegisterCatalogue) (node : XmlNode) :
    Ends (node.children.findSome? (offenceOf L)) (readNode L.toCacheLibraries catalogue node) := by
  cases node with
  | text content => exact ⟨catalogue, rfl⟩
  | comment content => exact ⟨catalogue, rfl⟩
  | element name attributes children =>
    have hmap : readNode L.toCacheLibraries catalogue (.element name attributes children) =
        (children.foldlM (parseField L.toCacheLibraries) {}).map fun r =>
          catalogue.addProperty L.toLibraries (propertyName L.toCacheLibraries r) r.len
            r.doocsTypeId r.flags := by
      rw [readNode, parseRegister]
      cases children.foldlM (parseField L.toCacheLibraries) {} <;> rfl
    rw [hmap]
    exact ends_map (ends_foldlM ends_parseField {} children)

/-- The whole document ends like its first field with an offence. -/
theorem ends_readCatalogue {document : XmlDocument} {file : L.File}
    (h : L.parse file = some document.node) :
    Ends (document.firstOffence L) (readCatalogue L.toCacheLibraries file) := by
  have hfirst : document.firstOffence L =
      document.children.findSome? fun node => node.children.findSome? (offenceOf L) := by
    rw [XmlDocument.firstOffence, XmlDocument.fields, List.find?_flatMap]
    simp only [List.find?_eq_findSome?_guard, offenceOf]
  rw [hfirst, readCatalogue, h]
  exact ends_foldlM ends_readNode _ _

/-- `endsWith` finds nothing that is longer than the text. -/
theorem length_endsWith_le (s : Text) (patterns : List Text) :
    (endsWith s patterns).2.length ≤ s.length := by
  unfold endsWith
  cases h : patterns.find? (·.isSuffixOf s) with
  | none => exact Nat.zero_le _
  | some p =>
    have hsuffix := List.find?_some h
    exact (List.isSuffixOf_iff_suffix.mp hsuffix).length_le

end Parsers

/-- A document is handled exactly if nothing lacks its text before something is refused, and it is
complete unless something is refused. -/
theorem malformed_is_handled_iff (L : StrictLibraries) (document : XmlDocument) :
    document.IsHandled L ↔ document.IsRejectable L := by
  have hends {file : L.File} (h : L.parse file = some document.node) := ends_readCatalogue h
  constructor
  · intro h
    have hwritten := hends (L.parse_write document.node)
    refine ⟨fun field hfield => ?_, fun hnone => ?_⟩
    · rw [hfield] at hwritten
      by_contra hlacks
      rw [Bool.not_eq_false] at hlacks
      rw [Ends, if_pos hlacks] at hwritten
      exact h.defined _ (L.parse_write _) hwritten
    · rw [hnone] at hwritten
      obtain ⟨catalogue, hcatalogue⟩ := hwritten
      exact h.returned _ _ (L.parse_write _) hcatalogue
  · intro h
    have hresult {file : L.File} (hfile : L.parse file = some document.node) :
        (∃ catalogue, readCatalogue L.toCacheLibraries file = .ok catalogue ∧ document.IsComplete) ∨
          ∃ what, readCatalogue L.toCacheLibraries file = .error (.logicError what) := by
      have hfile := hends hfile
      cases hfirst : document.firstOffence L with
      | none =>
        rw [hfirst] at hfile
        obtain ⟨catalogue, hcatalogue⟩ := hfile
        exact .inl ⟨catalogue, hcatalogue, h.complete hfirst⟩
      | some field =>
        rw [hfirst, Ends, if_neg (by rw [h.refusedFirst field hfirst]; exact Bool.false_ne_true)]
          at hfile
        exact .inr hfile
    constructor
    · intro file catalogue hfile hok
      obtain ⟨-, -, hcomplete⟩ | ⟨what, hwhat⟩ := hresult hfile
      · exact hcomplete
      · rw [hok] at hwhat
        cases hwhat
    · intro file hfile hnot
      apply (hresult hfile).resolve_left
      rintro ⟨-, -, hcomplete⟩
      exact hnot hcomplete
    · intro file hfile hundefined
      obtain ⟨catalogue, hok, -⟩ | ⟨what, hwhat⟩ := hresult hfile
      · rw [hok] at hundefined
        cases hundefined
      · rw [hwhat] at hundefined
        cases hundefined
    · exact fun name => length_endsWith_le name ifffPatterns

theorem deserializeFlags_error (s : Text) (e : Failure) (h : deserializeFlags s = .error e) :
    ∃ what, e = .logicError what := by
  unfold deserializeFlags at h
  repeat' split at h
  all_goals cases h
  exact ⟨_, rfl⟩

def plainStrictLibraries : StrictLibraries where
  toCacheLibraries := plainLibraries
  deserialize_error := deserializeFlags_error

/-- An empty list of registers under another name is taken for a catalogue. -/
theorem not_malformed_is_handled : ¬ (⟨"registers".toList, [], []⟩ : XmlDocument).IsHandled
    plainStrictLibraries := by
  intro h
  have hcomplete := h.returned _ .empty rfl rfl
  exact absurd hcomplete.1 (by decide)

end DoocsBackend.Catalogue
