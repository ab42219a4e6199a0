import DoocsBackend.Catalogue.RegisterPath

/-! # Replacing the cache file

`saveCatalogue` writes a temporary file, checks that it is not empty and renames it. Each of these
steps can fail.
-/
namespace DoocsBackend.Catalogue

/-- Contents of files as bytes; a written document has at least one. -/
structure FileLibraries extends CacheLibraries where
  bytes : File → List UInt8
  bytes_write : ∀ document, bytes (write document) ≠ []

/-- The files of the working directory and elsewhere, by their paths. -/
abbrev Files := Text → Option (List UInt8)

/-- How the steps of one `saveCatalogue` to the given path end. -/
structure FileOperations (xmlfile : Text) where
  /-- The temporary path, if one could be generated. It is a new one. -/
  uniquePath : Option Text
  uniquePath_ne : uniquePath ≠ some xmlfile
  /-- The number of bytes the stream has stored. -/
  stored : ℕ
  /-- Whether `rename` succeeds. It replaces the file at once. -/
  renamed : Bool

section Definitions
variable (L : FileLibraries) (c : DoocsBackendRegisterCatalogue) {xmlfile : Text}
  (operations : FileOperations xmlfile)

/-- The serialised document. -/
def serialised : List UInt8 := L.bytes (saveCatalogue L.toCacheLibraries c)

/-- `is_empty`, also for a file which is not there. -/
def isEmpty (files : Files) (name : Text) : Bool := ((files name).getD []).isEmpty

/-- `saveCatalogue`, with the files it leaves behind. -/
def replaceCatalogue (files : Files) : Files × Except Failure Unit :=
  match operations.uniquePath with
  | none => (files, .error (.runtimeError "Failed to generate temporary path: ".toList))
  | some temporaryName =>
    let files := Function.update files temporaryName
      (some ((serialised L c).take operations.stored))
    if isEmpty files temporaryName then
      (files, .error (.runtimeError "Failed to save cache File".toList))
    else if operations.renamed then
      (Function.update (Function.update files xmlfile (files temporaryName)) temporaryName none,
        .ok ())
    else (files, .error (.runtimeError "Failed to replace cache file: ".toList))

/-- The cache file is the old one or complete, and complete if `saveCatalogue` returns. -/
structure ReplacesAtomically (files : Files) : Prop where
  content : (replaceCatalogue L c operations files).1 xmlfile = files xmlfile ∨
    (replaceCatalogue L c operations files).1 xmlfile = some (serialised L c)
  returns : (replaceCatalogue L c operations files).2 = .ok () →
    (replaceCatalogue L c operations files).1 xmlfile = some (serialised L c)

/-- The stream has stored everything or nothing, unless one of the other steps fails. -/
def StoresAllOrNothing : Prop :=
  operations.uniquePath ≠ none → operations.renamed = true →
    operations.stored = 0 ∨ (serialised L c).length ≤ operations.stored

end Definitions

section Steps
variable {L : FileLibraries} {c : DoocsBackendRegisterCatalogue} {xmlfile : Text}
  {operations : FileOperations xmlfile} {files : Files}

theorem replaceCatalogue_of_no_path (files : Files) (h : operations.uniquePath = none) :
    ∃ what, replaceCatalogue L c operations files = (files, .error (.runtimeError what)) := by
  rw [replaceCatalogue, h]
  exact ⟨_, rfl⟩

theorem isEmpty_update (temporaryName : Text) (content : List UInt8) :
    isEmpty (Function.update files temporaryName (some content)) temporaryName = content.isEmpty := by
  rw [isEmpty, Function.update_self]
  rfl

theorem take_serialised_eq_nil_iff {n : ℕ} : (serialised L c).take n = [] ↔ n = 0 := by
  rw [List.take_eq_nil_iff]
  exact or_iff_left (L.bytes_write _)

/-- Only the temporary file is written as long as nothing is renamed. -/
theorem replaceCatalogue_of_not_renamed {temporaryName : Text} (files : Files)
    (h : operations.uniquePath = some temporaryName)
    (hfails : operations.stored = 0 ∨ operations.renamed = false) :
    (replaceCatalogue L c operations files).1 xmlfile = files xmlfile ∧
      ∃ what, (replaceCatalogue L c operations files).2 = .error (.runtimeError what) := by
  have hne : xmlfile ≠ temporaryName := fun heq => operations.uniquePath_ne (by rw [h, heq])
  rw [replaceCatalogue, h]
  dsimp only
  rw [isEmpty_update]
  split
  · exact ⟨Function.update_of_ne hne _ _, _, rfl⟩
  · rename_i hstored
    have hrenamed : operations.renamed = false := by
      refine hfails.resolve_left fun hzero => hstored ?_
      rw [hzero]
      rfl
    rw [hrenamed, if_neg Bool.false_ne_true]
    exact ⟨Function.update_of_ne hne _ _, _, rfl⟩

/-- A file which is not empty is taken for complete. -/
theorem replaceCatalogue_of_renamed {temporaryName : Text} (files : Files)
    (h : operations.uniquePath = some temporaryName) (hstored : operations.stored ≠ 0)
    (hrenamed : operations.renamed = true) :
    (replaceCatalogue L c operations files).1 xmlfile =
        some ((serialised L c).take operations.stored) ∧
      (replaceCatalogue L c operations files).2 = .ok () := by
  have hne : xmlfile ≠ temporaryName := fun heq => operations.uniquePath_ne (by rw [h, heq])
  have hnonempty : ((serialised L c).take operations.stored).isEmpty = false := by
    rw [List.isEmpty_eq_false_iff]
    exact mt take_serialised_eq_nil_iff.mp hstored
  rw [replaceCatalogue, h]
  dsimp only
  rw [isEmpty_update, hnonempty, if_neg Bool.false_ne_true, if_pos hrenamed]
  refine ⟨?_, rfl⟩
  dsimp only
  rw [Function.update_of_ne hne, Function.update_self, Function.update_self]

end Steps

/-- The cache file is replaced atomically exactly if, where it is replaced at all, the stream has not
stored a part of the document. -/
theorem replaces_atomically_iff (L : FileLibraries) (c : DoocsBackendRegisterCatalogue)
    {xmlfile : Text} (operations : FileOperations xmlfile) (files : Files) :
    ReplacesAtomically L c operations files ↔ StoresAllOrNothing L c operations := by
  cases hpath : operations.uniquePath with
  | none =>
    obtain ⟨what, hresult⟩ := replaceCatalogue_of_no_path (L := L) (c := c) files hpath
    refine iff_of_true ⟨?_, ?_⟩ fun h => absurd hpath h
    · rw [hresult]
      exact .inl rfl
    · rw [hresult]
      exact fun h => by cases h
  | some temporaryName =>
    have hsome : operations.uniquePath ≠ none := by
      rw [hpath]
      exact Option.some_ne_none _
    by_cases hfails : operations.stored = 0 ∨ operations.renamed = false
    · obtain ⟨hcontent, what, hresult⟩ :=
        replaceCatalogue_of_not_renamed (L := L) (c := c) files hpath hfails
      refine iff_of_true ⟨.inl hcontent, ?_⟩ fun _ hrenamed => ?_
      · rw [hresult]
        exact fun h => by cases h
      · exact .inl (hfails.resolve_right (by simp [hrenamed]))
    · rw [not_or, Bool.not_eq_false] at hfails
      obtain ⟨hstored, hrenamed⟩ := hfails
      obtain ⟨hcontent, hresult⟩ :=
        replaceCatalogue_of_renamed (L := L) (c := c) files hpath hstored hrenamed
      constructor
      · intro h _ _
        have hcomplete := h.returns hresult
        rw [hcontent, Option.some.injEq, List.take_eq_self_iff] at hcomplete
        exact .inr hcomplete
      · intro h
        have hall := (h hsome hrenamed).resolve_left hstored
        rw [List.take_of_length_le hall] at hcontent
        exact ⟨.inr hcontent, fun _ => hcontent⟩

/-- A text in quotation marks. -/
def quoted (s : Text) : Text := Char.ofNat 34 :: s ++ [Char.ofNat 34]

mutual

/-- The text of a node. -/
def XmlNode.render : XmlNode → Text
  | .element name attributes children =>
    '<' :: name ++ attributes.flatMap (fun pair => ' ' :: pair.1 ++ '=' :: quoted pair.2) ++
      '>' :: XmlNode.renderAll children ++ "</".toList ++ name ++ ['>']
  | .text content => content
  | .comment content => "<!--".toList ++ content ++ "-->".toList

def XmlNode.renderAll : List XmlNode → Text
  | [] => []
  | node :: nodes => node.render ++ XmlNode.renderAll nodes

end

/-- The declaration in front of a document. -/
def xmlDeclaration : Text := "<?xml version=".toList ++ quoted "1.0".toList ++ "?>".toList

def byteOfChar (c : Char) : UInt8 := UInt8.ofNat c.toNat

theorem xmlDeclaration_ne : xmlDeclaration ≠ [] := by decide

theorem map_render_ne (document : XmlNode) :
    (xmlDeclaration ++ document.render).map byteOfChar ≠ [] := by
  rw [Ne, List.map_eq_nil_iff, List.append_eq_nil_iff]
  exact fun h => xmlDeclaration_ne h.1

/-- Libraries which write plain characters behind an XML declaration. -/
def plainFileLibraries : FileLibraries where
  toCacheLibraries := plainLibraries
  bytes document := (xmlDeclaration ++ document.render).map byteOfChar
  bytes_write := map_render_ne

theorem temporaryName_ne :
    some "000000-doocs-backend-cache-000000.tmp".toList ≠ some "cache.xml".toList := by decide

/-- The disk is full after ten bytes. -/
def truncated : FileOperations "cache.xml".toList where
  uniquePath := some "000000-doocs-backend-cache-000000.tmp".toList
  uniquePath_ne := temporaryName_ne
  stored := 10
  renamed := true

/-- Ten bytes replace the cache file, and `saveCatalogue` returns. -/
theorem not_replaces_atomically :
    ¬ ReplacesAtomically plainFileLibraries .empty truncated fun _ => none := by
  intro h
  have hlength := congrArg (fun content => content.map List.length) (h.returns rfl)
  exact absurd hlength (by decide)

end DoocsBackend.Catalogue
