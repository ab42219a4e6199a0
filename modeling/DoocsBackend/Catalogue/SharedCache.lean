import DoocsBackend.Catalogue.Replacement
import DoocsBackend.Library.Range
import DoocsBackend.Library.Runs

/-! # Several saves of one cache file

Every backend saves from a thread of its own, and other processes share the file. The steps of the
saves are interleaved.
-/
namespace DoocsBackend.Catalogue

/-- How the steps of one `saveCatalogue` end, the opening of the stream among them. -/
structure SaveOperations (xmlfile : Text) extends FileOperations xmlfile where
  opened : Bool
  stored_of_not_opened : opened = false → stored = 0

/-- Where a `saveCatalogue` stands. -/
inductive SavePosition
  | uniquePath
  | openStream (temporaryName : Text)
  | writeStream (temporaryName : Text) (position : ℕ)
  | checkEmpty (temporaryName : Text)
  | rename (temporaryName : Text)
  | done (result : Except Failure Unit)

def SavePosition.isDone : SavePosition → Bool
  | .done _ => true
  | _ => false

/-- What a save leaves in its temporary file at most. -/
def content (L : FileLibraries) (c : DoocsBackendRegisterCatalogue) {xmlfile : Text}
    (operations : SaveOperations xmlfile) : List UInt8 :=
  (serialised L c).take operations.stored

/-- The next step of a `saveCatalogue`. The stream stores byte by byte. -/
def advance (L : FileLibraries) (c : DoocsBackendRegisterCatalogue) {xmlfile : Text}
    (operations : SaveOperations xmlfile) (files : Files) : SavePosition → Option (Files × SavePosition)
  | .uniquePath => match operations.uniquePath with
    | none =>
      some (files, .done (.error (.runtimeError "Failed to generate temporary path: ".toList)))
    | some temporaryName => some (files, .openStream temporaryName)
  | .openStream temporaryName =>
    some (if operations.opened then Function.update files temporaryName (some []) else files,
      .writeStream temporaryName 0)
  | .writeStream temporaryName position => match (content L c operations)[position]? with
    | some byte =>
      some (Function.update files temporaryName
          ((files temporaryName).map (Range.write 0 position [byte])),
        .writeStream temporaryName (position + 1))
    | none => some (files, .checkEmpty temporaryName)
  | .checkEmpty temporaryName =>
    if isEmpty files temporaryName then
      some (files, .done (.error (.runtimeError "Failed to save cache File".toList)))
    else some (files, .rename temporaryName)
  | .rename temporaryName =>
    if operations.renamed then
      some (Function.update (Function.update files xmlfile (files temporaryName)) temporaryName none,
        .done (.ok ()))
    else some (files, .done (.error (.runtimeError "Failed to replace cache file: ".toList)))
  | .done _ => none

/-- The files, all the saves which have been or will be started, and those which have ended, the
first one first. -/
structure Savers (ι : Type*) where
  files : Files
  position : ι → SavePosition := fun _ => .uniquePath
  finished : List ι := []

section Definitions
variable {ι : Type*} [DecidableEq ι] (L : FileLibraries) (c : ι → DoocsBackendRegisterCatalogue)
  {xmlfile : Text} (operations : ι → SaveOperations xmlfile)

/-- One of the saves takes its next step. -/
def Savers.step (s : Savers ι) (i : ι) : Option (Savers ι) :=
  (advance L (c i) (operations i) s.files (s.position i)).map fun next =>
    { files := next.1
      position := Function.update s.position i next.2
      finished := if next.2.isDone then s.finished ++ [i] else s.finished }

/-- Whole saves, one after another. -/
def saveAll (files : Files) (order : List ι) : Files :=
  order.foldl (fun files i => (replaceCatalogue L (c i) (operations i).toFileOperations files).1) files

/-- The generated paths are different, and no such files exist. -/
structure FreshPaths (files : Files) : Prop where
  unique : ∀ i j path, (operations i).uniquePath = some path →
    (operations j).uniquePath = some path → i = j
  absent : ∀ i path, (operations i).uniquePath = some path → files path = none

/-- The saves which have ended have done what they do one after another, in the order in which they
ended, and nothing is seen of the others but their temporary files. -/
structure OneAfterAnother (files : Files) (s : Savers ι) : Prop where
  nodup : s.finished.Nodup
  finished : ∀ i, i ∈ s.finished ↔ (s.position i).isDone
  results : ∀ i result, s.position i = .done result →
    (replaceCatalogue L (c i) (operations i).toFileOperations files).2 = result
  files : ∀ path, (∀ i, (operations i).uniquePath ≠ some path) →
    s.files path = saveAll L c operations files s.finished path

end Definitions

section Save
variable {L : FileLibraries} {c : DoocsBackendRegisterCatalogue} {xmlfile : Text}
  {operations : SaveOperations xmlfile} {files files' : Files} {position next : SavePosition}

theorem content_eq_nil_iff : content L c operations = [] ↔ operations.stored = 0 :=
  take_serialised_eq_nil_iff

/-- `replaceCatalogue`, with the bytes which are stored. -/
theorem replaceCatalogue_of_path {temporaryName : Text} (files : Files)
    (h : operations.uniquePath = some temporaryName) :
    replaceCatalogue L c operations.toFileOperations files =
      if (content L c operations).isEmpty then
        (Function.update files temporaryName (some (content L c operations)),
          .error (.runtimeError "Failed to save cache File".toList))
      else if operations.renamed then
        (Function.update (Function.update (Function.update files temporaryName
            (some (content L c operations))) xmlfile (some (content L c operations)))
              temporaryName none, .ok ())
      else (Function.update files temporaryName (some (content L c operations)),
        .error (.runtimeError "Failed to replace cache file: ".toList)) := by
  rw [replaceCatalogue, h]
  dsimp only
  rw [isEmpty_update, Function.update_self]
  rfl

/-- What a save in progress relies on. -/
inductive Sound (L : FileLibraries) (c : DoocsBackendRegisterCatalogue)
    (operations : SaveOperations xmlfile) (files : Files) : SavePosition → Prop
  | uniquePath (absent : ∀ path, operations.uniquePath = some path → files path = none) :
      Sound L c operations files .uniquePath
  | openStream {path : Text} (generated : operations.uniquePath = some path)
      (absent : files path = none) : Sound L c operations files (.openStream path)
  | writeStream {path : Text} {n : ℕ} (generated : operations.uniquePath = some path)
      (written : files path =
        if operations.opened then some ((content L c operations).take n) else none) :
      Sound L c operations files (.writeStream path n)
  | checkEmpty {path : Text} (generated : operations.uniquePath = some path)
      (written : files path = if operations.opened then some (content L c operations) else none) :
      Sound L c operations files (.checkEmpty path)
  | rename {path : Text} (generated : operations.uniquePath = some path)
      (nonempty : content L c operations ≠ [])
      (written : files path = some (content L c operations)) :
      Sound L c operations files (.rename path)
  | done {result : Except Failure Unit}
      (as_alone : ∀ files, (replaceCatalogue L c operations.toFileOperations files).2 = result) :
      Sound L c operations files (.done result)

/-- Only its own temporary file matters to a save. -/
theorem Sound.congr (sound : Sound L c operations files position)
    (h : ∀ path, operations.uniquePath = some path → files' path = files path) :
    Sound L c operations files' position := by
  cases sound with
  | uniquePath absent =>
    apply Sound.uniquePath
    intro path hpath
    rw [h path hpath, absent path hpath]
  | openStream generated absent => exact .openStream generated (by rw [h _ generated, absent])
  | writeStream generated written =>
    exact .writeStream generated (by rw [h _ generated, written])
  | checkEmpty generated written => exact .checkEmpty generated (by rw [h _ generated, written])
  | rename generated nonempty written =>
    exact .rename generated nonempty (by rw [h _ generated, written])
  | done as_alone => exact .done as_alone

/-- At a path which is not its own, a save alone does something only when it returns. -/
theorem replaceCatalogue_elsewhere {path : Text} (files : Files)
    (h : operations.uniquePath ≠ some path) :
    (replaceCatalogue L c operations.toFileOperations files).1 path =
      if path = xmlfile ∧
          (replaceCatalogue L c operations.toFileOperations files).2 = .ok () then
        some (content L c operations)
      else files path := by
  cases hpath : operations.uniquePath with
  | none =>
    obtain ⟨what, hresult⟩ :
        ∃ what, replaceCatalogue L c operations.toFileOperations files =
          (files, .error (.runtimeError what)) := replaceCatalogue_of_no_path files hpath
    rw [hresult, if_neg (by simp)]
  | some temporaryName =>
    have hne : path ≠ temporaryName := fun heq => h (by rw [hpath, heq])
    rw [replaceCatalogue_of_path files hpath]
    split_ifs <;> simp_all

/-- What a step leaves behind, the files before it given. -/
structure Advanced (L : FileLibraries) (c : DoocsBackendRegisterCatalogue)
    (operations : SaveOperations xmlfile) (files files' : Files) (next : SavePosition) : Prop where
  sound : Sound L c operations files' next
  elsewhere : ∀ path, operations.uniquePath ≠ some path → files' path =
    if next.isDone then (replaceCatalogue L c operations.toFileOperations files).1 path
    else files path

/-- A step which only moves on. -/
theorem Advanced.of_unchanged (sound : Sound L c operations files next)
    (h : next.isDone = false) : Advanced L c operations files files next := by
  apply Advanced.mk sound
  intro path _
  simp [h]

/-- A step which changes the temporary file and moves on. -/
theorem Advanced.of_temporary {path : Text} {written : Option (List UInt8)}
    (sound : Sound L c operations (Function.update files path written) next)
    (generated : operations.uniquePath = some path) (h : next.isDone = false) :
    Advanced L c operations files (Function.update files path written) next := by
  apply Advanced.mk sound
  intro other hother
  have hne : other ≠ path := fun heq => hother (by rw [generated, heq])
  simp [h, hne]

/-- A step which throws ends as the save alone does. -/
theorem Advanced.of_throws {what : Text}
    (as_alone : ∀ files, (replaceCatalogue L c operations.toFileOperations files).2 =
      .error (.runtimeError what)) :
    Advanced L c operations files files (.done (.error (.runtimeError what))) := by
  apply Advanced.mk (.done as_alone)
  intro path hpath
  rw [replaceCatalogue_elsewhere files hpath, as_alone files]
  simp

section Advance
variable {path : Text}

theorem advance_uniquePath (absent : ∀ path, operations.uniquePath = some path → files path = none)
    (h : advance L c operations files .uniquePath = some (files', next)) :
    Advanced L c operations files files' next := by
  cases hpath : operations.uniquePath with
  | none =>
    simp only [advance, hpath, Option.some.injEq, Prod.mk.injEq] at h
    obtain ⟨rfl, rfl⟩ := h
    apply Advanced.of_throws
    intro files
    simp [replaceCatalogue, hpath]
  | some temporaryName =>
    simp only [advance, hpath, Option.some.injEq, Prod.mk.injEq] at h
    obtain ⟨rfl, rfl⟩ := h
    exact .of_unchanged (.openStream hpath (absent _ hpath)) rfl

theorem advance_openStream (generated : operations.uniquePath = some path)
    (absent : files path = none)
    (h : advance L c operations files (.openStream path) = some (files', next)) :
    Advanced L c operations files files' next := by
  simp only [advance, Option.some.injEq, Prod.mk.injEq] at h
  obtain ⟨rfl, rfl⟩ := h
  cases hopened : operations.opened with
  | false =>
    apply Advanced.of_unchanged _ rfl
    apply Sound.writeStream generated
    simp [hopened, absent]
  | true =>
    apply Advanced.of_temporary _ generated rfl
    apply Sound.writeStream generated
    simp [hopened]

theorem advance_writeStream {n : ℕ} (generated : operations.uniquePath = some path)
    (written : files path =
      if operations.opened then some ((content L c operations).take n) else none)
    (h : advance L c operations files (.writeStream path n) = some (files', next)) :
    Advanced L c operations files files' next := by
  cases hbyte : (content L c operations)[n]? with
  | none =>
    simp only [advance, hbyte, Option.some.injEq, Prod.mk.injEq] at h
    obtain ⟨rfl, rfl⟩ := h
    apply Advanced.of_unchanged _ rfl
    apply Sound.checkEmpty generated
    rw [written, List.take_of_length_le (List.getElem?_eq_none_iff.mp hbyte)]
  | some byte =>
    simp only [advance, hbyte, Option.some.injEq, Prod.mk.injEq] at h
    obtain ⟨rfl, rfl⟩ := h
    apply Advanced.of_temporary _ generated rfl
    apply Sound.writeStream generated
    rw [Function.update_self, written]
    cases operations.opened with
    | false => rfl
    | true => simp [Range.write_take hbyte]

/-- A stream which could not be opened leaves nothing, which is found to be empty. -/
theorem isEmpty_of_written
    (written : files path = if operations.opened then some (content L c operations) else none) :
    isEmpty files path = (content L c operations).isEmpty := by
  rw [isEmpty, written]
  cases hopened : operations.opened with
  | false =>
    have hnil : content L c operations = [] :=
      content_eq_nil_iff.mpr (operations.stored_of_not_opened hopened)
    simp [hnil]
  | true => rfl

theorem advance_checkEmpty (generated : operations.uniquePath = some path)
    (written : files path = if operations.opened then some (content L c operations) else none)
    (h : advance L c operations files (.checkEmpty path) = some (files', next)) :
    Advanced L c operations files files' next := by
  rw [advance, isEmpty_of_written written] at h
  by_cases hnil : content L c operations = []
  · rw [hnil, List.isEmpty_nil, if_pos rfl, Option.some.injEq, Prod.mk.injEq] at h
    obtain ⟨rfl, rfl⟩ := h
    apply Advanced.of_throws
    intro files
    simp [replaceCatalogue_of_path files generated, hnil]
  · have hopened : operations.opened = true := by
      by_contra hclosed
      rw [Bool.not_eq_true] at hclosed
      exact hnil (content_eq_nil_iff.mpr (operations.stored_of_not_opened hclosed))
    rw [if_neg (by simpa using hnil), Option.some.injEq, Prod.mk.injEq] at h
    obtain ⟨rfl, rfl⟩ := h
    apply Advanced.of_unchanged _ rfl
    apply Sound.rename generated hnil
    rw [written, hopened, if_pos rfl]

theorem advance_rename (generated : operations.uniquePath = some path)
    (nonempty : content L c operations ≠ []) (written : files path = some (content L c operations))
    (h : advance L c operations files (.rename path) = some (files', next)) :
    Advanced L c operations files files' next := by
  have hnonempty : (content L c operations).isEmpty = false := by simpa using nonempty
  cases hrenamed : operations.renamed with
  | false =>
    simp only [advance, hrenamed, Bool.false_eq_true, if_false, Option.some.injEq,
      Prod.mk.injEq] at h
    obtain ⟨rfl, rfl⟩ := h
    apply Advanced.of_throws
    intro files
    simp [replaceCatalogue_of_path files generated, hnonempty, hrenamed]
  | true =>
    have hreturns : ∀ files,
        (replaceCatalogue L c operations.toFileOperations files).2 = .ok () := by
      intro files
      simp [replaceCatalogue_of_path files generated, hnonempty, hrenamed]
    simp only [advance, hrenamed, if_true, Option.some.injEq, Prod.mk.injEq] at h
    obtain ⟨rfl, rfl⟩ := h
    apply Advanced.mk (.done hreturns)
    intro other hother
    have hne : other ≠ path := fun heq => hother (by rw [generated, heq])
    rw [replaceCatalogue_elsewhere files hother, hreturns files, written]
    simp [hne, Function.update_apply, SavePosition.isDone]

end Advance

/-- A step keeps what a save relies on; elsewhere it changes what the save alone changes, and does
so at the end. -/
theorem Sound.advance (sound : Sound L c operations files position)
    (h : advance L c operations files position = some (files', next)) :
    Advanced L c operations files files' next := by
  cases sound with
  | uniquePath absent => exact advance_uniquePath absent h
  | openStream generated absent => exact advance_openStream generated absent h
  | writeStream generated written => exact advance_writeStream generated written h
  | checkEmpty generated written => exact advance_checkEmpty generated written h
  | rename generated nonempty written => exact advance_rename generated nonempty written h
  | done => cases h

end Save

section Schedules
variable {ι : Type*} {L : FileLibraries} {c : ι → DoocsBackendRegisterCatalogue}
  {xmlfile : Text} {operations : ι → SaveOperations xmlfile} {files : Files} {s t : Savers ι} {i : ι}

theorem saveAll_append_singleton (order : List ι) :
    saveAll L c operations files (order ++ [i]) =
      (replaceCatalogue L (c i) (operations i).toFileOperations
        (saveAll L c operations files order)).1 := by
  simp [saveAll]

/-- What the saves rely on at any time. -/
structure Consistent (L : FileLibraries) (c : ι → DoocsBackendRegisterCatalogue)
    (operations : ι → SaveOperations xmlfile) (files : Files) (s : Savers ι) : Prop where
  sound : ∀ i, Sound L (c i) (operations i) s.files (s.position i)
  serial : OneAfterAnother L c operations files s

theorem Consistent.start (fresh : FreshPaths operations files) :
    Consistent L c operations files { files := files } where
  sound i := .uniquePath (fresh.absent i)
  serial := by
    constructor
    · exact List.nodup_nil
    · intro i
      simp [SavePosition.isDone]
    · intro i result h
      cases h
    · intro path _
      rfl

/-- A save which takes a step has not ended. -/
theorem not_isDone_of_advance {c : DoocsBackendRegisterCatalogue} {operations : SaveOperations xmlfile}
    {position next : SavePosition} {files' : Files}
    (h : advance L c operations files position = some (files', next)) :
    position.isDone = false := by
  cases position with
  | done => cases h
  | _ => rfl

/-- A step of another save is not noticed by a save. -/
theorem Sound.of_other {j : ι} {position next : SavePosition} {files' : Files}
    (fresh : FreshPaths operations files) (hj : j ≠ i)
    (sound : Sound L (c j) (operations j) s.files position)
    (hi : Advanced L (c i) (operations i) s.files files' next) :
    Sound L (c j) (operations j) files' position := by
  apply sound.congr
  intro path hpath
  have hother : (operations i).uniquePath ≠ some path :=
    fun hsame => hj (fresh.unique j i path hpath hsame)
  have hcache : path ≠ xmlfile := fun heq => (operations j).uniquePath_ne (by rw [hpath, heq])
  have hkept : (replaceCatalogue L (c i) (operations i).toFileOperations s.files).1 path =
      s.files path := by
    rw [replaceCatalogue_elsewhere s.files hother, if_neg fun h => hcache h.1]
  rw [hi.elsewhere path hother, hkept, ite_self]

/-- How a save ends does not depend on the files. -/
theorem replaceCatalogue_result {c : DoocsBackendRegisterCatalogue}
    {operations : SaveOperations xmlfile} (files files' : Files) :
    (replaceCatalogue L c operations.toFileOperations files).2 =
      (replaceCatalogue L c operations.toFileOperations files').2 := by
  cases hpath : operations.uniquePath with
  | none => simp [replaceCatalogue, hpath]
  | some temporaryName =>
    rw [replaceCatalogue_of_path files hpath, replaceCatalogue_of_path files' hpath]
    split_ifs <;> rfl

/-- What a save alone does at a path of others depends on the file there only. -/
theorem replaceCatalogue_congr {c : DoocsBackendRegisterCatalogue}
    {operations : SaveOperations xmlfile} {files files' : Files} {path : Text}
    (hother : operations.uniquePath ≠ some path) (h : files path = files' path) :
    (replaceCatalogue L c operations.toFileOperations files).1 path =
      (replaceCatalogue L c operations.toFileOperations files').1 path := by
  rw [replaceCatalogue_elsewhere files hother, replaceCatalogue_elsewhere files' hother,
    replaceCatalogue_result files files', h]

/-- A save which returns has renamed a file which is not empty. -/
theorem content_of_returns {c : DoocsBackendRegisterCatalogue} {operations : SaveOperations xmlfile}
    (h : (replaceCatalogue L c operations.toFileOperations files).2 = .ok ())
    (stores : StoresAllOrNothing L c operations.toFileOperations) :
    content L c operations = serialised L c := by
  cases hpath : operations.uniquePath with
  | none => simp [replaceCatalogue, hpath] at h
  | some temporaryName =>
    rw [replaceCatalogue_of_path files hpath] at h
    by_cases hnil : content L c operations = []
    · simp [hnil] at h
    · by_cases hrenamed : operations.renamed = true
      · have hall := (stores (by simp [hpath]) hrenamed).resolve_left (mt content_eq_nil_iff.mpr hnil)
        exact List.take_of_length_le hall
      · simp [hnil, hrenamed] at h

/-- Of saves one after another the last one which returns has written the cache file. -/
theorem saveAll_cacheFile (L : FileLibraries) (c : ι → DoocsBackendRegisterCatalogue)
    (operations : ι → SaveOperations xmlfile) (files : Files) (order : List ι) :
    (saveAll L c operations files order xmlfile = files xmlfile ∧ ∀ i ∈ order,
        (replaceCatalogue L (c i) (operations i).toFileOperations files).2 ≠ .ok ()) ∨
      ∃ before i after, order = before ++ i :: after ∧
        (replaceCatalogue L (c i) (operations i).toFileOperations files).2 = .ok () ∧
        saveAll L c operations files order xmlfile = some (content L (c i) (operations i)) ∧
        ∀ j ∈ after, (replaceCatalogue L (c j) (operations j).toFileOperations files).2 ≠ .ok () := by
  induction order using List.reverseRecOn with
  | nil => simp [saveAll]
  | append_singleton order i ih =>
    have hi := replaceCatalogue_elsewhere (L := L) (c := c i) (saveAll L c operations files order)
      (operations i).uniquePath_ne
    rw [replaceCatalogue_result _ files] at hi
    rw [saveAll_append_singleton, hi]
    by_cases hreturns : (replaceCatalogue L (c i) (operations i).toFileOperations files).2 = .ok ()
    · right
      exact ⟨order, i, [], rfl, hreturns, by simp [hreturns], by simp⟩
    · rw [if_neg (by simp [hreturns])]
      rcases ih with ⟨hkept, hnone⟩ | ⟨before, j, after, rfl, hj, hcontent, hafter⟩
      · left
        refine ⟨hkept, ?_⟩
        intro j hj
        rcases List.mem_append.mp hj with hj | hj
        · exact hnone j hj
        · rwa [List.mem_singleton.mp hj]
      · right
        refine ⟨before, j, after ++ [i], by simp, hj, hcontent, ?_⟩
        intro k hk
        rcases List.mem_append.mp hk with hk | hk
        · exact hafter k hk
        · rwa [List.mem_singleton.mp hk]

/-- A save has returned exactly if it has ended and returns alone. -/
theorem OneAfterAnother.returned_iff (hs : OneAfterAnother L c operations files s) :
    s.position i = .done (.ok ()) ↔ i ∈ s.finished ∧
      (replaceCatalogue L (c i) (operations i).toFileOperations files).2 = .ok () := by
  rw [hs.finished]
  constructor
  · intro h
    exact ⟨by rw [h]; rfl, hs.results i _ h⟩
  · rintro ⟨hdone, hresult⟩
    cases hposition : s.position i with
    | done result => rw [← hs.results i result hposition, hresult]
    | _ => simp [hposition, SavePosition.isDone] at hdone

variable [DecidableEq ι]

theorem Savers.step_cases (h : s.step L c operations i = some t) :
    ∃ files' next, advance L (c i) (operations i) s.files (s.position i) = some (files', next) ∧
      t = { files := files'
            position := Function.update s.position i next
            finished := if next.isDone then s.finished ++ [i] else s.finished } := by
  obtain ⟨⟨files', next⟩, hadvance, rfl⟩ := Option.map_eq_some_iff.mp h
  exact ⟨files', next, hadvance, rfl⟩

theorem OneAfterAnother.step {next : SavePosition} {files' : Files}
    (hs : OneAfterAnother L c operations files s) (hi : i ∉ s.finished)
    (advanced : Advanced L (c i) (operations i) s.files files' next) :
    OneAfterAnother L c operations files
      { files := files'
        position := Function.update s.position i next
        finished := if next.isDone then s.finished ++ [i] else s.finished } := by
  constructor
  · dsimp only
    split
    · rw [← List.concat_eq_append]
      exact hs.nodup.concat hi
    · exact hs.nodup
  · intro j
    dsimp only
    by_cases hj : j = i
    · subst hj
      rw [Function.update_self]
      split
      · rename_i hdone
        simp [hdone]
      · rename_i hdone
        simp [hdone, hi]
    · rw [Function.update_of_ne hj, ← hs.finished]
      split
      · simp [hj]
      · rfl
  · intro j result hresult
    dsimp only at hresult
    by_cases hj : j = i
    · subst hj
      rw [Function.update_self] at hresult
      have sound := advanced.sound
      rw [hresult] at sound
      cases sound with
      | done as_alone => exact as_alone files
    · rw [Function.update_of_ne hj] at hresult
      exact hs.results j result hresult
  · intro path hpath
    dsimp only
    rw [advanced.elsewhere path (hpath i)]
    split
    · rw [saveAll_append_singleton]
      exact replaceCatalogue_congr (hpath i) (hs.files path hpath)
    · exact hs.files path hpath

theorem Consistent.step (fresh : FreshPaths operations files) (hs : Consistent L c operations files s)
    (h : s.step L c operations i = some t) : Consistent L c operations files t := by
  obtain ⟨files', next, hadvance, rfl⟩ := Savers.step_cases h
  have advanced : Advanced L (c i) (operations i) s.files files' next := (hs.sound i).advance hadvance
  constructor
  · intro j
    by_cases hj : j = i
    · subst hj
      simpa using advanced.sound
    · simpa [hj] using (hs.sound j).of_other fresh hj advanced
  · apply hs.serial.step _ advanced
    rw [hs.serial.finished, not_isDone_of_advance hadvance]
    exact Bool.false_ne_true

/-- In whatever order the steps of the saves are taken: the saves which have ended have ended as they
do alone, and at every path which is not that of a temporary file there is what they leave when they
are done one after another. -/
theorem saves_one_after_another {schedule : List ι} (fresh : FreshPaths operations files)
    (h : Runs.exec (Savers.step L c operations) { files := files } schedule = some t) :
    OneAfterAnother L c operations files t := by
  have hconsistent : Consistent L c operations files t :=
    Runs.exec_invariant h (fun _ _ _ hs hstep => hs.step fresh hstep) (.start fresh)
  exact hconsistent.serial

/-- Whoever opens the cache file finds the one which was there, as long as no save has renamed its file,
and the complete catalogue of the save which renamed last afterwards. -/
theorem cache_file_complete {schedule : List ι} (fresh : FreshPaths operations files)
    (stores : ∀ i, StoresAllOrNothing L (c i) (operations i).toFileOperations)
    (h : Runs.exec (Savers.step L c operations) { files := files } schedule = some t) :
    (t.files xmlfile = files xmlfile ∧ ∀ i, t.position i ≠ .done (.ok ())) ∨
      ∃ before i after, t.finished = before ++ i :: after ∧ t.position i = .done (.ok ()) ∧
        t.files xmlfile = some (serialised L (c i)) ∧ ∀ j ∈ after, t.position j ≠ .done (.ok ()) := by
  have hserial : OneAfterAnother L c operations files t := saves_one_after_another fresh h
  rw [hserial.files xmlfile fun i => (operations i).uniquePath_ne]
  rcases saveAll_cacheFile L c operations files t.finished with
    ⟨hkept, hnone⟩ | ⟨before, i, after, horder, hi, hcontent, hafter⟩
  · left
    refine ⟨hkept, ?_⟩
    intro i hi
    obtain ⟨hmem, hreturns⟩ := hserial.returned_iff.mp hi
    exact hnone i hmem hreturns
  · right
    have hreturned : t.position i = .done (.ok ()) :=
      hserial.returned_iff.mpr ⟨by rw [horder]; simp, hi⟩
    refine ⟨before, i, after, horder, hreturned, ?_, ?_⟩
    · rw [hcontent, content_of_returns hi (stores i)]
    · intro j hj hreturns
      exact hafter j hj (hserial.returned_iff.mp hreturns).2

/-- Two backends save at the same time; for the second one the disk is full. -/
def twoSaves : Bool → SaveOperations "cache.xml".toList
  | true =>
    { uniquePath := some "000000-doocs-backend-cache-000000.tmp".toList
      uniquePath_ne := temporaryName_ne
      stored := 100
      renamed := true
      opened := true
      stored_of_not_opened := by decide }
  | false =>
    { uniquePath := some "111111-doocs-backend-cache-111111.tmp".toList
      uniquePath_ne := by decide
      stored := 0
      renamed := true
      opened := true
      stored_of_not_opened := by decide }

theorem twoSaves_fresh : FreshPaths twoSaves fun _ => none where
  unique i j path hi hj := by
    cases i <;> cases j
    · rfl
    · exact absurd (hi.trans hj.symm) (by decide)
    · exact absurd (hi.trans hj.symm) (by decide)
    · rfl
  absent _ _ _ := rfl

theorem twoSaves_stores (i : Bool) :
    StoresAllOrNothing plainFileLibraries .empty (twoSaves i).toFileOperations := by
  intro _ _
  cases i with
  | true => exact .inr (by decide)
  | false => exact .inl rfl

/-- Both have opened their streams before one of them writes. -/
def interleaved : List Bool := [true, false, true, false] ++ List.replicate 61 true ++ [false, false]

set_option maxRecDepth 4000 in
theorem interleaved_serial :
    ∃ t, Runs.exec (Savers.step plainFileLibraries (fun _ => .empty) twoSaves)
        { files := fun _ => none } interleaved = some t ∧
      OneAfterAnother plainFileLibraries (fun _ => .empty) twoSaves (fun _ => none) t := by
  obtain ⟨t, ht⟩ : ∃ t, Runs.exec (Savers.step plainFileLibraries (fun _ => .empty) twoSaves)
      { files := fun _ => none } interleaved = some t := ⟨_, rfl⟩
  exact ⟨t, ht, saves_one_after_another twoSaves_fresh ht⟩

set_option maxRecDepth 4000 in
theorem interleaved_complete :
    ∃ t, Runs.exec (Savers.step plainFileLibraries (fun _ => .empty) twoSaves)
        { files := fun _ => none } interleaved = some t ∧
      ∃ before i after, t.finished = before ++ i :: after ∧ t.position i = .done (.ok ()) ∧
        t.files "cache.xml".toList = some (serialised plainFileLibraries .empty) ∧
        ∀ j ∈ after, t.position j ≠ .done (.ok ()) := by
  obtain ⟨t, ht, hposition⟩ :
      ∃ t, Runs.exec (Savers.step plainFileLibraries (fun _ => .empty) twoSaves)
          { files := fun _ => none } interleaved = some t ∧ t.position true = .done (.ok ()) :=
    ⟨_, rfl, rfl⟩
  rcases cache_file_complete twoSaves_fresh twoSaves_stores ht with hnone | hlast
  · exact absurd hposition (hnone.2 true)
  · exact ⟨t, ht, hlast⟩

end Schedules

end DoocsBackend.Catalogue
