import DoocsBackend.Catalogue.Completeness
import DoocsBackend.Catalogue.Replacement

/-! # Fetching the catalogue with and without a cache file

A backend without a cache file fetches the catalogue in a future, one with a cache file takes
it from there and may fetch a new one in a detached thread. What is fetched as complete is
saved to the cache file, and an exception of `saveCatalogue` ends the fetch: the catalogue is
lost with it.
-/
namespace DoocsBackend.Catalogue
open Accessor (ImageLayout)
open CatalogueFetcher (levelsBelow)

/-- The server as a fetch finds it until it is cancelled. -/
structure Server where
  layout : ImageLayout
  errorCodes : ErrorCodes
  cancelFlag : CancelFlag
  address : Text
  tree : NameTree (levelsBelow address + 1)

/-- The file system as the backend finds it. -/
structure FileSystem (L : FileLibraries) where
  files : Files
  /-- The document some bytes are. -/
  load : List UInt8 → L.File
  operations : (xmlfile : Text) → FileOperations xmlfile

/-- The members of `DoocsBackend` for the catalogue. A valid future has the result of its task. -/
structure CatalogueMembers where
  catalogue : DoocsBackendRegisterCatalogue := .empty
  catalogueFromCache : Bool := false
  catalogueFuture : Option (Except Failure DoocsBackendRegisterCatalogue) := none

/-- A new backend, and how its detached thread ends if it has started one. -/
structure NewBackend where
  members : CatalogueMembers
  detached : Option (Except Failure DoocsBackendRegisterCatalogue) := none

variable (L : FileLibraries) (server : Server) (fileSystem : FileSystem L)

/-- `CatalogueFetcher(serverAddress, cancelFlag).fetch()` -/
def Server.fetch : DoocsBackendRegisterCatalogue × Bool :=
  CatalogueFetcher.fetch L.toLibraries server.layout server.errorCodes server.cancelFlag
    server.address server.tree

def fetchCatalogue (cacheFile : Text) : Except Failure DoocsBackendRegisterCatalogue :=
  let (catalogue, isCatalogueComplete) := server.fetch L
  let isCacheFileNameSpecified := !cacheFile.isEmpty
  if isCatalogueComplete && isCacheFileNameSpecified then
    (replaceCatalogue L catalogue (fileSystem.operations cacheFile) fileSystem.files).2.map
      fun _ => catalogue
  else .ok catalogue

def isCachingEnabled (cacheFile : Text) : Bool := !cacheFile.isEmpty

def cacheFileExists (cacheFile : Text) : Bool :=
  if cacheFile.isEmpty then false else (fileSystem.files cacheFile).isSome

/-- The constructor of `DoocsBackend`. -/
def newBackend (cacheFile updateCache : Text) : Except Failure NewBackend :=
  if cacheFileExists L fileSystem cacheFile && isCachingEnabled cacheFile then do
    -- provide catalogue immediately from cache
    let catalogue ← readCatalogue L.toCacheLibraries
      (fileSystem.load ((fileSystem.files cacheFile).getD []))
    -- update cache file in the background
    let detached :=
      if updateCache = "1".toList then some (fetchCatalogue L server fileSystem cacheFile) else none
    return { members := { catalogue := catalogue, catalogueFromCache := true }, detached := detached }
  else
    return { members := { catalogueFuture := some (fetchCatalogue L server fileSystem cacheFile) } }

/-- `createInstance` with the given parameters, where one that is missing ends the look up. -/
def createInstance (parameters : Text → Option Text) : Except Failure NewBackend :=
  match parameters "cacheFile".toList with
  | none => newBackend L server fileSystem [] "0".toList
  | some cacheFile =>
    newBackend L server fileSystem cacheFile ((parameters "updateCache".toList).getD "0".toList)

/-- `_catalogueFuture.get()` waits for the task, throws its exception if it has ended with one, and
leaves the future invalid in any case. -/
def CatalogueMembers.getBackendRegisterCatalogue (m : CatalogueMembers) :
    CatalogueMembers × Except Failure DoocsBackendRegisterCatalogue :=
  match m.catalogueFuture with
  | some (.ok catalogue) =>
    ({ m with catalogue := catalogue, catalogueFuture := none }, .ok catalogue)
  | some (.error e) => ({ m with catalogueFuture := none }, .error e)
  | none => (m, .ok m.catalogue)

/-! ## What caching costs -/

/-- The cache file which the parameters ask for, none if it is empty. -/
def cacheFileOf (parameters : Text → Option Text) : Text :=
  (parameters "cacheFile".toList).getD []

/-- Whether or not there is a cache file, and whatever happens to it, the fetched catalogue is there
and nothing is thrown. -/
structure CachingIsFree (parameters : Text → Option Text) : Prop where
  returned : fetchCatalogue L server fileSystem (cacheFileOf parameters) = .ok (server.fetch L).1
  /-- A backend which fetches has the catalogue it would have without the parameter, in this call and
  in all later ones. -/
  same : ∀ backend plain, createInstance L server fileSystem parameters = .ok backend →
    backend.members.catalogueFromCache = false →
    createInstance L server fileSystem (Function.update parameters "cacheFile".toList none) =
      .ok plain →
    backend.members.getBackendRegisterCatalogue = plain.members.getBackendRegisterCatalogue
  /-- No exception leaves the detached thread. -/
  survives : ∀ backend result, createInstance L server fileSystem parameters = .ok backend →
    backend.detached = some result → ∃ catalogue, result = .ok catalogue

/-- `saveCatalogue` does not fail: there is a temporary path, its file is not empty, and it can be
renamed. -/
def Saves {xmlfile : Text} (operations : FileOperations xmlfile) : Prop :=
  operations.uniquePath ≠ none ∧ operations.stored ≠ 0 ∧ operations.renamed = true

theorem replaceCatalogue_error {L : FileLibraries} (c : DoocsBackendRegisterCatalogue)
    {xmlfile : Text} {operations : FileOperations xmlfile} (files : Files) (h : ¬ Saves operations) :
    ∃ what, (replaceCatalogue L c operations files).2 = .error (.runtimeError what) := by
  cases hpath : operations.uniquePath with
  | none =>
    obtain ⟨what, hresult⟩ := replaceCatalogue_of_no_path (L := L) (c := c) files hpath
    exact ⟨what, by rw [hresult]⟩
  | some temporaryName =>
    have hfails : operations.stored = 0 ∨ operations.renamed = false := by
      by_contra hboth
      rw [not_or, Bool.not_eq_false] at hboth
      exact h ⟨by simp [hpath], hboth⟩
    exact (replaceCatalogue_of_not_renamed (L := L) (c := c) files hpath hfails).2

/-- `saveCatalogue` returns exactly if none of its steps fails. -/
theorem replaceCatalogue_ok_iff {L : FileLibraries} (c : DoocsBackendRegisterCatalogue)
    {xmlfile : Text} (operations : FileOperations xmlfile) (files : Files) :
    (replaceCatalogue L c operations files).2 = .ok () ↔ Saves operations := by
  constructor
  · intro hok
    by_contra hfails
    obtain ⟨what, herror⟩ := replaceCatalogue_error c files hfails
    rw [hok] at herror
    cases herror
  · intro h
    obtain ⟨temporaryName, hpath⟩ := Option.ne_none_iff_exists'.mp h.1
    exact (replaceCatalogue_of_renamed files hpath h.2.1 h.2.2).2

variable {L server fileSystem} {parameters : Text → Option Text}

variable (L server fileSystem) in
/-- The catalogue is returned exactly if it is not to be saved or saved without a failure. -/
theorem fetchCatalogue_eq_iff (cacheFile : Text) :
    fetchCatalogue L server fileSystem cacheFile = .ok (server.fetch L).1 ↔
      cacheFile = [] ∨ (server.fetch L).2 = false ∨ Saves (fileSystem.operations cacheFile) := by
  have hiff := replaceCatalogue_ok_iff (L := L) (server.fetch L).1 (fileSystem.operations cacheFile)
    fileSystem.files
  unfold fetchCatalogue
  dsimp only
  split
  · rename_i hsave
    rw [Bool.and_eq_true, Bool.not_eq_true', List.isEmpty_eq_false_iff] at hsave
    rw [← hiff]
    simp only [hsave.1, hsave.2, Bool.true_eq_false, false_or]
    cases (replaceCatalogue L (server.fetch L).1 (fileSystem.operations cacheFile)
      fileSystem.files).2 <;> simp [Except.map]
  · rename_i hsave
    rw [Bool.and_eq_true, not_and_or, Bool.not_eq_true, Bool.not_eq_true', Bool.not_eq_false,
      List.isEmpty_iff] at hsave
    apply iff_of_true rfl
    rcases hsave with h | h
    · exact .inr (.inl h)
    · exact .inl h

/-- Otherwise the exception of `saveCatalogue` takes its place. -/
theorem fetchCatalogue_of_not_saved {cacheFile : Text} (hname : cacheFile ≠ [])
    (hcomplete : (server.fetch L).2 = true) (h : ¬ Saves (fileSystem.operations cacheFile)) :
    ∃ what, fetchCatalogue L server fileSystem cacheFile = .error (.runtimeError what) := by
  have hsave : ((server.fetch L).2 && !cacheFile.isEmpty) = true := by
    rw [hcomplete, List.isEmpty_eq_false_iff.mpr hname]
    rfl
  obtain ⟨what, hresult⟩ := replaceCatalogue_error (server.fetch L).1 fileSystem.files h
  unfold fetchCatalogue
  dsimp only
  rw [if_pos hsave, hresult]
  exact ⟨what, rfl⟩

/-- A new backend either fetches, or has its catalogue from the cache and fetches another one in the
detached thread. -/
theorem newBackend_cases {cacheFile updateCache : Text} {backend : NewBackend}
    (h : newBackend L server fileSystem cacheFile updateCache = .ok backend) :
    backend = { members := { catalogueFuture := some (fetchCatalogue L server fileSystem cacheFile) } }
    ∨ backend.members.catalogueFromCache = true ∧
      ∀ result, backend.detached = some result →
        result = fetchCatalogue L server fileSystem cacheFile := by
  unfold newBackend at h
  split at h
  · cases hread : readCatalogue L.toCacheLibraries
      (fileSystem.load ((fileSystem.files cacheFile).getD [])) with
    | error e =>
      rw [hread] at h
      cases h
    | ok catalogue =>
      rw [hread] at h
      cases h
      refine .inr ⟨rfl, fun result hresult => ?_⟩
      dsimp only at hresult
      split at hresult
      · exact (Option.some.inj hresult).symm
      · cases hresult
  · cases h
    exact .inl rfl

variable (L server fileSystem) in
theorem createInstance_eq (parameters : Text → Option Text) :
    ∃ updateCache, createInstance L server fileSystem parameters =
      newBackend L server fileSystem (cacheFileOf parameters) updateCache := by
  unfold createInstance cacheFileOf
  cases parameters "cacheFile".toList with
  | none => exact ⟨_, rfl⟩
  | some cacheFile => exact ⟨_, rfl⟩

/-- Without the parameter, the backend fetches and saves nothing. -/
theorem createInstance_plain (parameters : Text → Option Text) :
    createInstance L server fileSystem (Function.update parameters "cacheFile".toList none) =
      .ok { members := { catalogueFuture := some (.ok (server.fetch L).1) } } := by
  have hfetch : fetchCatalogue L server fileSystem [] = .ok (server.fetch L).1 :=
    (fetchCatalogue_eq_iff L server fileSystem []).mpr (.inl rfl)
  rw [← hfetch]
  unfold createInstance
  rw [Function.update_self]
  rfl

variable (L server fileSystem parameters)

/-- Caching is free exactly if there is no cache file, or the catalogue is not complete and hence not
saved, or saving it succeeds. -/
theorem caching_is_free_iff :
    CachingIsFree L server fileSystem parameters ↔
      cacheFileOf parameters = [] ∨ (server.fetch L).2 = false ∨
        Saves (fileSystem.operations (cacheFileOf parameters)) := by
  rw [← fetchCatalogue_eq_iff L server fileSystem (cacheFileOf parameters)]
  refine ⟨fun h => h.returned, fun hreturned => ⟨hreturned, ?_, ?_⟩⟩
  · intro backend plain hbackend hfetches hplain
    obtain ⟨updateCache, hnew⟩ := createInstance_eq L server fileSystem parameters
    rw [createInstance_plain] at hplain
    cases hplain
    rcases newBackend_cases (hnew ▸ hbackend) with rfl | ⟨hcached, -⟩
    · rw [hreturned]
    · rw [hfetches] at hcached
      cases hcached
  · intro backend result hbackend hdetached
    obtain ⟨updateCache, hnew⟩ := createInstance_eq L server fileSystem parameters
    rcases newBackend_cases (hnew ▸ hbackend) with rfl | ⟨-, hresult⟩
    · cases hdetached
    · exact ⟨_, (hresult result hdetached).trans hreturned⟩

/-- The exception is thrown once. What is left for the later calls is the catalogue the backend has
had before, which is the empty one if it has only just been created. -/
theorem getBackendRegisterCatalogue_of_error {members : CatalogueMembers} {e : Failure}
    (h : members.catalogueFuture = some (.error e)) :
    members.getBackendRegisterCatalogue.2 = .error e ∧
      members.getBackendRegisterCatalogue.1.getBackendRegisterCatalogue.2 =
        .ok members.catalogue := by
  rw [CatalogueMembers.getBackendRegisterCatalogue, h]
  exact ⟨rfl, rfl⟩

/-- A device with one property. -/
def onePropertyServer : Server where
  layout := Accessor.plainImageLayout
  errorCodes := ⟨fun e => e == 1, 2⟩
  cancelFlag := CatalogueFetcher.neverCancelled
  address := "F/D".toList
  tree := CatalogueFetcher.chain "P comment".toList CatalogueFetcher.intAnswer _

def temporaryFile : Text := "000000-doocs-backend-cache-000000.tmp".toList

theorem temporaryFile_ne (xmlfile : Text) :
    (if xmlfile = temporaryFile then none else some temporaryFile) ≠ some xmlfile := by
  split
  · exact (Option.some_ne_none xmlfile).symm
  · rename_i hne
    exact fun heq => hne (Option.some.inj heq).symm

/-- The temporary files cannot be renamed to where the cache files are, say on another disk. -/
def otherDisk (files : Files) : FileSystem plainFileLibraries where
  files := files
  load _ := .text []
  operations xmlfile :=
    { uniquePath := if xmlfile = temporaryFile then none else some temporaryFile
      uniquePath_ne := temporaryFile_ne xmlfile
      stored := 10000
      renamed := false }

/-- A cache file, and nothing else. -/
def cachedOn (cacheFile : Text) (parameter : Text) : Option Text :=
  if parameter = "cacheFile".toList then some cacheFile else none

/-- The catalogue is complete, but the backend with the cache file throws and is left with none. -/
theorem not_caching_is_free :
    (onePropertyServer.fetch plainFileLibraries).1.hasRegister "/P/P".toList = true ∧
      ¬ CachingIsFree plainFileLibraries onePropertyServer (otherDisk fun _ => none)
        (cachedOn "/data/cache.xml".toList) := by
  have hcomplete : (onePropertyServer.fetch plainFileLibraries).2 = true := by decide
  refine ⟨by decide, fun h => ?_⟩
  have hfails : ¬ Saves ((otherDisk fun _ => none).operations "/data/cache.xml".toList) :=
    fun hsaves => Bool.false_ne_true hsaves.2.2
  obtain ⟨what, herror⟩ := fetchCatalogue_of_not_saved (by decide) hcomplete hfails
  have hreturned := h.returned
  rw [cacheFileOf, cachedOn, if_pos rfl, Option.getD_some, herror] at hreturned
  cases hreturned

end DoocsBackend.Catalogue
