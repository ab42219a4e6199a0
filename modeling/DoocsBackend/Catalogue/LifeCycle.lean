import DoocsBackend.Backend.State
import DoocsBackend.Catalogue.Caching
import DoocsBackend.Library.Runs

/-! # The life of the catalogue

A backend fetches its catalogue when it is made, unless it is taken from the cache, and again
with a successful `open` as long as the catalogue is not complete. A fetch holds the future of
the promise `_cancelFlag`, through which only the destructor cancels it. The promise is used
as the standard demands, and a catalogue which is complete is never given up.
-/
namespace DoocsBackend.Catalogue
open Backend (BackendState)
open CatalogueFetcher (levelsBelow neverCancelled)

/-- A call of `fetchCatalogue` in a thread of its own, with the promise which cancels it. -/
structure Task (L : FileLibraries) where
  promise : ℕ
  server : Server
  fileSystem : FileSystem L

/-- What the task ends with, if its flag becomes ready in the given way once it is set. -/
def Task.result {L : FileLibraries} (task : Task L) (cacheFile : Text) (isReady : Bool)
    (notices : CancelFlag) : Except Failure DoocsBackendRegisterCatalogue :=
  fetchCatalogue L { task.server with cancelFlag := if isReady then notices else neverCancelled }
    task.fileSystem cacheFile

/-- The members of `DoocsBackend` on which the catalogue depends. Promises are numbered as they are
made. -/
structure Life (L : FileLibraries) where
  cacheFile : Text
  backend : BackendState := {}
  /-- The newest version number created so far. -/
  created : ℕ := 0
  catalogue : DoocsBackendRegisterCatalogue := .empty
  catalogueFromCache : Bool := false
  /-- The task of the future while it is valid. -/
  catalogueFuture : Option (Task L) := none
  cancelFlag : ℕ := 0
  /-- The promises whose future has been taken. -/
  taken : ℕ → Bool := fun _ => false
  /-- The promises which have a value or have been abandoned. -/
  ready : ℕ → Bool := fun _ => false
  /-- Whether a promise has thrown a `std::future_error`. -/
  futureError : Bool := false
  /-- The servers fetched from, as they were when the fetch was started. -/
  fetchedFrom : List Server := []

namespace Life
variable {L : FileLibraries} (s : Life L)

/-- `_cancelFlag.get_future()` -/
def getFuture : Life L :=
  if s.taken s.cancelFlag then { s with futureError := true }
  else { s with taken := Function.update s.taken s.cancelFlag true }

/-- `_cancelFlag.set_value()` -/
def setValue : Life L :=
  if s.ready s.cancelFlag then { s with futureError := true }
  else { s with ready := Function.update s.ready s.cancelFlag true }

/-- `_cancelFlag = std::promise<void>{}` abandons the promise there was. -/
def renewPromise : Life L :=
  { s with ready := Function.update s.ready s.cancelFlag true, cancelFlag := s.cancelFlag + 1 }

/-- `_catalogueFuture = std::async(.., fetchCatalogue, .., _cancelFlag.get_future())` -/
def startFetch (server : Server) (fileSystem : FileSystem L) : Life L :=
  { s.getFuture with
    catalogueFuture := some ⟨s.cancelFlag, server, fileSystem⟩
    fetchedFrom := s.fetchedFrom ++ [server] }

/-- The constructor. The detached thread takes the future of the promise, too. -/
def construct (server : Server) (fileSystem : FileSystem L) (cacheFile updateCache : Text) :
    Except Failure (Life L) :=
  if cacheFileExists L fileSystem cacheFile && isCachingEnabled cacheFile then do
    let catalogue ← readCatalogue L.toCacheLibraries
      (fileSystem.load ((fileSystem.files cacheFile).getD []))
    let s : Life L := { cacheFile := cacheFile, catalogue := catalogue, catalogueFromCache := true }
    return if updateCache = "1".toList then s.getFuture else s
  else return ({ cacheFile := cacheFile } : Life L).startFetch server fileSystem

/-- `getBackendRegisterCatalogue`, which waits for the task if there is one. -/
def getBackendRegisterCatalogue (notices : CancelFlag) :
    Life L × Except Failure DoocsBackendRegisterCatalogue :=
  match s.catalogueFuture with
  | none => (s, .ok s.catalogue)
  | some task =>
    match task.result s.cacheFile (s.ready task.promise) notices with
    | .ok catalogue => ({ s with catalogue := catalogue, catalogueFuture := none }, .ok catalogue)
    | .error e => ({ s with catalogueFuture := none }, .error e)

/-- What `open` does after it has succeeded. -/
def retrigger (server : Server) (fileSystem : FileSystem L) : Life L :=
  if !s.catalogueFromCache && !s.catalogueFuture.isSome && !s.catalogue.isCatalogueComplete then
    s.renewPromise.startFetch server fileSystem
  else s

/-- `open`, given the result of reading `lastFailedAddress` and the server a fetch would find. -/
def openBackend (rc : ReturnCode) (text : Text) (server : Server) (fileSystem : FileSystem L) :
    Life L × Option Failure :=
  let (backend, failure) := s.backend.openBackend rc text (s.created + 1)
  match failure with
  | some e => ({ s with backend := backend }, some e)
  | none => ({ s with backend := backend, created := s.created + 1 }.retrigger server fileSystem, none)

/-- The destructor. Whatever is thrown is caught; the promise goes with the backend. -/
def destroy (notices : CancelFlag) : Life L :=
  let s := if s.catalogueFuture.isSome then
      if s.setValue.futureError then s.setValue else (s.setValue.getBackendRegisterCatalogue notices).1
    else s
  { s with ready := Function.update s.ready s.cancelFlag true }

inductive Event (L : FileLibraries) where
  | getBackendRegisterCatalogue (notices : CancelFlag)
  | openBackend (rc : ReturnCode) (text : Text) (server : Server) (fileSystem : FileSystem L)
  | close
  | informRuntimeError (address : Text)
  | setException (message : Text)

def step : Event L → Option (Life L)
  | .getBackendRegisterCatalogue notices => some (s.getBackendRegisterCatalogue notices).1
  | .openBackend rc text server fileSystem => some (s.openBackend rc text server fileSystem).1
  | .close => some { s with backend := s.backend.closeBackend }
  | .informRuntimeError address => some { s with backend := s.backend.informRuntimeError address }
  | .setException message => some { s with backend := s.backend.setException message }

/-- The server, asked by a fetch which is not cancelled. -/
def uncancelled (server : Server) : Server := { server with cancelFlag := neverCancelled }

/-- What holds of a backend from its construction to its destruction. -/
structure Sound (s : Life L) : Prop where
  noError : s.futureError = false
  notReady : ∀ k, s.cancelFlag ≤ k → s.ready k = false
  abandoned : ∀ k, s.taken k = true → k = s.cancelFlag ∨ s.ready k = true
  notTaken : ∀ k, s.cancelFlag < k → s.taken k = false
  /-- The promise of the detached fetch is never renewed. -/
  kept : s.catalogueFromCache = true → ∀ k, s.taken k = true → k = s.cancelFlag
  /-- The task can be cancelled, and has not been. -/
  promise : ∀ task, s.catalogueFuture = some task → task.promise = s.cancelFlag
  pending : ∀ task, s.catalogueFuture = some task → s.catalogueFromCache = false ∧
    s.catalogue.isCatalogueComplete = false ∧ task.server ∈ s.fetchedFrom
  fetched : s.catalogueFromCache = false → s.catalogue.isCatalogueComplete = true →
    ∃ server ∈ s.fetchedFrom, (uncancelled server).fetch L = (s.catalogue, true)

variable {s}

theorem getFuture_of_not_taken (h : s.taken s.cancelFlag = false) :
    s.getFuture = { s with taken := Function.update s.taken s.cancelFlag true } := by
  rw [getFuture, if_neg (by simp [h])]

theorem setValue_of_not_ready (h : s.ready s.cancelFlag = false) :
    s.setValue = { s with ready := Function.update s.ready s.cancelFlag true } := by
  rw [setValue, if_neg (by simp [h])]

/-- A task is started whose promise has not been used before. -/
theorem Sound.startFetch (hs : Sound s) (htaken : s.taken s.cancelFlag = false)
    (hfetches : s.catalogueFromCache = false) (hincomplete : s.catalogue.isCatalogueComplete = false)
    (server : Server) (fileSystem : FileSystem L) : Sound (s.startFetch server fileSystem) := by
  rw [Life.startFetch, getFuture_of_not_taken htaken]
  constructor
  · exact hs.noError
  · exact hs.notReady
  · intro k hk
    by_cases hkey : k = s.cancelFlag
    · exact .inl hkey
    · exact hs.abandoned k ((Function.update_of_ne hkey _ _).symm.trans hk)
  · intro k hk
    exact (Function.update_of_ne (Nat.ne_of_gt hk) _ _).trans (hs.notTaken k hk)
  · intro hcached
    rw [hfetches] at hcached
    cases hcached
  · intro task htask
    cases htask
    rfl
  · intro task htask
    cases htask
    exact ⟨hfetches, hincomplete, by simp⟩
  · intro _ hcomplete
    rw [hincomplete] at hcomplete
    cases hcomplete

theorem Sound.renewPromise (hs : Sound s) (hfetches : s.catalogueFromCache = false)
    (hidle : s.catalogueFuture = none) : Sound s.renewPromise where
  noError := hs.noError
  notReady k hk := by
    have hne : k ≠ s.cancelFlag := (Nat.lt_of_succ_le hk).ne'
    exact (Function.update_of_ne hne _ _).trans (hs.notReady k (Nat.le_of_succ_le hk))
  abandoned k hk := by
    right
    by_cases hkey : k = s.cancelFlag
    · subst hkey
      exact Function.update_self _ _ _
    · exact (Function.update_of_ne hkey _ _).trans ((hs.abandoned k hk).resolve_left hkey)
  notTaken k hk := hs.notTaken k (Nat.lt_of_succ_lt hk)
  kept hcached := by
    rw [Life.renewPromise, hfetches] at hcached
    cases hcached
  promise task htask := by
    rw [Life.renewPromise, hidle] at htask
    cases htask
  pending task htask := hs.pending task htask
  fetched := hs.fetched

theorem Sound.retrigger (hs : Sound s) (server : Server) (fileSystem : FileSystem L) :
    Sound (s.retrigger server fileSystem) := by
  unfold Life.retrigger
  split
  · rename_i hguard
    simp only [Bool.and_eq_true, Bool.not_eq_true', Option.isSome_eq_false_iff,
      Option.isNone_iff_eq_none] at hguard
    exact (hs.renewPromise hguard.1.1 hguard.1.2).startFetch (hs.notTaken _ (Nat.lt_succ_self _)) hguard.1.1
      hguard.2 server fileSystem
  · exact hs

theorem Sound.setBackend (hs : Sound s) (backend : BackendState) (created : ℕ) :
    Sound { s with backend := backend, created := created } :=
  ⟨hs.noError, hs.notReady, hs.abandoned, hs.notTaken, hs.kept, hs.promise, hs.pending, hs.fetched⟩

/-- What a fetch returns is the catalogue of the server. -/
theorem fetch_of_fetchCatalogue {server : Server} {fileSystem : FileSystem L} {cacheFile : Text}
    {catalogue : DoocsBackendRegisterCatalogue}
    (h : fetchCatalogue L server fileSystem cacheFile = .ok catalogue) :
    server.fetch L = (catalogue, catalogue.isCatalogueComplete) := by
  have hc : (server.fetch L).1 = catalogue := by
    unfold fetchCatalogue at h
    dsimp only at h
    split at h
    · generalize (replaceCatalogue L (server.fetch L).1 (fileSystem.operations cacheFile)
        fileSystem.files).2 = saved at h
      cases saved with
      | error e => cases h
      | ok _ =>
        cases h
        rfl
    · cases h
      rfl
  rw [← hc]
  rfl

/-- Nobody has cancelled the task whose result is waited for. -/
theorem Sound.result_eq (hs : Sound s) {task : Task L} (htask : s.catalogueFuture = some task)
    (notices : CancelFlag) : task.result s.cacheFile (s.ready task.promise) notices =
      fetchCatalogue L (uncancelled task.server) task.fileSystem s.cacheFile := by
  rw [hs.promise task htask, hs.notReady _ le_rfl]
  rfl

theorem Sound.getBackendRegisterCatalogue (hs : Sound s) (notices : CancelFlag) :
    Sound (s.getBackendRegisterCatalogue notices).1 := by
  unfold Life.getBackendRegisterCatalogue
  split
  · exact hs
  · rename_i task htask
    rw [hs.result_eq htask]
    split
    · rename_i catalogue hresult
      refine ⟨hs.noError, hs.notReady, hs.abandoned, hs.notTaken, hs.kept, by simp, by simp, ?_⟩
      intro _ hcomplete
      refine ⟨task.server, (hs.pending task htask).2.2, ?_⟩
      rw [fetch_of_fetchCatalogue hresult]
      exact congrArg (Prod.mk catalogue) hcomplete
    · exact ⟨hs.noError, hs.notReady, hs.abandoned, hs.notTaken, hs.kept, by simp, by simp, hs.fetched⟩

theorem Sound.step (hs : Sound s) {e : Event L} {t : Life L} (h : s.step e = some t) : Sound t := by
  cases e with
  | getBackendRegisterCatalogue notices =>
    cases h
    exact hs.getBackendRegisterCatalogue notices
  | openBackend rc text server fileSystem =>
    cases h
    unfold Life.openBackend
    dsimp only
    split
    · exact hs.setBackend _ _
    · exact (hs.setBackend _ _).retrigger server fileSystem
  | close | informRuntimeError address | setException message =>
    cases h
    exact hs.setBackend _ _

/-- A backend which has its catalogue from the cache, or none yet. -/
theorem sound_of_unused {s : Life L} (herror : s.futureError = false) (hready : ∀ k, s.ready k = false)
    (htaken : ∀ k, s.taken k = true → k = s.cancelFlag) (hidle : s.catalogueFuture = none)
    (hsource : s.catalogueFromCache = true ∨ s.catalogue.isCatalogueComplete = false) : Sound s where
  noError := herror
  notReady k _ := hready k
  abandoned k hk := .inl (htaken k hk)
  notTaken k hk := by
    by_contra htrue
    exact absurd (htaken k (by simpa using htrue)) hk.ne'
  kept _ := htaken
  promise task htask := by
    rw [hidle] at htask
    cases htask
  pending task htask := by
    rw [hidle] at htask
    cases htask
  fetched hfetches hcomplete := by
    obtain h | h := hsource
    · rw [hfetches] at h
      cases h
    · rw [hcomplete] at h
      cases h

theorem sound_construct {server : Server} {fileSystem : FileSystem L} {cacheFile updateCache : Text}
    (h : construct server fileSystem cacheFile updateCache = .ok s) : Sound s := by
  unfold construct at h
  split at h
  · generalize readCatalogue L.toCacheLibraries
      (fileSystem.load ((fileSystem.files cacheFile).getD [])) = read at h
    cases read with
    | error e => cases h
    | ok catalogue =>
      cases h
      split
      · rw [getFuture_of_not_taken rfl]
        refine sound_of_unused rfl (fun _ => rfl) (fun k hk => ?_) rfl (.inl rfl)
        by_contra hne
        have hk : Function.update (fun _ => false) 0 true k = true := hk
        rw [Function.update_of_ne hne] at hk
        cases hk
      · exact sound_of_unused rfl (fun _ => rfl) (fun k hk => by cases hk) rfl (.inl rfl)
  · cases h
    have hunused : Sound ({ cacheFile := cacheFile } : Life L) :=
      sound_of_unused rfl (fun _ => rfl) (fun k hk => by cases hk) rfl (.inr rfl)
    exact hunused.startFetch rfl rfl rfl server fileSystem

theorem sound_run {server : Server} {fileSystem : FileSystem L} {cacheFile updateCache : Text}
    {t : Life L} {es : List (Event L)} (hnew : construct server fileSystem cacheFile updateCache = .ok s)
    (run : Runs.exec Life.step s es = some t) : Sound t :=
  Runs.exec_invariant run (fun _ _ _ hs h => hs.step h) (sound_construct hnew)

/-- The members which belong to the promises are left alone by whoever asks for the catalogue. -/
theorem getBackendRegisterCatalogue_promises (notices : CancelFlag) :
    (s.getBackendRegisterCatalogue notices).1.futureError = s.futureError ∧
      (s.getBackendRegisterCatalogue notices).1.ready = s.ready ∧
      (s.getBackendRegisterCatalogue notices).1.cancelFlag = s.cancelFlag := by
  unfold Life.getBackendRegisterCatalogue
  split
  · exact ⟨rfl, rfl, rfl⟩
  · split <;> exact ⟨rfl, rfl, rfl⟩

/-- The destructor makes the last promise ready, and no error comes of it. -/
theorem Sound.destroy_promises (hs : Sound s) (notices : CancelFlag) :
    (s.destroy notices).futureError = false ∧
      (s.destroy notices).ready = Function.update s.ready s.cancelFlag true := by
  unfold destroy
  by_cases hpending : s.catalogueFuture.isSome
  · have hset := setValue_of_not_ready (hs.notReady _ le_rfl)
    have hfine : s.setValue.futureError = false := by
      rw [hset]
      exact hs.noError
    obtain ⟨herror, hready, hflag⟩ := s.setValue.getBackendRegisterCatalogue_promises notices
    simp only [hpending, hfine, if_true, Bool.false_eq_true, if_false, herror, hready, hflag, true_and]
    simp [hset]
  · simp [hpending, hs.noError]

theorem Sound.destroy_ready (hs : Sound s) (notices : CancelFlag) {k : ℕ} (hk : s.taken k = true) :
    (s.destroy notices).ready k = true := by
  rw [(hs.destroy_promises notices).2]
  by_cases hkey : k = s.cancelFlag
  · rw [hkey, Function.update_self]
  · rw [Function.update_of_ne hkey]
    exact (hs.abandoned k hk).resolve_left hkey

/-- From its construction to its destruction a backend uses its promises as the standard demands, only
the destructor cancels a fetch, be it that of the future or the detached one which updates the cache file,
and it cancels every fetch which is still running. -/
theorem promises_used_once {server : Server} {fileSystem : FileSystem L} {cacheFile updateCache : Text}
    {t : Life L} {es : List (Event L)} (hnew : construct server fileSystem cacheFile updateCache = .ok s)
    (run : Runs.exec Life.step s es = some t) :
    t.futureError = false ∧ (∀ task, t.catalogueFuture = some task → t.ready task.promise = false) ∧
      (t.catalogueFromCache = true → t.ready t.cancelFlag = false ∧
        ∀ k, t.taken k = true → t.ready k = false) ∧
      ∀ notices, (t.destroy notices).futureError = false ∧
        ∀ k, t.taken k = true → (t.destroy notices).ready k = true := by
  have hs := sound_run hnew run
  have hready := hs.notReady _ le_rfl
  refine ⟨hs.noError, fun task htask => ?_, fun hcached => ⟨hready, fun k hk => ?_⟩,
    fun notices => ⟨(hs.destroy_promises notices).1, fun k hk => hs.destroy_ready notices hk⟩⟩
  · rw [hs.promise task htask]
    exact hready
  · rw [hs.kept hcached k hk]
    exact hready

/-- A backend of a device with one property, without a cache file. -/
def madeFor (server : Server) : Life plainFileLibraries :=
  ({ cacheFile := [] } : Life plainFileLibraries).startFetch server (otherDisk fun _ => none)

/-- It is opened again and again while its catalogue is asked for. -/
def asked : List (Event plainFileLibraries) :=
  [.openBackend .ok [] onePropertyServer (otherDisk fun _ => none), .close,
    .getBackendRegisterCatalogue neverCancelled,
    .openBackend .ok [] onePropertyServer (otherDisk fun _ => none)]

theorem asked_promises_used : ∃ t : Life plainFileLibraries,
    Runs.exec Life.step (madeFor onePropertyServer) asked = some t ∧ t.futureError = false := by
  obtain ⟨t, ht⟩ : ∃ t, Runs.exec Life.step (madeFor onePropertyServer) asked = some t := ⟨_, rfl⟩
  have hnew : construct onePropertyServer (otherDisk fun _ => none) [] "0".toList =
      .ok (madeFor onePropertyServer) := rfl
  exact ⟨t, ht, (promises_used_once hnew ht).1⟩

/-! ## A catalogue which is there for good -/

/-- The catalogue will not be fetched again. -/
structure Settled (catalogue : DoocsBackendRegisterCatalogue) (s : Life L) : Prop where
  catalogue_eq : s.catalogue = catalogue
  idle : s.catalogueFuture = none
  final : s.catalogueFromCache = true ∨ catalogue.isCatalogueComplete = true

variable {catalogue : DoocsBackendRegisterCatalogue} {t u : Life L}

theorem Settled.setBackend (hs : Settled catalogue s) (backend : BackendState) (created : ℕ) :
    Settled catalogue { s with backend := backend, created := created } :=
  ⟨hs.catalogue_eq, hs.idle, hs.final⟩

theorem Settled.getBackendRegisterCatalogue_eq (hs : Settled catalogue s) (notices : CancelFlag) :
    s.getBackendRegisterCatalogue notices = (s, .ok catalogue) := by
  rw [Life.getBackendRegisterCatalogue, hs.idle, hs.catalogue_eq]

theorem Settled.retrigger_eq (hs : Settled catalogue s) (server : Server) (fileSystem : FileSystem L) :
    s.retrigger server fileSystem = s := by
  apply if_neg
  rw [hs.catalogue_eq]
  rcases hs.final with h | h <;> simp [h]

theorem Settled.step (hs : Settled catalogue s) {e : Event L} (h : s.step e = some t) :
    Settled catalogue t ∧ t.fetchedFrom = s.fetchedFrom := by
  cases e with
  | getBackendRegisterCatalogue notices =>
    cases h
    rw [hs.getBackendRegisterCatalogue_eq]
    exact ⟨hs, rfl⟩
  | openBackend rc text server fileSystem =>
    cases h
    unfold Life.openBackend
    dsimp only
    split
    · exact ⟨hs.setBackend _ _, rfl⟩
    · rw [(hs.setBackend _ _).retrigger_eq server fileSystem]
      exact ⟨hs.setBackend _ _, rfl⟩
  | close | informRuntimeError address | setException message =>
    cases h
    exact ⟨hs.setBackend _ _, rfl⟩

theorem Settled.run (hs : Settled catalogue s) {es : List (Event L)}
    (run : Runs.exec Life.step s es = some t) : Settled catalogue t ∧ t.fetchedFrom = s.fetchedFrom := by
  apply Runs.exec_invariant (I := fun u => Settled catalogue u ∧ u.fetchedFrom = s.fetchedFrom) run
  · intro u e v hu h
    obtain ⟨hv, hsame⟩ := hu.1.step h
    exact ⟨hv, hsame.trans hu.2⟩
  · exact ⟨hs, rfl⟩

theorem catalogueFromCache_retrigger (server : Server) (fileSystem : FileSystem L) :
    (s.retrigger server fileSystem).catalogueFromCache = s.catalogueFromCache ∧
      (s.retrigger server fileSystem).cacheFile = s.cacheFile := by
  unfold Life.retrigger
  split
  · unfold Life.startFetch getFuture
    split <;> exact ⟨rfl, rfl⟩
  · exact ⟨rfl, rfl⟩

/-- Neither the cache file nor whether it has been used changes. -/
theorem catalogueFromCache_step {e : Event L} (h : s.step e = some t) :
    t.catalogueFromCache = s.catalogueFromCache ∧ t.cacheFile = s.cacheFile := by
  cases e with
  | getBackendRegisterCatalogue notices =>
    cases h
    unfold Life.getBackendRegisterCatalogue
    split
    · exact ⟨rfl, rfl⟩
    · split <;> exact ⟨rfl, rfl⟩
  | openBackend rc text server fileSystem =>
    cases h
    unfold Life.openBackend
    dsimp only
    split
    · exact ⟨rfl, rfl⟩
    · exact catalogueFromCache_retrigger server fileSystem
  | close | informRuntimeError address | setException message =>
    cases h
    exact ⟨rfl, rfl⟩

theorem catalogueFromCache_run {es : List (Event L)} (run : Runs.exec Life.step s es = some t) :
    t.catalogueFromCache = s.catalogueFromCache ∧ t.cacheFile = s.cacheFile := by
  apply Runs.exec_invariant
    (I := fun u => u.catalogueFromCache = s.catalogueFromCache ∧ u.cacheFile = s.cacheFile) run
  · intro u e v hu h
    obtain ⟨hcached, hfile⟩ := catalogueFromCache_step h
    exact ⟨hcached.trans hu.1, hfile.trans hu.2⟩
  · exact ⟨rfl, rfl⟩

/-- A catalogue from the cache is the one in the cache file, and it is there for good. -/
theorem settled_construct {server : Server} {fileSystem : FileSystem L} {cacheFile updateCache : Text}
    (h : construct server fileSystem cacheFile updateCache = .ok s) (hcached : s.catalogueFromCache = true) :
    Settled s.catalogue s ∧ readCatalogue L.toCacheLibraries
      (fileSystem.load ((fileSystem.files cacheFile).getD [])) = .ok s.catalogue := by
  unfold construct at h
  split at h
  · cases hread : readCatalogue L.toCacheLibraries
      (fileSystem.load ((fileSystem.files cacheFile).getD [])) with
    | error e =>
      rw [hread] at h
      cases h
    | ok catalogue =>
      rw [hread] at h
      cases h
      split
      · rw [getFuture_of_not_taken rfl]
        exact ⟨⟨rfl, rfl, .inl rfl⟩, rfl⟩
      · exact ⟨⟨rfl, rfl, .inl rfl⟩, rfl⟩
  · cases h
    rw [Life.startFetch, getFuture_of_not_taken rfl] at hcached
    cases hcached

/-- Nothing of the server is missing in the catalogue, and nothing is in it which the server has
not. -/
structure Describes (L : FileLibraries) (catalogue : DoocsBackendRegisterCatalogue) (server : Server) :
    Prop where
  listed : server.tree.AllListed (levelsBelow server.address)
  answered : ∀ p ∈ server.tree.properties (levelsBelow server.address) server.address,
    p.isFailed server.errorCodes = false
  registers : catalogue.registers = (fill L.toLibraries (keptCalls L.toLibraries server.layout
    server.errorCodes server.address
    (server.tree.properties (levelsBelow server.address) server.address))).registers

theorem describes_of_fetch {server : Server}
    (h : (uncancelled server).fetch L = (catalogue, true)) : Describes L catalogue server := by
  have hcomplete : ((uncancelled server).fetch L).2 = true := congrArg Prod.snd h
  simp only [Server.fetch, CatalogueFetcher.fetch, Bool.and_eq_true, Bool.not_eq_true'] at hcomplete
  have hcovers := CatalogueFetcher.covers_fillCatalogue ⟨hcomplete.1.2, hcomplete.1.1⟩
  refine ⟨hcovers.answered.1, hcovers.answered.2, ?_⟩
  rw [← congrArg (fun result => result.1.registers) h]
  exact congrArg (·.registers) hcovers.catalogue

/-- A catalogue which is complete or comes from the cache is kept for good: nothing is fetched any more
and everybody gets this catalogue without waiting. It is the one in the cache file or describes a server
which the backend has fetched from, without cancelling it. -/
theorem complete_catalogue_final {server : Server} {fileSystem : FileSystem L}
    {cacheFile updateCache : Text} {es : List (Event L)}
    (hnew : construct server fileSystem cacheFile updateCache = .ok s)
    (run : Runs.exec Life.step s es = some t)
    (h : t.catalogueFromCache = true ∨ t.catalogue.isCatalogueComplete = true) :
    (∀ es' u, Runs.exec Life.step t es' = some u → u.fetchedFrom = t.fetchedFrom ∧
      ∀ notices, u.getBackendRegisterCatalogue notices = (u, .ok t.catalogue)) ∧
    (t.catalogueFromCache = true → readCatalogue L.toCacheLibraries
      (fileSystem.load ((fileSystem.files cacheFile).getD [])) = .ok t.catalogue) ∧
    (t.catalogueFromCache = false → ∃ server ∈ t.fetchedFrom, Describes L t.catalogue server) := by
  have hs := sound_run hnew run
  have hidle : t.catalogueFuture = none := by
    by_contra hpending
    obtain ⟨task, htask⟩ := Option.ne_none_iff_exists'.mp hpending
    obtain ⟨hfetches, hincomplete, -⟩ := hs.pending task htask
    simp [hfetches, hincomplete] at h
  have hsettled : Settled t.catalogue t := ⟨rfl, hidle, h⟩
  refine ⟨fun es' u hrun => ?_, fun hcached => ?_, fun hfetches => ?_⟩
  · obtain ⟨hu, hsame⟩ := hsettled.run hrun
    exact ⟨hsame, hu.getBackendRegisterCatalogue_eq⟩
  · rw [(catalogueFromCache_run run).1] at hcached
    obtain ⟨hold, hread⟩ := settled_construct hnew hcached
    rw [hread, (hold.run run).1.catalogue_eq]
  · obtain ⟨origin, hmem, hfetch⟩ := hs.fetched hfetches (by simpa [hfetches] using h)
    exact ⟨origin, hmem, describes_of_fetch hfetch⟩

/-- In the end the backend has the catalogue of its only server. -/
theorem asked_catalogue_final : ∃ t : Life plainFileLibraries,
    Runs.exec Life.step (madeFor onePropertyServer) asked = some t ∧
      ∃ server ∈ t.fetchedFrom, Describes plainFileLibraries t.catalogue server := by
  obtain ⟨t, ht⟩ : ∃ t, Runs.exec Life.step (madeFor onePropertyServer) asked = some t := ⟨_, rfl⟩
  have hcomplete : t.catalogue.isCatalogueComplete = true := by
    cases ht
    decide
  have hfetches : t.catalogueFromCache = false := (catalogueFromCache_run ht).1
  have hnew : construct onePropertyServer (otherDisk fun _ => none) [] "0".toList =
      .ok (madeFor onePropertyServer) := rfl
  exact ⟨t, ht, (complete_catalogue_final hnew ht (.inr hcomplete)).2.2 hfetches⟩

/-! ## A server which comes back -/

/-- The catalogue will be the given one, as soon as somebody asks for it. -/
def Awaits (catalogue : DoocsBackendRegisterCatalogue) (s : Life L) : Prop :=
  (∃ task, s.catalogueFuture = some task ∧
    fetchCatalogue L (uncancelled task.server) task.fileSystem s.cacheFile = .ok catalogue ∧
    catalogue.isCatalogueComplete = true) ∨ Settled catalogue s

theorem Awaits.getBackendRegisterCatalogue (h : Awaits catalogue s) (hs : Sound s)
    (notices : CancelFlag) : (s.getBackendRegisterCatalogue notices).2 = .ok catalogue ∧
      Settled catalogue (s.getBackendRegisterCatalogue notices).1 := by
  obtain ⟨task, htask, hfetch, hcomplete⟩ | hsettled := h
  · rw [← hs.result_eq htask notices] at hfetch
    simp only [Life.getBackendRegisterCatalogue, htask, hfetch, true_and]
    exact ⟨rfl, rfl, .inr hcomplete⟩
  · rw [hsettled.getBackendRegisterCatalogue_eq]
    exact ⟨rfl, hsettled⟩

theorem retrigger_of_pending (h : s.catalogueFuture.isSome = true) (server : Server)
    (fileSystem : FileSystem L) : s.retrigger server fileSystem = s := by
  apply if_neg
  simp [h]

theorem Awaits.step (h : Awaits catalogue s) (hs : Sound s) {e : Event L} (hstep : s.step e = some t) :
    Awaits catalogue t := by
  obtain ⟨task, htask, hfetch⟩ | hsettled := h
  · cases e with
    | getBackendRegisterCatalogue notices =>
      cases hstep
      exact .inr (Awaits.getBackendRegisterCatalogue (.inl ⟨task, htask, hfetch⟩) hs notices).2
    | openBackend rc text server fileSystem =>
      cases hstep
      left
      unfold Life.openBackend
      dsimp only
      split
      · exact ⟨task, htask, hfetch⟩
      · rw [retrigger_of_pending (by simp [htask])]
        exact ⟨task, htask, hfetch⟩
    | close | informRuntimeError address | setException message =>
      cases hstep
      exact .inl ⟨task, htask, hfetch⟩
  · exact .inr (hsettled.step hstep).1

theorem Awaits.run (h : Awaits catalogue s) (hs : Sound s) {es : List (Event L)}
    (run : Runs.exec Life.step s es = some t) : Awaits catalogue t ∧ Sound t := by
  apply Runs.exec_invariant (I := fun u => Awaits catalogue u ∧ Sound u) run
  · intro u e v hu hstep
    exact ⟨hu.1.step hu.2 hstep, hu.2.step hstep⟩
  · exact ⟨h, hs⟩

/-- A backend which has been left without a complete catalogue gets the one of its server as soon as
it is opened while the server can be listed and the cache file can be written. From then on everybody
who asks gets this catalogue, whatever becomes of the server and of the backend. -/
theorem catalogue_after_open {server now : Server} {fileSystem disk : FileSystem L}
    {cacheFile updateCache text : Text} {es es' : List (Event L)} {rc : ReturnCode}
    (hnew : construct server fileSystem cacheFile updateCache = .ok s)
    (run : Runs.exec Life.step s es = some t) (hfetches : t.catalogueFromCache = false)
    (hidle : t.catalogueFuture = none) (hincomplete : t.catalogue.isCatalogueComplete = false)
    (hopen : (t.openBackend rc text now disk).2 = none)
    (hlisted : ((uncancelled now).fetch L).2 = true)
    (hsaved : t.cacheFile = [] ∨ Saves (disk.operations t.cacheFile))
    (later : Runs.exec Life.step (t.openBackend rc text now disk).1 es' = some u) (notices : CancelFlag) :
    (u.getBackendRegisterCatalogue notices).2 = .ok ((uncancelled now).fetch L).1 ∧
      Describes L ((uncancelled now).fetch L).1 now := by
  have hs := sound_run hnew run
  have hcomplete : ((uncancelled now).fetch L).1.isCatalogueComplete = true := hlisted
  have hreturned : fetchCatalogue L (uncancelled now) disk t.cacheFile =
      .ok ((uncancelled now).fetch L).1 := by
    apply (fetchCatalogue_eq_iff L (uncancelled now) disk t.cacheFile).mpr
    exact hsaved.imp_right .inr
  have hopened : (t.openBackend rc text now disk).1 =
      ({ t with backend := (t.backend.openBackend rc text (t.created + 1)).1,
                created := t.created + 1 } : Life L).retrigger now disk := by
    unfold Life.openBackend at hopen ⊢
    dsimp only at hopen ⊢
    split
    · rename_i e he
      rw [he] at hopen
      cases hopen
    · rfl
  have hawaits : Awaits ((uncancelled now).fetch L).1 (t.openBackend rc text now disk).1 := by
    left
    refine ⟨⟨t.cancelFlag + 1, now, disk⟩, ?_, ?_, hcomplete⟩
    · rw [hopened, Life.retrigger, if_pos (by simp [hfetches, hidle, hincomplete])]
      rfl
    · rw [hopened, (catalogueFromCache_retrigger now disk).2]
      exact hreturned
  have hsound : Sound (t.openBackend rc text now disk).1 := hs.step (e := .openBackend rc text now disk) rfl
  obtain ⟨hu, hsu⟩ := hawaits.run hsound later
  exact ⟨(hu.getBackendRegisterCatalogue hsu notices).1, describes_of_fetch (Prod.ext rfl hlisted)⟩

/-- The device with one property while its names cannot be asked for. -/
def silentServer : Server :=
  { onePropertyServer with tree := (none : NameTree (levelsBelow "F/D".toList + 1)) }

/-- The device has been asked for its names in vain when the backend is opened again. -/
theorem silent_then_opened : ∃ t : Life plainFileLibraries,
    Runs.exec Life.step (madeFor silentServer) [.getBackendRegisterCatalogue neverCancelled] = some t ∧
      ((t.openBackend .ok [] onePropertyServer (otherDisk fun _ => none)).1.getBackendRegisterCatalogue
        neverCancelled).2 = .ok ((uncancelled onePropertyServer).fetch plainFileLibraries).1 := by
  obtain ⟨t, ht⟩ : ∃ t, Runs.exec Life.step (madeFor silentServer)
    [.getBackendRegisterCatalogue neverCancelled] = some t := ⟨_, rfl⟩
  have hidle : t.catalogueFuture = none ∧ t.catalogue.isCatalogueComplete = false ∧
      (t.openBackend .ok [] onePropertyServer (otherDisk fun _ => none)).2 = none := by
    cases ht
    exact ⟨rfl, by decide, rfl⟩
  have hnew : construct silentServer (otherDisk fun _ => none) [] "0".toList =
      .ok (madeFor silentServer) := rfl
  exact ⟨t, ht, (catalogue_after_open hnew ht (catalogueFromCache_run ht).1 hidle.1 hidle.2.1 hidle.2.2
    (by decide) (.inl (catalogueFromCache_run ht).2) Runs.exec_nil neverCancelled).1⟩

end Life

end DoocsBackend.Catalogue
