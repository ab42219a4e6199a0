import DoocsBackend.Catalogue.Caching
import DoocsBackend.Zmq.Construction

/-! # The exceptions of constructors

The constructors are documented to throw logic errors only. They look the register up in the
catalogue, which is fetched in a future, allocate a buffer of as many elements as they are asked for,
and subscribe, for which they call `dmsg_attach`. Each can fail with other exceptions, and nothing
stands between these and the caller.
-/
namespace DoocsBackend.Zmq.Construction
open Accessor Catalogue

/-- The catalogue entry of a name. -/
def getBackendRegister (catalogue : DoocsBackendRegisterCatalogue) (registerPathName : Text) :
    Option DoocsBackendRegisterInfo :=
  catalogue.registers.find? fun info => info.name == registerPathName

/-- The arguments, with the entry of the catalogue. -/
def lookUp (catalogue : DoocsBackendRegisterCatalogue) (registerPathName : Text) (args : Arguments) :
    Arguments :=
  { args with info := getBackendRegister catalogue registerPathName }

section Definitions
variable {α : Type} [DecidableEq α] (M : ImageLayout) (typeOf : ℤ → DoocsType) (a : α)
  (asyncReadActivated : Bool)

/-- The whole constructor of a backend with the given catalogue. Unknown flags are rejected before the
catalogue is asked for. -/
def constructAccessor (members : CatalogueMembers) (registerPathName : Text) (cls : AccessorClass)
    (args : Arguments) (r : Registry α) : Except Failure Unit × Construction α :=
  if args.flags.raw then run M typeOf a asyncReadActivated cls args r
  else match members.getBackendRegisterCatalogue.2 with
    | .error e => (.error e, shutdown a args.path { registry := r })
    | .ok catalogue =>
      run M typeOf a asyncReadActivated cls (lookUp catalogue registerPathName args) r

/-- The operation succeeds or throws a `logic_error`. -/
def SucceedsOrLogicError {β : Type} (result : Except Failure β) : Prop :=
  (∃ b, result = .ok b) ∨ ∃ what, result = .error (.logicError what)

/-- `initialise` accepts the arguments for a property of the given shape. -/
structure Accepts (args : Arguments) (info : DoocsBackendRegisterInfo) (shape : ℕ × DoocsType) :
    Prop where
  raw : args.flags.raw = false
  found : args.info = some info
  mode : args.flags.waitForNewData = true → info.accessModeFlags.waitForNewData = true
  reported : actualShape M typeOf args info = .ok shape
  fits : ¬ (shape.1 < sizeAdd (wordsOf args shape.1) args.wordOffsetInRegister ∧ shape.2 ≠ .image)

/-- Where the arguments are accepted, the buffer can have so many elements, the property can be
subscribed to, and a numeric accessor is not made for something else. -/
structure Constructible (r : Registry α) (cls : AccessorClass) (args : Arguments) : Prop where
  size : ∀ info shape, Accepts M typeOf (cls.arguments args) info shape →
    wordsOf (cls.arguments args) shape.1 ≤ args.maxSize
  attach : ∀ info shape, Accepts M typeOf (cls.arguments args) info shape →
    args.flags.waitForNewData = true → r.subscription args.path = none → args.attachError = none
  type : ∀ info shape, Accepts M typeOf (cls.arguments args) info shape →
    cls = .numeric ∨ cls = .iiii → callForDoocsType shape.2 ≠ none

/-- Neither the catalogue nor what follows fails with anything but a logic error, unless the flags
are rejected before. -/
structure NothingElseFails (members : CatalogueMembers) (registerPathName : Text) (r : Registry α)
    (cls : AccessorClass) (args : Arguments) : Prop where
  future : args.flags.raw = false → ∀ e, members.catalogueFuture = some (.error e) →
    ∃ what, e = .logicError what
  constructible : ∀ catalogue, members.getBackendRegisterCatalogue.2 = .ok catalogue →
    Constructible M typeOf r cls (lookUp catalogue registerPathName args)

end Definitions

variable {α : Type} [DecidableEq α] {M : ImageLayout} {typeOf : ℤ → DoocsType} {a : α}
  {asyncReadActivated : Bool} {r : Registry α} {cls : AccessorClass} {args : Arguments}
  {w : Construction α}

theorem actualShape_error {info : DoocsBackendRegisterInfo} {e : Failure}
    (h : actualShape M typeOf args info = .error e) : ∃ what, e = .logicError what := by
  unfold actualShape reportedShape at h
  repeat' split at h
  all_goals cases h
  exact ⟨_, rfl⟩

variable (M typeOf a asyncReadActivated args) in
/-- `initialise` returns the type or throws a logic error, unless the buffer would be too large or it
fails to subscribe. -/
theorem initialise_cases (info : DoocsBackendRegisterInfo) (w : Construction α) :
    (∃ what, (initialise M typeOf a asyncReadActivated args info w).1 = .error (.logicError what) ∧
      ∀ shape, actualShape M typeOf args info = .ok shape →
        shape.1 < sizeAdd (wordsOf args shape.1) args.wordOffsetInRegister ∧ shape.2 ≠ .image) ∨
    ∃ shape, actualShape M typeOf args info = .ok shape ∧
      ¬ (shape.1 < sizeAdd (wordsOf args shape.1) args.wordOffsetInRegister ∧ shape.2 ≠ .image) ∧
      (initialise M typeOf a asyncReadActivated args info w).1 =
        if args.maxSize < wordsOf args shape.1 then .error .lengthError
        else if w.useZMQ = true ∧ w.registry.subscription args.path = none ∧ args.attachError ≠ none then
          .error (.runtimeError ("Cannot subscribe to DOOCS property '".toList ++
            args.path ++ "' via ZeroMQ: ".toList ++ args.attachError.getD []))
        else .ok shape.2 := by
  unfold initialise
  cases hs : actualShape M typeOf args info with
  | error e =>
    obtain ⟨what, rfl⟩ := actualShape_error hs
    exact .inl ⟨what, rfl, by simp⟩
  | ok shape =>
    dsimp only
    by_cases hrange : shape.1 < sizeAdd (wordsOf args shape.1) args.wordOffsetInRegister ∧
        shape.2 ≠ .image
    · rw [if_pos hrange]
      refine .inl ⟨_, rfl, fun shape' h => ?_⟩
      cases h
      exact hrange
    · rw [if_neg hrange]
      refine .inr ⟨shape, rfl, hrange, ?_⟩
      by_cases hsize : args.maxSize < wordsOf args shape.1
      · rw [if_pos hsize, if_pos hsize]
      rw [if_neg hsize, if_neg hsize]
      cases hz : w.useZMQ with
      | false => simp
      | true =>
        have hiff : (w.registry.subscribe args.path a asyncReadActivated
              args.attachError.isSome).2 = true ↔
            w.registry.subscription args.path = none ∧ args.attachError.isSome = true :=
          Registry.subscribe_throws_iff
        rw [Option.isSome_iff_ne_none] at hiff
        simp only [if_true, true_and, hiff]

theorem Accepts.info_eq {info info' : DoocsBackendRegisterInfo} {shape : ℕ × DoocsType}
    (h : Accepts M typeOf args info shape) (hinfo : args.info = some info') : info = info' :=
  Option.some.inj (h.found.symm.trans hinfo)

theorem Accepts.shape_eq {info info' : DoocsBackendRegisterInfo} {shape shape' : ℕ × DoocsType}
    (h : Accepts M typeOf args info shape) (h' : Accepts M typeOf args info' shape') :
    shape = shape' := by
  obtain rfl := h.info_eq h'.found
  exact Except.ok.inj (h.reported.symm.trans h'.reported)

/-- The subscription of the path would be new, and `dmsg_attach` fails. -/
def FailsToAttach (r : Registry α) (args : Arguments) : Prop :=
  args.flags.waitForNewData = true ∧ r.subscription args.path = none ∧ args.attachError ≠ none

/-- How the base class constructor ends where the arguments are accepted. -/
inductive BaseOutcome (r : Registry α) (args : Arguments) (shape : ℕ × DoocsType) :
    Except Failure DoocsType → Prop
  | tooLarge (hsize : args.maxSize < wordsOf args shape.1) :
      BaseOutcome r args shape (.error .lengthError)
  | notSubscribed (hsize : wordsOf args shape.1 ≤ args.maxSize) (hattach : FailsToAttach r args) :
      BaseOutcome r args shape (.error (.runtimeError ("Cannot subscribe to DOOCS property '".toList ++
        args.path ++ "' via ZeroMQ: ".toList ++ args.attachError.getD [])))
  | done (hsize : wordsOf args shape.1 ≤ args.maxSize) (hattach : ¬ FailsToAttach r args) :
      BaseOutcome r args shape (.ok shape.2)

/-- The base class constructor returns the type or throws a logic error, unless the buffer would be too
large or it fails to subscribe. -/
theorem tryBase_cases (M : ImageLayout) (typeOf : ℤ → DoocsType) (a : α) (asyncReadActivated : Bool)
    (r : Registry α) (args : Arguments) :
    ((∃ what, (tryBase M typeOf a asyncReadActivated args { registry := r }).1 =
        .error (.logicError what)) ∧ ∀ info shape, ¬ Accepts M typeOf args info shape) ∨
    ∃ info shape, Accepts M typeOf args info shape ∧ BaseOutcome r args shape
      (tryBase M typeOf a asyncReadActivated args { registry := r }).1 := by
  unfold tryBase
  cases hraw : args.flags.raw with
  | true =>
    refine .inl ⟨⟨_, rfl⟩, fun info shape h => ?_⟩
    rw [h.raw] at hraw
    cases hraw
  | false =>
    cases hinfo : args.info with
    | none =>
      refine .inl ⟨⟨_, rfl⟩, fun info shape h => ?_⟩
      rw [h.found] at hinfo
      cases hinfo
    | some info =>
      simp only [Bool.false_eq_true, if_false]
      by_cases hmode : args.flags.waitForNewData = true ∧ ¬ info.accessModeFlags.waitForNewData = true
      · rw [if_pos hmode]
        refine .inl ⟨⟨_, rfl⟩, fun info' shape h => ?_⟩
        obtain rfl := h.info_eq hinfo
        exact hmode.2 (h.mode hmode.1)
      · rw [if_neg hmode]
        have hmode' : args.flags.waitForNewData = true →
            info.accessModeFlags.waitForNewData = true := by
          intro hw
          by_contra hn
          exact hmode ⟨hw, hn⟩
        rcases initialise_cases M typeOf a asyncReadActivated args info
          { registry := r, useZMQ := args.flags.waitForNewData } with
          ⟨what, hresult, hnofit⟩ | ⟨shape, hshape, hfits, hresult⟩
        · refine .inl ⟨⟨what, hresult⟩, fun info' shape h => ?_⟩
          obtain rfl := h.info_eq hinfo
          exact h.fits (hnofit shape h.reported)
        · refine .inr ⟨info, shape, ⟨hraw, hinfo, hmode', hshape, hfits⟩, ?_⟩
          rw [hresult]
          by_cases hsize : args.maxSize < wordsOf args shape.1
          · rw [if_pos hsize]
            exact .tooLarge hsize
          rw [if_neg hsize]
          split
          · exact .notSubscribed (not_lt.mp hsize) ‹_›
          · exact .done (not_lt.mp hsize) ‹_›

variable (M typeOf a asyncReadActivated) in
theorem base_fst (args : Arguments) (w : Construction α) :
    (base M typeOf a asyncReadActivated args w).1 =
      (tryBase M typeOf a asyncReadActivated args w).1 := by
  unfold base
  cases tryBase M typeOf a asyncReadActivated args w with
  | mk result w => cases result <;> rfl

theorem succeedsOrLogicError_ok {β : Type} (b : β) :
    SucceedsOrLogicError (.ok b : Except Failure β) := .inl ⟨b, rfl⟩

theorem succeedsOrLogicError_logicError {β : Type} (what : Text) :
    SucceedsOrLogicError (.error (.logicError what) : Except Failure β) := .inr ⟨what, rfl⟩

theorem not_succeedsOrLogicError_error {β : Type} {e : Failure} (he : ∀ what, e ≠ .logicError what) :
    ¬ SucceedsOrLogicError (.error e : Except Failure β) := by
  rintro (⟨b, h⟩ | ⟨what, h⟩)
  · cases h
  · cases h
    exact he what rfl

/-- Of the accessor classes, only those for numbers end the program. -/
theorem succeedsOrLogicError_derived_iff (cls : AccessorClass) (args : Arguments) (type : DoocsType)
    (w : Construction α) :
    SucceedsOrLogicError (derived a cls args type w).1 ↔
      (cls = .numeric ∨ cls = .iiii → callForDoocsType type ≠ none) := by
  cases cls with
  | numeric | iiii =>
    simp only [derived]
    by_cases htype : callForDoocsType type = none
    · rw [if_pos htype]
      exact iff_of_false (not_succeedsOrLogicError_error (by simp)) (by simp [htype])
    · rw [if_neg htype]
      exact iff_of_true (succeedsOrLogicError_ok ()) fun _ => htype
  | ifff | string | image =>
    refine iff_of_true ?_ (by simp)
    simp only [derived]
    repeat' split
    all_goals first | exact succeedsOrLogicError_logicError _ | exact succeedsOrLogicError_ok ()
  | eventId | timeStamp => exact iff_of_true (succeedsOrLogicError_ok ()) (by simp)

omit [DecidableEq α] in
theorem failsToAttach_arguments :
    FailsToAttach r (cls.arguments args) ↔ FailsToAttach r args := by
  cases cls <;> exact Iff.rfl

omit [DecidableEq α] in
theorem arguments_maxSize : (cls.arguments args).maxSize = args.maxSize := by
  cases cls <;> rfl

/-- A constructor which has got its catalogue entry succeeds or throws a logic error exactly if its buffer
has room, it can subscribe and it finds the type it is for. -/
theorem succeedsOrLogicError_run_iff :
    SucceedsOrLogicError (run M typeOf a asyncReadActivated cls args r).1 ↔
      Constructible M typeOf r cls args := by
  have hfst := base_fst M typeOf a asyncReadActivated (cls.arguments args) { registry := r }
  unfold run
  cases hb : base M typeOf a asyncReadActivated (cls.arguments args) { registry := r } with
  | mk result w =>
    rw [hb] at hfst
    rcases tryBase_cases M typeOf a asyncReadActivated r (cls.arguments args) with
      ⟨⟨what, htry⟩, hnone⟩ | ⟨info, shape, haccepts, houtcome⟩
    · rw [htry] at hfst
      cases hfst
      exact iff_of_true (succeedsOrLogicError_logicError what)
        ⟨fun info shape h => absurd h (hnone info shape),
          fun info shape h => absurd h (hnone info shape),
          fun info shape h => absurd h (hnone info shape)⟩
    · rw [← hfst] at houtcome
      cases houtcome with
      | tooLarge hsize =>
        rw [arguments_maxSize] at hsize
        exact iff_of_false (not_succeedsOrLogicError_error (by simp))
          fun h => (h.size info shape haccepts).not_gt hsize
      | notSubscribed hsize hattach =>
        obtain ⟨hwait, hnew, herror⟩ := failsToAttach_arguments.mp hattach
        exact iff_of_false (not_succeedsOrLogicError_error (by simp))
          fun h => herror (h.attach info shape haccepts hwait hnew)
      | done hsize hattach =>
        rw [arguments_maxSize] at hsize
        apply (succeedsOrLogicError_derived_iff cls (cls.arguments args) shape.2 w).trans
        constructor
        · intro htype
          refine ⟨fun info' shape' h' => ?_, fun _ _ _ hwait hnew => ?_, fun info' shape' h' => ?_⟩
          · rw [h'.shape_eq haccepts]
            exact hsize
          · by_contra herror
            exact hattach (failsToAttach_arguments.mpr ⟨hwait, hnew, herror⟩)
          · rw [h'.shape_eq haccepts]
            exact htype
        · exact fun h => h.type info shape haccepts

/-- As much of an image as a `size_t` can count. -/
example : (run plainImageLayout plainLibraries.type () true .image
    { secondWord (.image ⟨0, 0, 0, 0, 0, 0, 0, 0, 0, 0⟩ []) with
      numberOfWords := 2 ^ 64 - 1, wordOffsetInRegister := 0
      numberOfWords_lt := by decide, wordOffset_lt := Arguments.zero_lt } noSubscriptions).1 =
    .error .lengthError := by decide

omit [DecidableEq α] in
theorem constructible_of_raw (h : args.flags.raw = true) : Constructible M typeOf r cls args := by
  have hraw : (cls.arguments args).flags.raw = true := by cases cls <;> exact h
  have hnone (info : DoocsBackendRegisterInfo) (shape : ℕ × DoocsType) :
      ¬ Accepts M typeOf (cls.arguments args) info shape := by
    intro haccepts
    rw [haccepts.raw] at hraw
    cases hraw
  exact ⟨fun info shape h => absurd h (hnone info shape),
    fun info shape h => absurd h (hnone info shape), fun info shape h => absurd h (hnone info shape)⟩

theorem getBackendRegisterCatalogue_error_iff {members : CatalogueMembers} {e : Failure} :
    members.getBackendRegisterCatalogue.2 = .error e ↔
      members.catalogueFuture = some (.error e) := by
  unfold CatalogueMembers.getBackendRegisterCatalogue
  cases h : members.catalogueFuture with
  | none => simp
  | some result => cases result <;> simp

/-- A constructor succeeds or throws a logic error exactly if nothing else fails in the catalogue, in the
allocation of the buffer or in the subscription. -/
theorem constructors_logic_errors_iff (M : ImageLayout) (typeOf : ℤ → DoocsType) (a : α)
    (asyncReadActivated : Bool) (members : CatalogueMembers) (registerPathName : Text)
    (cls : AccessorClass) (args : Arguments) (r : Registry α) :
    SucceedsOrLogicError
        (constructAccessor M typeOf a asyncReadActivated members registerPathName cls args r).1 ↔
      NothingElseFails M typeOf members registerPathName r cls args := by
  unfold constructAccessor
  by_cases hraw : args.flags.raw = true
  · rw [if_pos hraw, succeedsOrLogicError_run_iff]
    refine iff_of_true (constructible_of_raw hraw) ⟨fun h => ?_, fun catalogue _ => ?_⟩
    · rw [hraw] at h
      cases h
    · exact constructible_of_raw hraw
  · rw [if_neg hraw]
    rw [Bool.not_eq_true] at hraw
    cases hc : members.getBackendRegisterCatalogue.2 with
    | error e =>
      have hfuture := getBackendRegisterCatalogue_error_iff.mp hc
      constructor
      · rintro (⟨b, h⟩ | ⟨what, h⟩)
        · cases h
        · cases h
          refine ⟨fun _ e he => ?_, fun catalogue h => by rw [hc] at h; cases h⟩
          rw [hfuture] at he
          cases he
          exact ⟨what, rfl⟩
      · intro h
        obtain ⟨what, rfl⟩ := h.future hraw e hfuture
        exact succeedsOrLogicError_logicError what
    | ok catalogue =>
      rw [succeedsOrLogicError_run_iff]
      constructor
      · intro h
        refine ⟨fun _ e he => ?_, fun catalogue' h' => ?_⟩
        · rw [getBackendRegisterCatalogue_error_iff.mpr he] at hc
          cases hc
        · rw [hc] at h'
          cases h'
          exact h
      · exact fun h => h.constructible catalogue hc

/-- The first constructor after a complete catalogue could not be saved throws the error of
`saveCatalogue`. -/
theorem constructor_of_not_saved {L : FileLibraries} {server : Server} {fileSystem : FileSystem L}
    {cacheFile : Text} (hname : cacheFile ≠ []) (hcomplete : (server.fetch L).2 = true)
    (hfails : ¬ Saves (fileSystem.operations cacheFile)) (hraw : args.flags.raw = false)
    (registerPathName : Text) :
    ∃ what, (constructAccessor M typeOf a asyncReadActivated
      { catalogueFuture := some (fetchCatalogue L server fileSystem cacheFile) }
      registerPathName cls args r).1 = .error (.runtimeError what) := by
  obtain ⟨what, herror⟩ := fetchCatalogue_of_not_saved hname hcomplete hfails
  refine ⟨what, ?_⟩
  unfold constructAccessor
  rw [hraw, if_neg Bool.false_ne_true, herror]
  rfl

/-- A published property, and nothing else. -/
def onePublished : DoocsBackendRegisterCatalogue where
  registers :=
    [{ name := "/P".toList
       length := 10
       dataDescriptor := DoocsBackendRegisterCatalogue.signedInteger 11
       accessModeFlags := { waitForNewData := true }
       doocsTypeId := 21 }]

/-- The property is asked for while the server cannot be reached. -/
def unreachable : Arguments :=
  { secondWord (.blank 10 .aInt) with
    rc := .transportError, attachError := some "server down".toList }

/-- The constructor throws the error of `dmsg_attach` as a `runtime_error`. -/
theorem constructor_runtime_error :
    (constructAccessor plainImageLayout plainLibraries.type () true { catalogue := onePublished }
        "/P".toList .numeric unreachable noSubscriptions).1 =
      .error (.runtimeError
        "Cannot subscribe to DOOCS property 'F/D/L/P' via ZeroMQ: server down".toList) ∧
    ¬ SucceedsOrLogicError
      (constructAccessor plainImageLayout plainLibraries.type () true { catalogue := onePublished }
        "/P".toList .numeric unreachable noSubscriptions).1 := by
  have hthrown : (constructAccessor plainImageLayout plainLibraries.type () true
      { catalogue := onePublished } "/P".toList .numeric unreachable noSubscriptions).1 =
      .error (.runtimeError
        "Cannot subscribe to DOOCS property 'F/D/L/P' via ZeroMQ: server down".toList) := by decide
  refine ⟨hthrown, ?_⟩
  rw [hthrown]
  exact not_succeedsOrLogicError_error (by simp)

end DoocsBackend.Zmq.Construction
