import DoocsBackend.Catalogue.Resolve
import DoocsBackend.Zmq.LogicErrors

/-! # The accessors of a backend

`getRegisterAccessor_impl` takes the address of a register apart, asks the server or else the
catalogue for the type of the property, and constructs the accessor for this type. Whether a field
was allowed is only looked at when the accessor is there already.
-/
namespace DoocsBackend.Zmq.Construction
open Accessor Catalogue

/-- The arguments of `getRegisterAccessor_impl`. -/
structure Request where
  userType : UserType
  registerPathName : Text
  numberOfWords : ℕ
  wordOffsetInRegister : ℕ
  flags : AccessModeFlags
  /-- The most elements a vector of the user type can have. -/
  maxSize : ℕ := 2 ^ 63 - 1
  numberOfWords_lt : numberOfWords < 2 ^ 64
  wordOffset_lt : wordOffsetInRegister < 2 ^ 64
  le_maxSize : 2 ^ 32 ≤ maxSize := by exact Accessor.le_plainMaxSize

/-- The state of the backend and the answers of the server while the accessor is made. -/
structure Answers where
  isOpen : Bool
  /-- The `get` which is to find out the type. -/
  typeRc : ReturnCode
  doocsTypeId : ℤ
  /-- The `get` of `initialise`. -/
  rc : ReturnCode
  dst : Payload
  attachError : Option Text

/-- An accessor, and whether a `TypeChangingRangeCheckingDecorator` stands in front of it. -/
structure Made where
  cls : AccessorClass
  path : Text
  decorated : Bool
  deriving DecidableEq, Repr

/-- The path goes down to a field of a property. -/
def hasExtraLevel (path : Text) : Bool :=
  if !startsWith path "doocs://".toList && !startsWith path "epics://".toList then
    path.count '/' == 4
  else if startsWith path "doocs://".toList then path.count '/' == 4 + 3
  else false

section Definitions
variable {α : Type} [DecidableEq α] (L : Libraries) (M : ImageLayout) (a : α)
  (asyncReadActivated : Bool) (serverAddress : Text)

/-- The type the server has told, `DATA_NULL` if it has not. -/
def toldType (answers : Answers) : ℤ :=
  if answers.isOpen = true ∧ answers.typeRc = .ok then answers.doocsTypeId else L.id .null

/-- `doocsTypeId`, from the server if it has told it and from the catalogue otherwise. -/
def typeOfProperty (members : CatalogueMembers) (request : Request) (answers : Answers) :
    CatalogueMembers × Except Failure ℤ :=
  if L.type (toldType L answers) = .null then
    match members.getBackendRegisterCatalogue with
    | (members, .error e) => (members, .error e)
    | (members, .ok catalogue) =>
      match getBackendRegister catalogue request.registerPathName with
      | none => (members, .error (.logicError "Register not found in catalogue.".toList))
      | some reg => (members, .ok reg.doocsTypeId)
  else (members, .ok (toldType L answers))

/-- The class for a field of a property of some type, and whether it makes use of the field. -/
def accessorClass (request : Request) (field : Text) (doocsTypeId : ℤ) :
    Except Failure (AccessorClass × Bool) :=
  if field = "eventId".toList then .ok (.eventId, true)
  else if field = "timeStamp".toList then .ok (.timeStamp, true)
  else match L.type doocsTypeId with
    | .bool | .aBool | .short | .aShort | .ushort | .aUshort | .int | .aInt | .uint | .aUint
    | .long | .aLong | .ulong | .aUlong | .float | .spectrum | .gspectrum | .aFloat
    | .double | .aDouble => .ok (.numeric, false)
    | .iiii => .ok (.iiii, false)
    | .ifff =>
      if !hasExtraLevel (serverAddress ++ request.registerPathName) then
        .error (.logicError ("DOOCS property of IFFF type '".toList ++ serverAddress ++
          request.registerPathName ++ "' cannot be accessed as a whole.".toList))
      else .ok (.ifff field, true)
    | .text | .string => .ok (.string request.userType, false)
    | .image => .ok (.image, false)
    | _ => .error (.logicError ("Unsupported DOOCS data type ".toList ++ L.typeString doocsTypeId ++
        " of property '".toList ++ serverAddress ++ request.registerPathName ++ "'".toList))

/-- What a constructor is given. It looks the register up itself. -/
def constructorArguments (path : Text) (request : Request) (answers : Answers) : Arguments where
  path := path
  numberOfWords := request.numberOfWords
  wordOffsetInRegister := request.wordOffsetInRegister
  flags := request.flags
  info := none
  isOpen := answers.isOpen
  rc := answers.rc
  dst := answers.dst
  attachError := answers.attachError
  maxSize := request.maxSize
  numberOfWords_lt := request.numberOfWords_lt
  wordOffset_lt := request.wordOffset_lt
  le_maxSize := request.le_maxSize

/-- `getRegisterAccessor_impl` -/
def getRegisterAccessor (members : CatalogueMembers) (request : Request) (answers : Answers)
    (r : Registry α) : Except Failure Made × Registry α :=
  let fullPath := serverAddress ++ request.registerPathName
  match splitPath fullPath with
  | .error e => (.error e, r)
  | .ok (path, field) =>
    match typeOfProperty L members request answers with
    | (_, .error e) => (.error e, r)
    | (members, .ok doocsTypeId) =>
      match accessorClass L serverAddress request field doocsTypeId with
      | .error e => (.error e, r)
      | .ok (cls, extraLevelUsed) =>
        match constructAccessor M L.type a asyncReadActivated members request.registerPathName cls
          (constructorArguments path request answers) r with
        | (.error e, w) => (.error e, w.registry)
        | (.ok (), w) =>
          if hasExtraLevel fullPath && !extraLevelUsed then
            -- the destructor of the accessor
            (.error (.logicError ("Specifiaction of field name is not supported for the DOOCS data type ".toList
              ++ L.typeString doocsTypeId ++ ": ".toList ++ fullPath)), (w.shutdown a path).registry)
          else
            (.ok ⟨cls, path, decide (cls = .image ∧ request.userType ≠ .uint8)⟩, w.registry)

end Definitions

/-! ## Requests which are refused -/

variable {α : Type} [DecidableEq α] {L : Libraries} {M : ImageLayout} {typeOf : ℤ → DoocsType} {a : α}
  {asyncReadActivated : Bool} {serverAddress : Text} {members : CatalogueMembers} {request : Request}
  {answers : Answers} {r : Registry α} {cls : AccessorClass} {args : Arguments} {w w' : Construction α}

theorem AccessorClass.arguments_path (cls : AccessorClass) (args : Arguments) :
    (cls.arguments args).path = args.path := by
  cases cls <;> rfl

theorem AccessorClass.arguments_attachError (cls : AccessorClass) (args : Arguments) :
    (cls.arguments args).attachError = args.attachError := by
  cases cls <;> rfl

/-- The constructor of the accessor class leaves an object which it accepts as it is. -/
theorem derived_ok {type : DoocsType} (h : derived a cls args type w = (.ok (), w')) : w' = w := by
  cases cls <;> simp only [derived, reject] at h <;> repeat' split at h
  all_goals cases h
  all_goals rfl

/-- An accessor which has been constructed can be shut down without a trace. -/
theorem run_begun (ha : r.Fresh a)
    (h : run M typeOf a asyncReadActivated cls args r = (.ok (), w)) : Begun a r args.path w := by
  unfold run at h
  rcases base_cases M typeOf asyncReadActivated (cls.arguments args) ha with
    ⟨e, w', hbase, -⟩ | ⟨type, w', hbase, -, hbegun⟩
  · rw [hbase] at h
    cases h
  · rw [hbase] at h
    rw [derived_ok h, ← AccessorClass.arguments_path cls args]
    exact hbegun

theorem run_allOrNothing (ha : r.Fresh a) (h : cls = .image → args.wordOffsetInRegister = 0) :
    AllOrNothing a r (run M typeOf a asyncReadActivated cls args r) := by
  unfold run
  rcases base_cases M typeOf asyncReadActivated (cls.arguments args) ha with
    ⟨e, w', hbase, -, hall⟩ | ⟨type, w', hbase, -, hbegun⟩
  · rw [hbase]
    exact hall
  · rw [hbase]
    apply (allOrNothing_derived_iff hbegun ha).mpr
    rintro ⟨rfl, -, hoffset⟩
    rw [AccessorClass.arguments_image, h rfl] at hoffset
    exact absurd hoffset (lt_irrefl 0)

/-- The constructor with the catalogue of the backend is one with some entry, or the catalogue cannot be
had. -/
theorem constructAccessor_cases (M : ImageLayout) (typeOf : ℤ → DoocsType) (a : α)
    (asyncReadActivated : Bool) (members : CatalogueMembers) (registerPathName : Text)
    (cls : AccessorClass) (args : Arguments) (r : Registry α) :
    (∃ info, (args.flags.raw = false → ∃ catalogue,
          members.getBackendRegisterCatalogue.2 = .ok catalogue ∧
            getBackendRegister catalogue registerPathName = info) ∧
        constructAccessor M typeOf a asyncReadActivated members registerPathName cls args r =
          run M typeOf a asyncReadActivated cls { args with info := info } r) ∨
      ∃ e, members.catalogueFuture = some (.error e) ∧
        constructAccessor M typeOf a asyncReadActivated members registerPathName cls args r =
          (.error e, shutdown a args.path { registry := r }) := by
  unfold constructAccessor
  split
  · rename_i hraw
    exact .inl ⟨args.info, fun h => by simp [h] at hraw, rfl⟩
  · split
    · rename_i e hget
      exact .inr ⟨e, getBackendRegisterCatalogue_error_iff.mp hget, rfl⟩
    · rename_i catalogue hget
      exact .inl ⟨_, fun _ => ⟨catalogue, hget, rfl⟩, rfl⟩

theorem constructAccessor_begun {registerPathName : Text} (ha : r.Fresh a)
    (h : constructAccessor M typeOf a asyncReadActivated members registerPathName cls args r =
      (.ok (), w)) : Begun a r args.path w := by
  obtain ⟨info, -, heq⟩ | ⟨e, -, heq⟩ := constructAccessor_cases M typeOf a asyncReadActivated members
    registerPathName cls args r
  · rw [heq] at h
    have hbegun := run_begun ha h
    exact hbegun
  · rw [heq] at h
    cases h

theorem constructAccessor_allOrNothing (registerPathName : Text) (ha : r.Fresh a)
    (h : cls = .image → args.wordOffsetInRegister = 0) : AllOrNothing a r
      (constructAccessor M typeOf a asyncReadActivated members registerPathName cls args r) := by
  obtain ⟨info, -, heq⟩ | ⟨e, -, heq⟩ := constructAccessor_cases M typeOf a asyncReadActivated members
    registerPathName cls args r
  · rw [heq]
    exact run_allOrNothing ha h
  · rw [heq]
    exact fun _ _ _ => ⟨rfl, Registry.SameFor.refl a r⟩

/-- The image class is only chosen for images. -/
theorem accessorClass_image {field : Text} {doocsTypeId : ℤ} {used : Bool}
    (h : accessorClass L serverAddress request field doocsTypeId = .ok (.image, used)) :
    L.type doocsTypeId = .image := by
  unfold accessorClass at h
  repeat' split at h
  all_goals first | assumption | cases h

/-- Whatever a request is refused for, be it before an accessor is made, in its constructor or because
of a field which it has no use for, the accessor leaves no subscription behind. Offsets into images are
excepted. -/
theorem refused_without_trace (L : Libraries) (M : ImageLayout) (asyncReadActivated : Bool)
    (serverAddress : Text) (members : CatalogueMembers) (request : Request) (answers : Answers)
    (ha : r.Fresh a)
    (hoffset : 0 < request.wordOffsetInRegister → ∀ doocsTypeId,
      (typeOfProperty L members request answers).2 = .ok doocsTypeId → L.type doocsTypeId ≠ .image)
    {e : Failure} {r' : Registry α}
    (h : getRegisterAccessor L M a asyncReadActivated serverAddress members request answers r =
      (.error e, r')) (he : e ≠ .assertion) : Registry.SameFor a r r' := by
  unfold getRegisterAccessor at h
  dsimp only at h
  split at h
  · cases h
    exact Registry.SameFor.refl a r
  · rename_i path field hsplit
    split at h
    · cases h
      exact Registry.SameFor.refl a r
    · rename_i members' doocsTypeId htype
      split at h
      · cases h
        exact Registry.SameFor.refl a r
      · rename_i cls used hcls
        have himage : cls = .image → request.wordOffsetInRegister = 0 := by
          rintro rfl
          by_contra hne
          exact hoffset (Nat.pos_of_ne_zero hne) doocsTypeId (congrArg Prod.snd htype)
            (accessorClass_image hcls)
        split at h
        · rename_i e' w hmade
          cases h
          have hall : AllOrNothing a r (constructAccessor M L.type a asyncReadActivated members'
              request.registerPathName cls (constructorArguments path request answers) r) :=
            constructAccessor_allOrNothing request.registerPathName ha himage
          rw [hmade] at hall
          exact (hall _ rfl he).2
        · rename_i w hmade
          split at h
          · cases h
            exact ((constructAccessor_begun ha hmade).shutdown ha).2
          · cases h

/-- The catalogue, say from the cache, has an IFFF property. -/
def staleCatalogue : DoocsBackendRegisterCatalogue where
  registers :=
    [{ name := "/P/I".toList
       length := 4
       dataDescriptor := DoocsBackendRegisterCatalogue.signedInteger 11
       accessModeFlags := { waitForNewData := true }
       doocsTypeId := plainLibraries.id .ifff }]

/-- The field of the property is asked for as soon as it is published. -/
def publishedField : Request where
  userType := .int32
  registerPathName := "/P/I".toList
  numberOfWords := 1
  wordOffsetInRegister := 0
  flags := { waitForNewData := true }
  numberOfWords_lt := Arguments.one_lt
  wordOffset_lt := Arguments.zero_lt

/-- The property is an array of the given type by now. -/
def nowArray (t : DoocsType) : Answers where
  isOpen := true
  typeRc := .ok
  doocsTypeId := plainLibraries.id .aInt
  rc := .ok
  dst := .blank 4 t
  attachError := none

/-- The accessor for the array has been subscribed when the field is found to be of no use. -/
theorem refused_field_without_trace : Registry.SameFor () noSubscriptions
    (getRegisterAccessor plainLibraries.toLibraries plainImageLayout () true "F/D/L".toList
      { catalogue := staleCatalogue } publishedField (nowArray .aInt) noSubscriptions).2 :=
  refused_without_trace plainLibraries.toLibraries plainImageLayout true "F/D/L".toList
    { catalogue := staleCatalogue } publishedField (nowArray .aInt) (by intro p e h; cases h)
    (fun h => absurd h (lt_irrefl 0))
    (e := .logicError
      "Specifiaction of field name is not supported for the DOOCS data type : F/D/L/P/I".toList)
    (Prod.ext (by decide) rfl) (by simp)

/-! ## What is thrown -/

theorem derived_error {type : DoocsType} {e : Failure} (h : (derived a cls args type w).1 = .error e) :
    (∃ what, e = .logicError what) ∨
      e = .assertion ∧ (cls = .numeric ∨ cls = .iiii) ∧ callForDoocsType type = none := by
  cases cls <;> simp only [derived, reject] at h <;> repeat' split at h
  all_goals cases h
  all_goals first | exact .inl ⟨_, rfl⟩ | exact .inr ⟨rfl, by simp, by assumption⟩

/-- The constructors throw logic errors, unless the buffer would be too large, they fail to subscribe or
find another type than they have been chosen for. -/
theorem run_error {e : Failure} (h : (run M typeOf a asyncReadActivated cls args r).1 = .error e) :
    (∃ what, e = .logicError what) ∨ ∃ info shape, Accepts M typeOf (cls.arguments args) info shape ∧
      (e = .lengthError ∧ args.maxSize < wordsOf (cls.arguments args) shape.1 ∨
        FailsToAttach r args ∧ e = .runtimeError ("Cannot subscribe to DOOCS property '".toList ++
          args.path ++ "' via ZeroMQ: ".toList ++ args.attachError.getD []) ∨
        e = .assertion ∧ (cls = .numeric ∨ cls = .iiii) ∧ callForDoocsType shape.2 = none) := by
  have hfst := base_fst M typeOf a asyncReadActivated (cls.arguments args) { registry := r }
  unfold run at h
  cases hbase : base M typeOf a asyncReadActivated (cls.arguments args) { registry := r } with
  | mk result w =>
    rw [hbase] at hfst h
    rcases tryBase_cases M typeOf a asyncReadActivated r (cls.arguments args) with
      ⟨⟨what, htry⟩, -⟩ | ⟨info, shape, haccepts, houtcome⟩
    · rw [htry] at hfst
      cases hfst
      cases h
      exact .inl ⟨what, rfl⟩
    · rw [← hfst] at houtcome
      cases houtcome with
      | tooLarge hsize =>
        rw [arguments_maxSize] at hsize
        cases h
        exact .inr ⟨info, shape, haccepts, .inl ⟨rfl, hsize⟩⟩
      | notSubscribed hsize hattach =>
        rw [AccessorClass.arguments_path, AccessorClass.arguments_attachError] at h
        cases h
        exact .inr ⟨info, shape, haccepts, .inr (.inl ⟨failsToAttach_arguments.mp hattach, rfl⟩)⟩
      | done hsize hattach =>
        rcases derived_error h with hlogic | hassertion
        · exact .inl hlogic
        · exact .inr ⟨info, shape, haccepts, .inr (.inr hassertion)⟩

theorem accessorClass_error {field : Text} {doocsTypeId : ℤ} {e : Failure}
    (h : accessorClass L serverAddress request field doocsTypeId = .error e) :
    ∃ what, e = .logicError what := by
  unfold accessorClass at h
  repeat' split at h
  all_goals cases h
  all_goals exact ⟨_, rfl⟩

/-- The classes for numbers are only chosen for numbers. -/
theorem accessorClass_numeric {field : Text} {doocsTypeId : ℤ} {used : Bool}
    (h : accessorClass L serverAddress request field doocsTypeId = .ok (cls, used))
    (hcls : cls = .numeric ∨ cls = .iiii) : callForDoocsType (L.type doocsTypeId) ≠ none := by
  unfold accessorClass at h
  repeat' split at h
  all_goals cases h
  all_goals simp_all [callForDoocsType]

theorem splitPath_error {path : Text} {e : Failure} (h : splitPath path = .error e) :
    ∃ what, e = .logicError what := by
  unfold splitPath at h
  dsimp only at h
  repeat' split at h
  all_goals cases h
  all_goals exact ⟨_, rfl⟩

theorem typeOfProperty_error {members' : CatalogueMembers} {e : Failure}
    (h : typeOfProperty L members request answers = (members', .error e)) :
    (∃ what, e = .logicError what) ∨ members.catalogueFuture = some (.error e) := by
  unfold typeOfProperty at h
  split at h
  · split at h
    · rename_i hget
      cases h
      exact .inr (getBackendRegisterCatalogue_error_iff.mp (congrArg Prod.snd hget))
    · split at h
      · cases h
        exact .inl ⟨_, rfl⟩
      · cases h
  · cases h

theorem getBackendRegisterCatalogue_again {catalogue : DoocsBackendRegisterCatalogue}
    (h : members.getBackendRegisterCatalogue.2 = .ok catalogue) :
    members.getBackendRegisterCatalogue.1.getBackendRegisterCatalogue.2 = .ok catalogue := by
  unfold CatalogueMembers.getBackendRegisterCatalogue at h ⊢
  cases hf : members.catalogueFuture with
  | none =>
    rw [hf] at h
    simpa [hf] using h
  | some result =>
    cases result with
    | ok c =>
      rw [hf] at h
      exact h
    | error e =>
      rw [hf] at h
      cases h

/-- The constructor is given the same catalogue, or the same exception, as whoever asks first. -/
theorem typeOfProperty_catalogue {members' : CatalogueMembers} {doocsTypeId : ℤ}
    (h : typeOfProperty L members request answers = (members', .ok doocsTypeId)) :
    members'.getBackendRegisterCatalogue.2 = members.getBackendRegisterCatalogue.2 := by
  unfold typeOfProperty at h
  split at h
  · split at h
    · cases h
    · rename_i members'' catalogue hget
      have hfirst : members.getBackendRegisterCatalogue.2 = .ok catalogue := by rw [hget]
      have hagain := getBackendRegisterCatalogue_again hfirst
      rw [hget] at hagain
      split at h
      · cases h
      · cases h
        exact hagain.trans hfirst.symm
  · cases h
    rfl

/-- A request which has led to the property at this path and to a register of the catalogue, for which
the constructor finds the given length and type. -/
structure Reaches (L : Libraries) (M : ImageLayout) (serverAddress : Text) (members : CatalogueMembers)
    (request : Request) (answers : Answers) (path : Text) (shape : ℕ × DoocsType) : Prop where
  address : ∃ field, splitPath (serverAddress ++ request.registerPathName) = .ok (path, field)
  entry : ∃ catalogue info, members.getBackendRegisterCatalogue.2 = .ok catalogue ∧
    getBackendRegister catalogue request.registerPathName = some info ∧
    actualShape M L.type (constructorArguments path request answers) info = .ok shape

/-- What the arguments of a request are accepted for does not depend on the class. -/
theorem Accepts.reaches {path field : Text} {info : DoocsBackendRegisterInfo}
    {shape : ℕ × DoocsType} {found : Option DoocsBackendRegisterInfo}
    {catalogue : DoocsBackendRegisterCatalogue}
    (h : Accepts M L.type (cls.arguments { constructorArguments path request answers with info := found })
      info shape)
    (hsplit : splitPath (serverAddress ++ request.registerPathName) = .ok (path, field))
    (hcatalogue : members.getBackendRegisterCatalogue.2 = .ok catalogue)
    (hfound : getBackendRegister catalogue request.registerPathName = found) :
    Reaches L M serverAddress members request answers path shape := by
  obtain ⟨hinfo, hshape⟩ : found = some info ∧
      actualShape M L.type (constructorArguments path request answers) info = .ok shape := by
    cases cls <;> exact ⟨h.found, h.reported⟩
  exact ⟨⟨field, hsplit⟩, catalogue, info, hcatalogue, hfound.trans hinfo, hshape⟩

/-- The virtual registers have one element, which every vector has room for. -/
theorem lt_wordsOf_of_arguments {n : ℕ} (h : args.maxSize < wordsOf (cls.arguments args) n) :
    args.maxSize < wordsOf args n := by
  have hone : ¬ args.maxSize < 1 := by
    have := args.le_maxSize
    omega
  cases cls with
  | eventId | timeStamp => exact absurd h hone
  | numeric | iiii | ifff | string | image => exact h

end DoocsBackend.Zmq.Construction
