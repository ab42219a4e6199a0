import DoocsBackend.Catalogue.LifeCycle
import DoocsBackend.Zmq.Factory

/-! # Access to the registers of a catalogue

A register of the catalogue is a property, a field of one or a virtual register. Its name leads back
to the property, whose type decides with which class of accessor it is read.
-/
namespace DoocsBackend.Zmq.Construction
open Accessor Catalogue

variable {α : Type} [DecidableEq α] {L : Libraries} {M : ImageLayout} {typeOf : ℤ → DoocsType} {a : α}
  {asyncReadActivated : Bool} {serverAddress : Text} {members : CatalogueMembers} {request : Request}
  {answers : Answers} {r : Registry α} {cls : AccessorClass} {args : Arguments}

/-! ## The parts of a property -/

theorem hasExtraLevel_property {address : ServerAddress} {components : List Text}
    (h : ∀ c ∈ components, IsComponent c) (hl : components.length + address.further.length = 3) :
    hasExtraLevel (address.text ++ joined components) = false := by
  rw [hasExtraLevel, ServerAddress.startsWith_doocs h, ServerAddress.startsWith_epics h,
    ServerAddress.count_text fun c hc => (h c hc).2, ServerAddress.extra]
  cases address.host <;> simp <;> omega

theorem hasExtraLevel_field {address : ServerAddress} {components : List Text} {field : Text}
    (h : ∀ c ∈ components, IsComponent c) (hl : components.length + address.further.length = 3)
    (hf : IsComponent field) :
    hasExtraLevel (address.text ++ (joined components ++ '/' :: field)) = true := by
  have hall : ∀ c ∈ components ++ [field], IsComponent c := by
    intro c hc
    rcases List.mem_append.mp hc with hc | hc
    · exact h c hc
    · rw [List.mem_singleton.mp hc]
      exact hf
  rw [← joined_concat, hasExtraLevel, ServerAddress.startsWith_doocs hall,
    ServerAddress.startsWith_epics hall, ServerAddress.count_text fun c hc => (hall c hc).2,
    ServerAddress.extra, List.length_append, List.length_singleton]
  cases address.host <;> simp <;> omega

theorem getBackendRegister_of_mem {catalogue : DoocsBackendRegisterCatalogue}
    {info : DoocsBackendRegisterInfo} (h : info ∈ catalogue.registers) :
    getBackendRegister catalogue info.name = some info := by
  have hfound : (getBackendRegister catalogue info.name).isSome := by
    rw [getBackendRegister, List.find?_isSome]
    exact ⟨info, h, beq_self_eq_true _⟩
  obtain ⟨other, hother⟩ := Option.isSome_iff_exists.mp hfound
  have hname : other.name = info.name := by simpa using List.find?_some hother
  rw [hother, List.inj_on_of_nodup_map catalogue.nodup (List.mem_of_find?_eq_some hother) h hname]

/-- The fields of an IFFF. -/
def ifffFields : List Text := ["I", "F1", "F2", "F3"].map String.toList

/-- The virtual registers next to every property. -/
def virtualFields : List Text := ["eventId", "timeStamp"].map String.toList

/-- A register is the property itself, a field of it or a virtual register, as its field says. -/
inductive Part (t : DoocsType) : Text → Prop
  | property (h : t ≠ .ifff) : Part t []
  | ifff {field : Text} (h : t = .ifff) (hfield : field ∈ ifffFields) : Part t field
  | virtual {field : Text} (hfield : field ∈ virtualFields) : Part t field

/-- The name of the register `field` next to a property, and of the property where there is none. -/
def partName (name field : Text) : Text := if field = [] then name else name ++ '/' :: field

theorem part_of_mem_propertyRegisters {name : Text} {length : ℕ} {doocsType : ℤ}
    {flags : AccessModeFlags} {info : DoocsBackendRegisterInfo}
    (h : info ∈ DoocsBackendRegisterCatalogue.propertyRegisters L name length doocsType flags) :
    ∃ field, Part (L.type doocsType) field ∧ info.name = L.path (partName name field) ∧
      info.doocsTypeId = doocsType ∧ 0 < info.length := by
  have hlength : 0 < (if length = 0 then 1 else length) := by
    split <;> omega
  unfold DoocsBackendRegisterCatalogue.propertyRegisters at h
  cases ht : L.type doocsType
  case ifff =>
    simp only [ht, List.mem_cons, List.not_mem_nil, or_false] at h
    rcases h with rfl | rfl | rfl | rfl
    · exact ⟨"I".toList, .ifff rfl (by decide), rfl, rfl, hlength⟩
    · exact ⟨"F1".toList, .ifff rfl (by decide), rfl, rfl, hlength⟩
    · exact ⟨"F2".toList, .ifff rfl (by decide), rfl, rfl, hlength⟩
    · exact ⟨"F3".toList, .ifff rfl (by decide), rfl, rfl, hlength⟩
  all_goals
    simp only [ht, List.mem_singleton] at h
    subst h
    exact ⟨[], .property (by simp), rfl, rfl, by first | exact hlength | exact Nat.succ_pos _⟩

theorem part_of_mem_offered {name : Text} {length : ℕ} {doocsType : ℤ} {flags : AccessModeFlags}
    {info : DoocsBackendRegisterInfo}
    (h : info ∈ DoocsBackendRegisterCatalogue.offered L name length doocsType flags) :
    ∃ field, Part (L.type doocsType) field ∧ info.name = L.path (partName name field) ∧
      0 < info.length ∧ (field ∉ virtualFields → info.doocsTypeId = doocsType) := by
  rcases List.mem_append.mp h with h | h
  · obtain ⟨field, hpart, hname, hid, hlength⟩ := part_of_mem_propertyRegisters h
    exact ⟨field, hpart, hname, hlength, fun _ => hid⟩
  · simp only [List.mem_cons, List.not_mem_nil, or_false] at h
    rcases h with rfl | rfl
    · exact ⟨"eventId".toList, .virtual (by decide), rfl, Nat.one_pos, fun hv => absurd (by decide) hv⟩
    · exact ⟨"timeStamp".toList, .virtual (by decide), rfl, Nat.one_pos, fun hv => absurd (by decide) hv⟩

/-- The register of a part is addressed by its name, and its field is found again. -/
theorem splitPath_part (hroot : L.path [] = ['/']) (address : ServerAddress) {components : List Text}
    (h : ∀ c ∈ components, IsComponent c) (hl : components.length + address.further.length = 3)
    (hne : components ≠ []) {t : DoocsType} {field : Text} (hpart : Part t field) :
    splitPath (address.text ++ L.path (partName (joined components) field)) =
        .ok (address.text ++ joined components, field) ∧
      hasExtraLevel (address.text ++ L.path (partName (joined components) field)) =
        !decide (field = []) := by
  have hfield (hmem : field ∈ fieldNames) :
      splitPath (address.text ++ L.path (partName (joined components) field)) =
          .ok (address.text ++ joined components, field) ∧
        hasExtraLevel (address.text ++ L.path (partName (joined components) field)) =
          !decide (field = []) := by
    have hf := isComponent_of_mem_fieldNames field hmem
    rw [partName, if_neg hf.1, path_joined_child hroot h hf]
    exact ⟨ServerAddress.splitPath_field h hl hf, by simp [hasExtraLevel_field h hl hf, hf.1]⟩
  cases hpart with
  | property =>
    rw [partName, if_pos rfl, path_joined hroot h hne]
    exact ⟨ServerAddress.splitPath_property h hl, hasExtraLevel_property h hl⟩
  | ifff _ hmem => exact hfield (List.mem_append_left virtualFields hmem)
  | «virtual» hmem => exact hfield (List.mem_append_right ifffFields hmem)

/-- What a part of a property is read with, if that is possible. -/
def classOf (userType : UserType) (t : DoocsType) (field : Text) : Option AccessorClass :=
  if field = "eventId".toList then some .eventId
  else if field = "timeStamp".toList then some .timeStamp
  else if t = .ifff then some (.ifff field)
  else if t = .iiii then some .iiii
  else if t = .image then some .image
  else if t = .text ∨ t = .string then if userType = .string then some (.string .string) else none
  else (callForDoocsType t).map fun _ => .numeric

/-- What the server says, if it says anything, is what the catalogue says of a property. -/
structure Unchanged (L : Libraries) (M : ImageLayout) (t : DoocsType) (answers : Answers) : Prop where
  type : answers.isOpen = true → answers.typeRc = .ok →
    L.type answers.doocsTypeId = t ∨ L.type answers.doocsTypeId = .null
  exist : answers.isOpen = true →
    answers.rc ≠ .illProperty ∧ answers.rc ≠ .illLocation ∧ answers.rc ≠ .illAddress
  reply : answers.isOpen = true → answers.rc = .ok → answers.dst.type = t ∧
    0 < (shapeOfReply M answers.dst).1 ∧ (shapeOfReply M answers.dst).1 < 2 ^ 32
  attach : answers.attachError = none

/-- The whole register is asked for, with no more than its own access modes. -/
structure Whole (request : Request) (info : DoocsBackendRegisterInfo) : Prop where
  name : request.registerPathName = info.name
  numberOfWords : request.numberOfWords = 0
  wordOffset : request.wordOffsetInRegister = 0
  raw : request.flags.raw = false
  mode : request.flags.waitForNewData = true → info.accessModeFlags.waitForNewData = true

theorem actualShape_unchanged {t : DoocsType} {info : DoocsBackendRegisterInfo} (path : Text)
    (request : Request) (hu : Unchanged L M t answers) (hlength : 0 < info.length)
    (hunsigned : info.length < 2 ^ 32) :
    ∃ shape, actualShape M L.type (constructorArguments path request answers) info = .ok shape ∧
      0 < shape.1 ∧ shape.1 < 2 ^ 32 ∧ (shape.2 = t ∨ shape.2 = L.type info.doocsTypeId) := by
  obtain ⟨shape, hshape, hpos, hlt, htype⟩ : ∃ shape,
      reportedShape M L.type (constructorArguments path request answers) info = .ok shape ∧
        0 < shape.1 ∧ shape.1 < 2 ^ 32 ∧ (shape.2 = t ∨ shape.2 = L.type info.doocsTypeId) := by
    unfold reportedShape
    split
    · rename_i hok
      obtain ⟨htype, hpos, hlt⟩ := hu.reply hok.1 hok.2
      exact ⟨_, rfl, hpos, hlt, .inl htype⟩
    · split
      · rename_i hill
        obtain ⟨hp, hloc, hadr⟩ := hu.exist hill.1
        rcases hill.2 with h | h | h
        · exact absurd h hp
        · exact absurd h hloc
        · exact absurd h hadr
      · exact ⟨_, rfl, hlength, hunsigned, .inr rfl⟩
  unfold actualShape
  rw [hshape]
  by_cases htext : shape.2 = .text ∨ shape.2 = .string
  · exact ⟨(1, shape.2), by simp [Except.map, htext], Nat.one_pos, by simp, htype⟩
  · exact ⟨shape, by simp [Except.map, htext], hpos, hlt, htype⟩

/-- The type is that of the property, or that of the register. -/
theorem typeOfProperty_unchanged {t : DoocsType} {catalogue : DoocsBackendRegisterCatalogue}
    {info : DoocsBackendRegisterInfo} (hu : Unchanged L M t answers)
    (hcatalogue : members.getBackendRegisterCatalogue.2 = .ok catalogue)
    (hfound : getBackendRegister catalogue request.registerPathName = some info) :
    ∃ members' doocsTypeId, typeOfProperty L members request answers = (members', .ok doocsTypeId) ∧
      members'.getBackendRegisterCatalogue.2 = .ok catalogue ∧
      (L.type doocsTypeId = t ∨ doocsTypeId = info.doocsTypeId) := by
  unfold typeOfProperty
  split
  · cases hget : members.getBackendRegisterCatalogue with
    | mk members' result =>
      have hagain := getBackendRegisterCatalogue_again hcatalogue
      rw [hget] at hcatalogue hagain
      cases hcatalogue
      simp only [hfound]
      exact ⟨members', _, rfl, hagain, .inr rfl⟩
  · rename_i hknown
    refine ⟨members, _, rfl, hcatalogue, .inl ?_⟩
    unfold toldType at hknown ⊢
    split
    · rename_i hasked
      rw [if_pos hasked] at hknown
      exact (hu.type hasked.1 hasked.2).resolve_right hknown
    · rename_i hasked
      rw [if_neg hasked] at hknown
      exact absurd (L.type_id .null (by simp)) hknown

/-- Once the base class has accepted its arguments, the accessor class decides. -/
theorem run_accepted (a : α) (asyncReadActivated : Bool) (r : Registry α)
    {info : DoocsBackendRegisterInfo} {shape : ℕ × DoocsType}
    (h : Accepts M typeOf (cls.arguments args) info shape)
    (hsize : wordsOf (cls.arguments args) shape.1 ≤ args.maxSize) (hattach : args.attachError = none) :
    ∃ w, run M typeOf a asyncReadActivated cls args r =
      derived a cls (cls.arguments args) shape.2 w := by
  have hnone : ¬ FailsToAttach r (cls.arguments args) := by
    rw [failsToAttach_arguments]
    exact fun hfails => hfails.2.2 hattach
  have hfst := base_fst M typeOf a asyncReadActivated (cls.arguments args) { registry := r }
  rcases tryBase_cases M typeOf a asyncReadActivated r (cls.arguments args) with
    ⟨-, hrejects⟩ | ⟨info', shape', haccepts, houtcome⟩
  · exact absurd h (hrejects info shape)
  · obtain rfl := haccepts.shape_eq h
    cases hbase : base M typeOf a asyncReadActivated (cls.arguments args) { registry := r } with
    | mk result w =>
      rw [hbase] at hfst
      rw [← hfst] at houtcome
      cases houtcome with
      | tooLarge htoo =>
        rw [arguments_maxSize] at htoo
        exact absurd htoo hsize.not_gt
      | notSubscribed _ hattaches => exact absurd hattaches hnone
      | done => exact ⟨w, by rw [run, hbase]⟩

/-- Arguments for a whole register are accepted, whatever the class. -/
theorem accepts_whole {t : DoocsType} {info : DoocsBackendRegisterInfo} (path : Text) (cls : AccessorClass)
    (hu : Unchanged L M t answers) (hw : Whole request info) (hlength : 0 < info.length)
    (hunsigned : info.length < 2 ^ 32) :
    let args : Arguments := { constructorArguments path request answers with info := some info }
    ∃ shape, Accepts M L.type (cls.arguments args) info shape ∧
      wordsOf (cls.arguments args) shape.1 ≤ args.maxSize ∧
      (shape.2 = t ∨ shape.2 = L.type info.doocsTypeId) := by
  intro args
  obtain ⟨shape, hshape, hpos, hlt, htype⟩ := actualShape_unchanged path request hu hlength hunsigned
  have hsize : wordsOf (cls.arguments args) shape.1 ≤ args.maxSize := by
    have hmax := args.le_maxSize
    cases cls with
    | eventId | timeStamp => exact (by decide : 1 ≤ 2 ^ 32).trans hmax
    | numeric | iiii | ifff | string | image =>
      exact (if_pos hw.numberOfWords).trans_le (hlt.le.trans hmax)
  refine ⟨shape, ?_, hsize, htype⟩
  have hone : ¬ (shape.1 < sizeAdd 1 0 ∧ shape.2 ≠ .image) := by
    rw [sizeAdd, Nat.add_zero, Nat.mod_eq_of_lt (by decide)]
    omega
  have hall : ¬ (shape.1 < sizeAdd shape.1 0 ∧ shape.2 ≠ .image) := by
    have := Nat.mod_le shape.1 (2 ^ 64)
    rw [sizeAdd, Nat.add_zero]
    omega
  cases cls with
  | eventId | timeStamp => exact ⟨hw.raw, rfl, hw.mode, hshape, hone⟩
  | numeric | iiii | ifff | string | image =>
    refine ⟨hw.raw, rfl, hw.mode, hshape, ?_⟩
    change ¬ (shape.1 < sizeAdd (if request.numberOfWords = 0 then shape.1 else request.numberOfWords)
      request.wordOffsetInRegister ∧ shape.2 ≠ .image)
    rw [hw.numberOfWords, hw.wordOffset, if_pos rfl]
    exact hall

theorem constructAccessor_whole {t : DoocsType} {info : DoocsBackendRegisterInfo}
    {catalogue : DoocsBackendRegisterCatalogue} (a : α) (asyncReadActivated : Bool) (r : Registry α)
    (path : Text) (cls : AccessorClass) (hu : Unchanged L M t answers)
    (hw : Whole request info) (hlength : 0 < info.length) (hunsigned : info.length < 2 ^ 32)
    (hcatalogue : members.getBackendRegisterCatalogue.2 = .ok catalogue)
    (hfound : getBackendRegister catalogue request.registerPathName = some info) :
    ∃ type w, (type = t ∨ type = L.type info.doocsTypeId) ∧
      constructAccessor M L.type a asyncReadActivated members request.registerPathName cls
          (constructorArguments path request answers) r =
        derived a cls (cls.arguments { constructorArguments path request answers with info := some info })
          type w := by
  obtain ⟨shape, haccepts, hsize, htype⟩ := accepts_whole path cls hu hw hlength hunsigned
  obtain ⟨w, hrun⟩ := run_accepted a asyncReadActivated r haccepts hsize hu.attach
  have hraw : (constructorArguments path request answers).flags.raw = false := hw.raw
  refine ⟨shape.2, w, htype, ?_⟩
  simp only [← hrun, constructAccessor, hraw, if_neg Bool.false_ne_true, hcatalogue, lookUp, hfound]

/-- Whatever has a class is constructed, if the field is of use. -/
theorem getRegisterAccessor_of_class {path field : Text} {members' : CatalogueMembers}
    {doocsTypeId : ℤ} {used : Bool}
    (hsplit : splitPath (serverAddress ++ request.registerPathName) = .ok (path, field))
    (htype : typeOfProperty L members request answers = (members', .ok doocsTypeId))
    (hcls : accessorClass L serverAddress request field doocsTypeId = .ok (cls, used))
    (hused : hasExtraLevel (serverAddress ++ request.registerPathName) = true → used = true) :
    (getRegisterAccessor L M a asyncReadActivated serverAddress members request answers r).1 =
      (constructAccessor M L.type a asyncReadActivated members' request.registerPathName cls
        (constructorArguments path request answers) r).1.map
        fun _ => ⟨cls, path, decide (cls = .image ∧ request.userType ≠ .uint8)⟩ := by
  simp only [getRegisterAccessor, hsplit, htype, hcls]
  have hfine : ¬ ((hasExtraLevel (serverAddress ++ request.registerPathName) && !used) = true) := by
    rw [Bool.and_eq_true, Bool.not_eq_true']
    rintro ⟨hlevel, hunused⟩
    rw [hused hlevel] at hunused
    cases hunused
  cases hmade : constructAccessor M L.type a asyncReadActivated members' request.registerPathName cls
    (constructorArguments path request answers) r with
  | mk result w =>
    cases result with
    | error e => rfl
    | ok u =>
      simp only [if_neg hfine]
      rfl

theorem accessorClass_of_classOf {t : DoocsType} {field : Text} {doocsTypeId : ℤ} (hpart : Part t field)
    (ht : field ∉ virtualFields → L.type doocsTypeId = t)
    (hlevel : hasExtraLevel (serverAddress ++ request.registerPathName) = !decide (field = []))
    (hcls : classOf request.userType t field = some cls) :
    ∃ used, accessorClass L serverAddress request field doocsTypeId = .ok (cls, used) ∧
      (hasExtraLevel (serverAddress ++ request.registerPathName) = true → used = true) := by
  cases hpart with
  | property hne =>
    have htype := ht (by decide)
    cases t <;> simp_all [classOf, accessorClass, callForDoocsType]
  | ifff hifff hfield =>
    subst hifff
    have hvirtual : ∀ f ∈ ifffFields, f ∉ virtualFields := by decide
    have htype := ht (hvirtual field hfield)
    simp only [ifffFields, List.map_cons, List.map_nil, List.mem_cons, List.not_mem_nil, or_false] at hfield
    rcases hfield with rfl | rfl | rfl | rfl <;> simp_all [classOf, accessorClass]
  | «virtual» hfield =>
    simp only [virtualFields, List.map_cons, List.map_nil, List.mem_cons, List.not_mem_nil, or_false] at hfield
    rcases hfield with rfl | rfl <;> simp_all [classOf, accessorClass]

/-- Where nothing can be read there is no class, or a class which rejects the user type. -/
theorem accessorClass_of_unsupported (serverAddress : Text) {t : DoocsType} {field : Text} {doocsTypeId : ℤ}
    (hpart : Part t field) (ht : field ∉ virtualFields → L.type doocsTypeId = t)
    (hcls : classOf request.userType t field = none) :
    (∃ what, accessorClass L serverAddress request field doocsTypeId = .error (.logicError what)) ∨
      request.userType ≠ .string ∧ field = [] ∧
        accessorClass L serverAddress request field doocsTypeId =
          .ok (.string request.userType, false) := by
  cases hpart with
  | property hne =>
    have htype := ht (by decide)
    cases t <;> simp_all [classOf, accessorClass, callForDoocsType]
  | ifff hifff hfield =>
    subst hifff
    unfold classOf at hcls
    repeat' split at hcls
    all_goals cases hcls
    all_goals contradiction
  | «virtual» hfield =>
    simp only [virtualFields, List.map_cons, List.map_nil, List.mem_cons, List.not_mem_nil, or_false] at hfield
    rcases hfield with rfl | rfl <;> simp [classOf] at hcls

theorem classOf_cases {userType : UserType} {t : DoocsType} {field : Text}
    (h : classOf userType t field = some cls) :
    (cls = .eventId ∨ cls = .timeStamp) ∨ field ∉ virtualFields ∧
      (t = .ifff ∧ cls = .ifff field ∨ t = .image ∧ cls = .image ∨
        (t = .text ∨ t = .string) ∧ cls = .string .string ∨
        callForDoocsType t ≠ none ∧ (cls = .iiii ∨ cls = .numeric)) := by
  unfold classOf at h
  split at h
  · exact .inl (.inl (Option.some.inj h).symm)
  · rename_i hevent
    split at h
    · exact .inl (.inr (Option.some.inj h).symm)
    · rename_i htime
      right
      have hfield : field ∉ virtualFields := by
        simp only [virtualFields, List.map_cons, List.map_nil, List.mem_cons, List.not_mem_nil, or_false]
        exact not_or.mpr ⟨hevent, htime⟩
      refine ⟨hfield, ?_⟩
      split at h
      · rename_i ht
        exact .inl ⟨ht, (Option.some.inj h).symm⟩
      · split at h
        · rename_i ht
          exact .inr (.inr (.inr ⟨by simp [ht, callForDoocsType], .inl (Option.some.inj h).symm⟩))
        · split at h
          · rename_i ht
            exact .inr (.inl ⟨ht, (Option.some.inj h).symm⟩)
          · split at h
            · rename_i ht
              split at h
              · exact .inr (.inr (.inl ⟨ht, (Option.some.inj h).symm⟩))
              · cases h
            · obtain ⟨c, hc, hnumeric⟩ := Option.map_eq_some_iff.mp h
              exact .inr (.inr (.inr ⟨by simp [hc], .inr hnumeric.symm⟩))

/-- The accessor class accepts the whole of what it is meant for. -/
theorem derived_of_classOf {userType : UserType} {t type : DoocsType} {field : Text} (hpart : Part t field)
    (htype : field ∉ virtualFields → type = t) (hcls : classOf userType t field = some cls)
    (hwords : args.numberOfWords = 0) (hoffset : args.wordOffsetInRegister = 0) (w : Construction α) :
    derived a cls (cls.arguments args) type w = (.ok (), w) := by
  rcases classOf_cases hcls with (rfl | rfl) | ⟨hfield, h⟩
  · rfl
  · rfl
  · obtain rfl := htype hfield
    rcases h with ⟨rfl, rfl⟩ | ⟨rfl, rfl⟩ | ⟨htext, rfl⟩ | ⟨hnumeric, rfl | rfl⟩
    · have hname : fieldOfName field ≠ none := by
        have hnames : ∀ f ∈ ifffFields, fieldOfName f ≠ none := by decide
        cases hpart with
        | property hne => exact absurd rfl hne
        | ifff _ hmem => exact hnames field hmem
        | «virtual» hmem => exact absurd hmem hfield
      simp [derived, AccessorClass.arguments, hwords, hoffset, hname]
    · simp [derived, AccessorClass.arguments, hoffset]
    · simp only [derived, ne_eq, not_true_eq_false, if_false]
      rw [if_neg]
      rintro ⟨hnotText, hnotString⟩
      exact htext.elim hnotText hnotString
    · exact if_neg hnumeric
    · exact if_neg hnumeric

/-- A whole part of a property gives the accessor it is read with, and a logic error where there is
none. -/
theorem getRegisterAccessor_whole {t : DoocsType} {field path : Text} {info : DoocsBackendRegisterInfo}
    {catalogue : DoocsBackendRegisterCatalogue} (hpart : Part t field) (hu : Unchanged L M t answers)
    (hw : Whole request info) (hlength : 0 < info.length) (hunsigned : info.length < 2 ^ 32)
    (hid : field ∉ virtualFields → L.type info.doocsTypeId = t)
    (hsplit : splitPath (serverAddress ++ request.registerPathName) = .ok (path, field))
    (hlevel : hasExtraLevel (serverAddress ++ request.registerPathName) = !decide (field = []))
    (hcatalogue : members.getBackendRegisterCatalogue.2 = .ok catalogue)
    (hfound : getBackendRegister catalogue request.registerPathName = some info) :
    (∀ cls, classOf request.userType t field = some cls →
      (getRegisterAccessor L M a asyncReadActivated serverAddress members request answers r).1 =
        .ok ⟨cls, path, decide (cls = .image ∧ request.userType ≠ .uint8)⟩) ∧
    (classOf request.userType t field = none → ∃ what,
      (getRegisterAccessor L M a asyncReadActivated serverAddress members request answers r).1 =
        .error (.logicError what)) := by
  obtain ⟨members', doocsTypeId, htype, hcatalogue', hknown⟩ :=
    typeOfProperty_unchanged hu hcatalogue hfound
  have htypeId : field ∉ virtualFields → L.type doocsTypeId = t := by
    intro hfield
    rcases hknown with h | rfl
    · exact h
    · exact hid hfield
  constructor
  · intro cls hcls
    obtain ⟨used, hclass, hused⟩ := accessorClass_of_classOf hpart htypeId hlevel hcls
    obtain ⟨type, w, hseen, hmade⟩ := constructAccessor_whole a asyncReadActivated r path cls hu hw
      hlength hunsigned hcatalogue' hfound
    have hreal : field ∉ virtualFields → type = t := by
      intro hfield
      rcases hseen with h | h
      · exact h
      · exact h.trans (hid hfield)
    rw [getRegisterAccessor_of_class hsplit htype hclass hused, hmade,
      derived_of_classOf hpart hreal hcls hw.numberOfWords hw.wordOffset]
    rfl
  · intro hcls
    rcases accessorClass_of_unsupported serverAddress hpart htypeId hcls with
      ⟨what, hclass⟩ | ⟨huser, rfl, hclass⟩
    · exact ⟨what, by simp only [getRegisterAccessor, hsplit, htype, hclass]⟩
    · obtain ⟨type, w, -, hmade⟩ := constructAccessor_whole a asyncReadActivated r path
        (.string request.userType) hu hw hlength hunsigned hcatalogue' hfound
      rw [getRegisterAccessor_of_class hsplit htype hclass (by simp [hlevel]), hmade]
      simp [derived, huser, reject, Except.map]

theorem mem_addAll {c : DoocsBackendRegisterCatalogue} {calls : List PropertyCall}
    {info : DoocsBackendRegisterInfo} (h : info ∈ (addAll L c calls).registers) :
    info ∈ c.registers ∨ ∃ p ∈ calls, info ∈ p.offered L := by
  induction calls generalizing c with
  | nil => exact .inl h
  | cons p calls ih =>
    rcases ih h with hc | ⟨q, hq, hinfo⟩
    · rw [DoocsBackendRegisterCatalogue.addProperty_registers] at hc
      rcases FirstWins.mem_or_offered_of_mem_insertAll hc with hc | hp
      · exact .inl hc
      · exact .inr ⟨p, List.mem_cons_self, hp⟩
    · exact .inr ⟨q, List.mem_cons_of_mem p hq, hinfo⟩

/-- The registers of a catalogue which has been filled come from one of the calls. -/
theorem offered_of_mem_fill {calls : List PropertyCall} {info : DoocsBackendRegisterInfo}
    (h : info ∈ (fill L calls).registers) : ∃ p ∈ calls, info ∈ p.offered L :=
  (mem_addAll (c := .empty) h).resolve_left List.not_mem_nil

/-- Whatever a complete catalogue lists can be accessed: it belongs to a property of the server, and
whoever asks for the whole of it, with the access modes it has, gets an accessor for this property of the
class its type and its field are read with. He is refused with a logic error where there is no such class.
It does not matter whether the backend is open and whether the server answers. -/
theorem listed_accessible {L : FileLibraries} (hroot : L.path [] = ['/']) (M : ImageLayout) (a : α)
    (asyncReadActivated : Bool) (address : ServerAddress) (server : Server)
    (haddress : server.address = address.text) (hlayout : server.layout = M)
    (hnames : server.tree.Named (CatalogueFetcher.levelsBelow server.address))
    {catalogue : DoocsBackendRegisterCatalogue} (hdescribes : Life.Describes L catalogue server)
    {members : CatalogueMembers} (hcatalogue : members.getBackendRegisterCatalogue.2 = .ok catalogue)
    {info : DoocsBackendRegisterInfo} (hinfo : info ∈ catalogue.registers)
    (hunsigned : info.length < 2 ^ 32) :
    ∃ p ∈ server.tree.properties (CatalogueFetcher.levelsBelow server.address) server.address,
      ∃ field, Part (L.type p.answer.type) field ∧ ∀ request answers r, Whole request info →
        Unchanged L.toLibraries M (L.type p.answer.type) answers →
        (∀ cls, classOf request.userType (L.type p.answer.type) field = some cls →
          (getRegisterAccessor L.toLibraries M a asyncReadActivated server.address members request
            answers r).1 = .ok ⟨cls, p.fqn, decide (cls = .image ∧ request.userType ≠ .uint8)⟩) ∧
        (classOf request.userType (L.type p.answer.type) field = none → ∃ what,
          (getRegisterAccessor L.toLibraries M a asyncReadActivated server.address members request
            answers r).1 = .error (.logicError what)) := by
  obtain ⟨layout, errorCodes, cancelFlag, serverAddress, tree⟩ := server
  dsimp only at haddress hlayout hnames
  subst haddress hlayout
  rw [hdescribes.registers] at hinfo
  obtain ⟨call, hcall, hoffered⟩ := offered_of_mem_fill hinfo
  obtain ⟨p, hp, rfl⟩ := List.mem_map.mp hcall
  have hmem := (List.mem_filter.mp hp).1
  obtain ⟨components, hl, hc, hfqn⟩ := fqn_of_mem_properties hnames hmem
  have hlevels := ServerAddress.levelsBelow_text (a := address)
  have hne : components ≠ [] := List.length_pos_iff.mp (by omega)
  have hname : (p.call L.toLibraries layout address.text).name = joined components := by
    change p.fqn.drop address.text.length = _
    rw [hfqn, List.drop_left]
  obtain ⟨field, hpart, hinfoName, hlength, hid⟩ := part_of_mem_offered hoffered
  rw [hname] at hinfoName
  refine ⟨p, hmem, field, hpart, fun request answers r hw hu => ?_⟩
  obtain ⟨hsplit, hlevel⟩ := splitPath_part (L := L.toLibraries) hroot address hc (by omega) hne hpart
  rw [← hinfoName, ← hw.name] at hsplit hlevel
  rw [hfqn]
  have hfound : getBackendRegister catalogue request.registerPathName = some info := by
    rw [hw.name]
    exact getBackendRegister_of_mem (hdescribes.registers ▸ hinfo)
  exact getRegisterAccessor_whole hpart hu hw hlength hunsigned
    (fun hfield => congrArg L.type (hid hfield)) hsplit hlevel hcatalogue hfound

/-- A device with one property, on some host. -/
def hostedServer : Server where
  layout := plainImageLayout
  errorCodes := ⟨fun e => e == 1, 2⟩
  cancelFlag := CatalogueFetcher.neverCancelled
  address := deviceAddress.text
  tree := CatalogueFetcher.chain "P comment".toList CatalogueFetcher.intAnswer _

/-- Its catalogue, fetched without being cancelled. -/
def hostedCatalogue : DoocsBackendRegisterCatalogue :=
  ((Life.uncancelled hostedServer).fetch plainFileLibraries).1

/-- The event ids of the property are asked for while the backend is closed. -/
def eventIds : Request where
  userType := .int64
  registerPathName := "/P/P/eventId".toList
  numberOfWords := 0
  wordOffsetInRegister := 0
  flags := {}
  numberOfWords_lt := Arguments.zero_lt
  wordOffset_lt := Arguments.zero_lt

theorem eventIds_accessible : ∃ cls path decorated,
    (getRegisterAccessor plainFileLibraries.toLibraries plainImageLayout () true hostedServer.address
      { catalogue := hostedCatalogue } eventIds
      { nowArray .aInt with isOpen := false } noSubscriptions).1 = .ok ⟨cls, path, decorated⟩ := by
  have hdescribes : Life.Describes plainFileLibraries hostedCatalogue hostedServer :=
    Life.describes_of_fetch (Prod.ext rfl (by decide))
  have hinfo : DoocsBackendRegisterCatalogue.virtualRegister plainFileLibraries.toLibraries "/P/P".toList
      "eventId".toList {} ∈ hostedCatalogue.registers := by decide
  have hmembers : ({ catalogue := hostedCatalogue } : CatalogueMembers).getBackendRegisterCatalogue.2 =
      .ok hostedCatalogue := rfl
  obtain ⟨p, hp, field, hpart, h⟩ := listed_accessible rfl plainImageLayout () true deviceAddress
    hostedServer rfl rfl (named_chain isComponent_entry _ _) hdescribes hmembers hinfo (by decide)
  have hint : ∀ q ∈ hostedServer.tree.properties (CatalogueFetcher.levelsBelow hostedServer.address)
      hostedServer.address, plainFileLibraries.type q.answer.type = .int := by decide
  obtain ⟨haccessible, -⟩ := h eventIds { nowArray .aInt with isOpen := false } noSubscriptions
    ⟨rfl, rfl, rfl, rfl, by simp [eventIds]⟩ ⟨by simp, by simp, by simp, rfl⟩
  rw [hint p hp] at haccessible hpart
  cases hpart with
  | property hne => exact ⟨_, _, _, haccessible .numeric rfl⟩
  | ifff hifff => cases hifff
  | «virtual» hfield =>
    have hcls : ∀ f ∈ virtualFields, classOf .int64 .int f ≠ none := by decide
    obtain ⟨cls, hsome⟩ := Option.ne_none_iff_exists'.mp (hcls field hfield)
    exact ⟨cls, _, _, haccessible cls hsome⟩

end DoocsBackend.Zmq.Construction
