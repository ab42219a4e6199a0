import DoocsBackend.Accessor.Construct
import DoocsBackend.Catalogue.RegisterPath
import DoocsBackend.Zmq.Registry

/-! # Constructors which throw

The constructor of the base class subscribes, the constructor of the accessor class may still reject
the arguments afterwards. Whoever throws has to call `shutdown` first.
-/
namespace DoocsBackend.Zmq
open Accessor

/-- The accessor classes, with the arguments of their constructors the base class does not get. -/
inductive AccessorClass where
  | numeric
  | iiii
  | ifff (fieldName : Text)
  | string (userType : UserType)
  | image
  | eventId
  | timeStamp
  deriving DecidableEq, Repr

/-- The virtual registers are constructed with one word at offset 0 whatever was asked for. -/
def AccessorClass.arguments (cls : AccessorClass) (args : Arguments) : Arguments :=
  match cls with
  | .eventId | .timeStamp =>
    { args with
      numberOfWords := 1, wordOffsetInRegister := 0
      numberOfWords_lt := Arguments.one_lt, wordOffset_lt := Arguments.zero_lt }
  | _ => args

theorem AccessorClass.arguments_image (args : Arguments) :
    AccessorClass.image.arguments args = args := rfl

/-- The field an IFFF accessor is made for. -/
def fieldOfName (name : Text) : Option Field :=
  if name = "I".toList then some .i
  else if name = "F1".toList then some .f1
  else if name = "F2".toList then some .f2
  else if name = "F3".toList then some .f3
  else none

def nameOfField : Field → Text
  | .i => "I".toList
  | .f1 => "F1".toList
  | .f2 => "F2".toList
  | .f3 => "F3".toList

theorem fieldOfName_nameOfField (field : Field) : fieldOfName (nameOfField field) = some field := by
  cases field <;> rfl

/-- The class an accessor object is of. -/
def AccessorClass.ofKind {U : UserType} : Kind U → AccessorClass
  | .numeric => .numeric
  | .iiii => .iiii
  | .ifff field => .ifff (nameOfField field)
  | .string => .string .string
  | .image => .image
  | .eventId => .eventId
  | .timeStamp => .timeStamp

theorem AccessorClass.arguments_ofKind {U : UserType} (kind : Kind U) (args : Arguments) :
    (AccessorClass.ofKind kind).arguments args = kindArguments kind args := by
  cases kind <;> rfl

/-- The subscription manager and the members of the object under construction which decide what
`shutdown` does and whether the destructor of the base class accepts the object. -/
structure Construction (α : Type) where
  registry : Registry α
  useZMQ : Bool := false
  shutdownCalled : Bool := false

namespace Construction
variable {α : Type} [DecidableEq α] (M : ImageLayout) (typeOf : ℤ → DoocsType) (a : α)
  (asyncReadActivated : Bool)

/-- `DoocsBackendRegisterAccessor::shutdown`. -/
def shutdown (p : Text) (w : Construction α) : Construction α :=
  { w with
    registry := if w.useZMQ then w.registry.unsubscribe p a else w.registry
    shutdownCalled := true }

/-- Call `shutdown`, then throw. -/
def reject {β : Type} (p : Text) (what : Text) (w : Construction α) :
    Except Failure β × Construction α := (.error (.logicError what), w.shutdown a p)

/-- `initialise`, with the type it has found. -/
def initialise (args : Arguments) (info : Catalogue.DoocsBackendRegisterInfo)
    (w : Construction α) : Except Failure DoocsType × Construction α :=
  match actualShape M typeOf args info with
  | .error e => (.error e, w)
  | .ok shape =>
    if shape.1 < sizeAdd (wordsOf args shape.1) args.wordOffsetInRegister ∧ shape.2 ≠ .image then
      (.error (.logicError
        "Requested number of words exceeds the length of the DOOCS property!".toList), w)
    else if args.maxSize < wordsOf args shape.1 then (.error .lengthError, w)
    else if w.useZMQ then
      let result := w.registry.subscribe args.path a asyncReadActivated args.attachError.isSome
      (if result.2 then .error (.runtimeError ("Cannot subscribe to DOOCS property '".toList ++
          args.path ++ "' via ZeroMQ: ".toList ++ args.attachError.getD [])) else .ok shape.2,
        { w with registry := result.1 })
    else (.ok shape.2, w)

/-- The body of the base class constructor. -/
def tryBase (args : Arguments) (w : Construction α) : Except Failure DoocsType × Construction α :=
  if args.flags.raw then
    (.error (.logicError "Access mode flag 'raw' is not known here.".toList), w)
  else match args.info with
    | none => (.error (.logicError "Register not found in catalogue.".toList), w)
    | some info =>
      if args.flags.waitForNewData ∧ ¬ info.accessModeFlags.waitForNewData then
        (.error (.logicError "invalid access mode for this register".toList), w)
      else
        initialise M typeOf a asyncReadActivated args info
          { w with useZMQ := args.flags.waitForNewData }

/-- The constructor of `DoocsBackendRegisterAccessor`, which shuts down whenever it throws. -/
def base (args : Arguments) (w : Construction α) : Except Failure DoocsType × Construction α :=
  match tryBase M typeOf a asyncReadActivated args w with
  | (.error e, w) => (.error e, w.shutdown a args.path)
  | (.ok type, w) => (.ok type, w)

/-- What the constructor of the accessor class does after that of the base class. -/
def derived (cls : AccessorClass) (args : Arguments) (type : DoocsType) (w : Construction α) :
    Except Failure Unit × Construction α :=
  match cls with
  | .numeric | .iiii =>
    -- the program ends
    if callForDoocsType type = none then (.error .assertion, w) else (.ok (), w)
  | .ifff fieldName =>
    if 1 < args.numberOfWords ∨ args.wordOffsetInRegister ≠ 0 then
      w.reject a args.path ("Register '".toList ++ args.path ++ "' is scalar.".toList)
    else if fieldOfName fieldName = none then
      w.reject a args.path
        ("Unknown field name '".toList ++ fieldName ++ "' for DOOCS IFFF data type.".toList)
    else if type ≠ .ifff then w.reject a args.path "DOOCS data type not supported.".toList
    else (.ok (), w)
  | .string userType =>
    if userType ≠ .string then
      w.reject a args.path
        "Trying to access a string DOOCS property with a non-string user data type.".toList
    else if type ≠ .text ∧ type ≠ .string then
      w.reject a args.path "DOOCS data type not supported.".toList
    else (.ok (), w)
  | .image =>
    if type ≠ .image then w.reject a args.path "DOOCS data type not supported.".toList
    else if 0 < args.wordOffsetInRegister then
      -- without a call of shutdown
      (.error (.logicError
        "DoocsBackendImageRegisterAccessor does not support nonzero offset".toList), w)
    else (.ok (), w)
  | .eventId | .timeStamp => (.ok (), w)

/-- The whole constructor, for an object which is not known to anyone yet. -/
def run (cls : AccessorClass) (args : Arguments) (r : Registry α) :
    Except Failure Unit × Construction α :=
  match base M typeOf a asyncReadActivated (cls.arguments args) { registry := r } with
  | (.error e, w) => (.error e, w)
  | (.ok type, w) => derived a cls (cls.arguments args) type w

/-- If an exception leaves the constructor, `shutdown` has been called and the subscription manager
is as it was. -/
def AllOrNothing (r : Registry α) (result : Except Failure Unit × Construction α) : Prop :=
  ∀ e, result.1 = .error e → e ≠ .assertion →
    result.2.shutdownCalled = true ∧ Registry.SameFor a r result.2.registry

/-- A part of an image with an offset is asked for, and nothing else is wrong with the arguments. -/
structure OnlyOffsetIsWrong (r : Registry α) (cls : AccessorClass) (args : Arguments) : Prop where
  image : cls = .image
  wordOffset : 0 < args.wordOffsetInRegister
  raw : args.flags.raw = false
  info : ∃ info, args.info = some info ∧
    (args.flags.waitForNewData = true → info.accessModeFlags.waitForNewData = true) ∧
    ∃ n, actualShape M typeOf args info = .ok (n, .image) ∧ wordsOf args n ≤ args.maxSize
  attach : args.flags.waitForNewData = true → r.subscription args.path = none →
    args.attachError = none

variable {M typeOf a asyncReadActivated} {r : Registry α} {cls : AccessorClass} {args : Arguments}
  {w : Construction α}

/-- What is known of the object while the base class constructor works on it: it is subscribed at
most once, and to its own path. -/
structure Begun (a : α) (r : Registry α) (p : Text) (w : Construction α) : Prop where
  shutdownCalled : w.shutdownCalled = false
  registry : w.registry = r ∨ w.useZMQ = true ∧ ∃ asyncReadActivated attachFails,
    w.registry = (r.subscribe p a asyncReadActivated attachFails).1

/-- Shutting down restores the subscription manager at any time during the construction. -/
theorem Begun.shutdown {p : Text} (h : Begun a r p w) (ha : r.Fresh a) :
    (w.shutdown a p).shutdownCalled = true ∧ Registry.SameFor a r (w.shutdown a p).registry := by
  refine ⟨rfl, ?_⟩
  unfold Construction.shutdown
  rcases h.registry with hr | ⟨hz, asyncReadActivated, attachFails, hr⟩
  · rw [hr]
    split
    · rw [Registry.unsubscribe_of_notMem (ha p)]
      exact Registry.SameFor.refl a r
    · exact Registry.SameFor.refl a r
  · rw [hr, if_pos hz]
    exact Registry.sameFor_unsubscribe_subscribe ha p _ _

theorem begun_initialise {info : Catalogue.DoocsBackendRegisterInfo} (hw : w.registry = r)
    (hs : w.shutdownCalled = false) :
    Begun a r args.path (initialise M typeOf a asyncReadActivated args info w).2 := by
  unfold initialise
  split
  · exact ⟨hs, .inl hw⟩
  · split
    · exact ⟨hs, .inl hw⟩
    · split
      · exact ⟨hs, .inl hw⟩
      · split
        · rename_i hz
          exact ⟨hs, .inr ⟨hz, _, _, by rw [hw]⟩⟩
        · exact ⟨hs, .inl hw⟩

theorem begun_tryBase : Begun a r args.path
    (tryBase M typeOf a asyncReadActivated args { registry := r }).2 := by
  unfold tryBase
  split
  · exact ⟨rfl, .inl rfl⟩
  · split
    · exact ⟨rfl, .inl rfl⟩
    · split
      · exact ⟨rfl, .inl rfl⟩
      · exact begun_initialise rfl rfl

/-- After the base class constructor, nothing has changed or the object can be shut down. -/
theorem base_cases (M : ImageLayout) (typeOf : ℤ → DoocsType) (asyncReadActivated : Bool)
    (args : Arguments) (ha : r.Fresh a) :
    (∃ e w, base M typeOf a asyncReadActivated args { registry := r } = (.error e, w) ∧
        (tryBase M typeOf a asyncReadActivated args { registry := r }).1 = .error e ∧
        AllOrNothing a r (.error e, w)) ∨
      ∃ type w, base M typeOf a asyncReadActivated args { registry := r } = (.ok type, w) ∧
        (tryBase M typeOf a asyncReadActivated args { registry := r }).1 = .ok type ∧
        Begun a r args.path w := by
  have hbegun : Begun a r args.path
    (tryBase M typeOf a asyncReadActivated args { registry := r }).2 := begun_tryBase
  unfold base
  cases ht : tryBase M typeOf a asyncReadActivated args { registry := r } with
  | mk result w =>
    rw [ht] at hbegun
    cases result with
    | error e => exact .inl ⟨e, _, rfl, rfl, fun _ _ _ => hbegun.shutdown ha⟩
    | ok type => exact .inr ⟨type, w, rfl, rfl, hbegun⟩

theorem allOrNothing_reject (h : Begun a r args.path w) (ha : r.Fresh a) (what : Text) :
    AllOrNothing a r (w.reject a args.path what) := fun _ _ _ => h.shutdown ha

/-- The accessor class which forgets to shut down. -/
theorem allOrNothing_derived_iff {type : DoocsType} (h : Begun a r args.path w) (ha : r.Fresh a) :
    AllOrNothing a r (derived a cls args type w) ↔
      ¬ (cls = .image ∧ type = .image ∧ 0 < args.wordOffsetInRegister) := by
  have hok : AllOrNothing a r (.ok (), w) := fun e he => by cases he
  cases cls with
  | numeric | iiii =>
    refine iff_of_true ?_ (by simp)
    simp only [derived]
    split
    · intro e he hne
      cases he
      exact absurd rfl hne
    · exact hok
  | ifff fieldName =>
    refine iff_of_true ?_ (by simp)
    simp only [derived]
    repeat' split
    · exact allOrNothing_reject h ha _
    · exact allOrNothing_reject h ha _
    · exact allOrNothing_reject h ha _
    · exact hok
  | string userType =>
    refine iff_of_true ?_ (by simp)
    simp only [derived]
    repeat' split
    · exact allOrNothing_reject h ha _
    · exact allOrNothing_reject h ha _
    · exact hok
  | image =>
    simp only [derived]
    by_cases ht : type = .image
    · rw [if_neg (not_not.mpr ht)]
      by_cases ho : 0 < args.wordOffsetInRegister
      · rw [if_pos ho]
        refine iff_of_false (fun hall => ?_) (by simp [ht, ho])
        have hs := (hall _ rfl (by simp)).1
        rw [h.shutdownCalled] at hs
        cases hs
      · rw [if_neg ho]
        exact iff_of_true hok (by simp [ho])
    · rw [if_pos ht]
      exact iff_of_true (allOrNothing_reject h ha _) (by simp [ht])
  | eventId | timeStamp => exact iff_of_true hok (by simp)

/-- When `initialise` accepts the arguments for an image. -/
theorem initialise_eq_image_iff {info : Catalogue.DoocsBackendRegisterInfo} :
    (initialise M typeOf a asyncReadActivated args info w).1 = .ok .image ↔
      (∃ n, actualShape M typeOf args info = .ok (n, .image) ∧ wordsOf args n ≤ args.maxSize) ∧
        (w.useZMQ = true → w.registry.subscription args.path = none → args.attachError = none) := by
  unfold initialise
  cases hs : actualShape M typeOf args info with
  | error e => simp
  | ok shape =>
    obtain ⟨n, type⟩ := shape
    by_cases ht : type = .image
    · subst ht
      simp only [ne_eq, not_true_eq_false, and_false, if_false]
      by_cases hsize : args.maxSize < wordsOf args n
      · rw [if_pos hsize]
        apply iff_of_false (by simp)
        rintro ⟨⟨m, heq, hm⟩, -⟩
        cases heq
        exact hm.not_gt hsize
      · rw [if_neg hsize]
        cases hz : w.useZMQ with
        | false => simpa using hsize
        | true =>
          rw [if_pos rfl]
          by_cases hthrows : (w.registry.subscribe args.path a asyncReadActivated
              args.attachError.isSome).2 = true
          · obtain ⟨hnone, hattach⟩ := Registry.subscribe_throws_iff.mp hthrows
            simp only
            rw [if_pos hthrows]
            apply iff_of_false (by simp)
            intro h
            rw [h.2 trivial hnone] at hattach
            cases hattach
          · simp only
            rw [if_neg hthrows]
            refine iff_of_true rfl ⟨⟨n, rfl, not_lt.mp hsize⟩, fun _ hnone => ?_⟩
            by_contra hattach
            exact hthrows (Registry.subscribe_throws_iff.mpr
              ⟨hnone, Option.isSome_iff_ne_none.mpr hattach⟩)
    · have hne : ∀ m, Except.ok (ε := Failure) (n, type) ≠ .ok (m, .image) := by
        intro m h
        cases h
        exact ht rfl
      simp only [hne, exists_false, false_and, iff_false]
      repeat' split
      all_goals simp [ht]

/-- When the base class constructor accepts the arguments for an image. -/
theorem tryBase_eq_image_iff :
    (tryBase M typeOf a asyncReadActivated args { registry := r }).1 = .ok .image ↔
      args.flags.raw = false ∧ (∃ info, args.info = some info ∧
        (args.flags.waitForNewData = true → info.accessModeFlags.waitForNewData = true) ∧
        ∃ n, actualShape M typeOf args info = .ok (n, .image) ∧ wordsOf args n ≤ args.maxSize) ∧
      (args.flags.waitForNewData = true → r.subscription args.path = none →
        args.attachError = none) := by
  unfold tryBase
  cases hraw : args.flags.raw with
  | true => simp
  | false =>
    cases hinfo : args.info with
    | none => simp
    | some info =>
      simp only [Bool.false_eq_true, if_false, Option.some.injEq, exists_eq_left', true_and]
      by_cases hmode : args.flags.waitForNewData = true ∧ ¬ info.accessModeFlags.waitForNewData = true
      · rw [if_pos hmode]
        simp [hmode.1, hmode.2]
      · rw [if_neg hmode, initialise_eq_image_iff]
        have hmode' : args.flags.waitForNewData = true →
            info.accessModeFlags.waitForNewData = true := by
          intro hw
          by_contra hn
          exact hmode ⟨hw, hn⟩
        exact ⟨fun h => ⟨⟨hmode', h.1⟩, h.2⟩, fun h => ⟨h.1.2, h.2⟩⟩

/-- A constructor which throws leaves nothing behind, exactly unless only the offset into an image is
wrong. -/
theorem all_or_nothing_iff (M : ImageLayout) (typeOf : ℤ → DoocsType) (asyncReadActivated : Bool)
    (cls : AccessorClass) (args : Arguments) (r : Registry α) (ha : r.Fresh a) :
    AllOrNothing a r (run M typeOf a asyncReadActivated cls args r) ↔
      ¬ OnlyOffsetIsWrong M typeOf r cls args := by
  have honly : OnlyOffsetIsWrong M typeOf r cls args ↔
      cls = .image ∧ 0 < args.wordOffsetInRegister ∧
        (tryBase M typeOf a asyncReadActivated args { registry := r }).1 = .ok .image := by
    rw [tryBase_eq_image_iff]
    exact ⟨fun h => ⟨h.image, h.wordOffset, h.raw, h.info, h.attach⟩,
      fun h => ⟨h.1, h.2.1, h.2.2.1, h.2.2.2.1, h.2.2.2.2⟩⟩
  rw [honly, run]
  rcases base_cases M typeOf asyncReadActivated (cls.arguments args) ha with
    ⟨e, w, hbase, htry, hall⟩ | ⟨type, w, hbase, htry, hbegun⟩
  · rw [hbase]
    apply iff_of_true hall
    rintro ⟨rfl, -, himage⟩
    rw [AccessorClass.arguments_image] at htry
    rw [htry] at himage
    cases himage
  · rw [hbase]
    refine (allOrNothing_derived_iff hbegun ha).trans (not_congr ?_)
    by_cases hcls : cls = .image
    · subst hcls
      rw [AccessorClass.arguments_image] at htry ⊢
      rw [htry, Except.ok.injEq]
      tauto
    · exact iff_of_false (fun h => hcls h.1) fun h => hcls h.1

/-! ## The same constructors without the subscription manager -/

section Outcome
variable {U : UserType}

/-- `dmsg_attach` is only called where there is no subscription yet. -/
def AttachesNew (r : Registry α) (args : Arguments) : Prop :=
  args.flags.waitForNewData = true → r.subscription args.path ≠ none → args.attachError = none

theorem initialise_outcome (kind : Kind U) {info : Catalogue.DoocsBackendRegisterInfo}
    (hz : w.useZMQ = args.flags.waitForNewData) (h : AttachesNew w.registry args) :
    (initialise M typeOf a asyncReadActivated args info w).1 =
      (Accessor.initialise M typeOf kind args info w.useZMQ).map (·.src.type) := by
  unfold initialise Accessor.initialise
  cases hs : actualShape M typeOf args info with
  | error e => rfl
  | ok shape =>
    have htype (useZMQ : Bool) : (initialised M kind args useZMQ shape).src.type = shape.2 :=
      Payload.type_blank _ _
    simp only [ok_bind]
    by_cases hrange : shape.1 < sizeAdd (wordsOf args shape.1) args.wordOffsetInRegister ∧
        shape.2 ≠ .image
    · rw [if_pos hrange, if_pos hrange]
      rfl
    · rw [if_neg hrange, if_neg hrange]
      by_cases hsize : args.maxSize < wordsOf args shape.1
      · rw [if_pos hsize, if_pos hsize]
        rfl
      · rw [if_neg hsize, if_neg hsize]
        cases hw : w.useZMQ with
        | false => exact congrArg Except.ok (htype false).symm
        | true =>
          cases hattach : args.attachError with
          | none =>
            rw [if_pos rfl, if_neg]
            · exact congrArg Except.ok (htype true).symm
            · intro hthrows
              have := (Registry.subscribe_throws_iff.mp hthrows).2
              cases this
          | some text =>
            have hnone : w.registry.subscription args.path = none := by
              by_contra hne
              have := h (hz ▸ hw) hne
              rw [hattach] at this
              cases this
            have hthrows : (w.registry.subscribe args.path a asyncReadActivated
                (some text).isSome).2 = true := Registry.subscribe_throws_iff.mpr ⟨hnone, rfl⟩
            rw [if_pos rfl, if_pos hthrows]
            rfl

theorem tryBase_outcome (kind : Kind U) (h : AttachesNew r args) :
    (tryBase M typeOf a asyncReadActivated args { registry := r }).1 =
      (constructBase M typeOf kind args).map (·.src.type) := by
  unfold tryBase constructBase
  by_cases hraw : args.flags.raw = true
  · rw [if_pos hraw, if_pos hraw]
    rfl
  · rw [if_neg hraw, if_neg hraw]
    cases args.info with
    | none => rfl
    | some info =>
      by_cases hmode : args.flags.waitForNewData = true ∧
          ¬ info.accessModeFlags.waitForNewData = true
      · simp only [if_pos hmode]
        rfl
      · simp only [if_neg hmode]
        exact initialise_outcome kind rfl h

theorem derived_outcome (b : RegisterAccessor U) (hp : b.path = args.path) :
    (derived a (.ofKind b.kind) args b.src.type w).1 = (checkKind args b).map fun _ => () := by
  obtain ⟨kind, path, nElements, elementOffset, isArray, isPartial, useZMQ, bufferLength, src⟩ := b
  simp only at hp
  subst hp
  cases kind with
  | ifff field =>
    simp only [derived, AccessorClass.ofKind, checkKind, fieldOfName_nameOfField, reduceCtorEq,
      if_false]
    repeat' split
    all_goals rfl
  | numeric | iiii =>
    simp only [derived, AccessorClass.ofKind, checkKind]
    split <;> rfl
  | string =>
    simp only [derived, AccessorClass.ofKind, checkKind, ne_eq, not_true, if_false]
    split <;> rfl
  | image =>
    simp only [derived, AccessorClass.ofKind, checkKind]
    split
    · rfl
    · split <;> rfl
  | eventId | timeStamp => rfl

theorem kind_path_of_constructBase {kind : Kind U} {b : RegisterAccessor U}
    (h : constructBase M typeOf kind args = .ok b) : b.kind = kind ∧ b.path = args.path := by
  unfold constructBase at h
  split at h
  · cases h
  · split at h
    · cases h
    · split at h
      · cases h
      · obtain ⟨shape, -, -, -, rfl⟩ := initialise_ok h
        exact ⟨rfl, rfl⟩

/-- Whether and how a constructor throws does not depend on what it does to the subscription
manager. -/
theorem run_outcome (kind : Kind U) (h : AttachesNew r args) :
    (run M typeOf a asyncReadActivated (.ofKind kind) args r).1 =
      (construct M typeOf kind args).map fun _ => () := by
  have h' : AttachesNew r (kindArguments kind args) := by
    cases kind <;> exact h
  have htry : (tryBase M typeOf a asyncReadActivated (kindArguments kind args)
    { registry := r }).1 = _ := tryBase_outcome kind h'
  rw [run, construct, AccessorClass.arguments_ofKind, base]
  cases ht : tryBase M typeOf a asyncReadActivated (kindArguments kind args) { registry := r } with
  | mk result w =>
    rw [ht] at htry
    simp only at htry
    subst htry
    cases hc : constructBase M typeOf kind (kindArguments kind args) with
    | error e => rfl
    | ok b =>
      obtain ⟨hkind, hpath⟩ := kind_path_of_constructBase hc
      rw [ok_bind, ← hkind]
      exact derived_outcome b (by rw [hpath, hkind])

end Outcome

/-- A manager without subscriptions. -/
def noSubscriptions : Registry Unit where
  subscription _ := none
  isActiveZMQ _ := false
  nonempty _ _ h := absurd h (Option.some_ne_none _).symm

/-- The second word of a published property is asked for while the backend is open. -/
def secondWord (dst : Payload) : Arguments where
  path := "F/D/L/P".toList
  numberOfWords := 1
  wordOffsetInRegister := 1
  flags := { waitForNewData := true }
  info := some
    { name := "/P".toList
      length := 1
      dataDescriptor := Catalogue.DoocsBackendRegisterCatalogue.imageBytes
      accessModeFlags := { waitForNewData := true }
      doocsTypeId := 0 }
  isOpen := true
  rc := .ok
  dst := dst
  attachError := none
  numberOfWords_lt := Arguments.one_lt
  wordOffset_lt := Arguments.one_lt

/-- The accessor of an IFFF field rejects the offset and is taken out of the subscription again. -/
theorem all_or_nothing_ifff : AllOrNothing () noSubscriptions
    (run plainImageLayout Catalogue.plainLibraries.type () true (.ifff "F1".toList)
      (secondWord (.ifff 0 0 0 0)) noSubscriptions) :=
  (all_or_nothing_iff plainImageLayout Catalogue.plainLibraries.type true (.ifff "F1".toList)
    (secondWord (.ifff 0 0 0 0)) noSubscriptions (by intro p e h; cases h)).mpr
    fun h => absurd h.image (by simp)

/-- An image accessor with an offset is destroyed without having been shut down, while the
subscription manager keeps a pointer to it. -/
theorem not_all_or_nothing : ¬ AllOrNothing () noSubscriptions
    (run plainImageLayout Catalogue.plainLibraries.type () true .image
      (secondWord (.image ⟨0, 0, 0, 0, 0, 0, 0, 0, 0, 0⟩ [])) noSubscriptions) := by
  intro h
  have hs : false = true := (h _ rfl (by simp)).1
  cases hs

end Construction

end DoocsBackend.Zmq
