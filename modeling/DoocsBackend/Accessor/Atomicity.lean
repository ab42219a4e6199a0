import DoocsBackend.Accessor.Defined
import DoocsBackend.Backend.Versions

/-! # Post-reads which throw

The base class takes over validity, version and event id of a reply before the class of the accessor
looks at its data.
-/
namespace DoocsBackend.Accessor
open Backend (Origin)

/-- The buffer of an accessor, and where its data comes from. -/
structure Content (U : UserType) where
  buffer : List U.Val
  origin : Origin

/-- The answer of `getVersion` to the event id of a reply, the start version of the backend and the
version created next, which is newer than all others. -/
structure Versions {U : UserType} (x : Content U) where
  realm : ℕ
  start : ℕ
  fresh : ℕ
  isNew : x.origin.versionNumber < fresh

/-- An exception is thrown. -/
def Throws {α : Type} (result : Except Failure α) : Prop :=
  ∃ e, result = .error e ∧ isException e = true

/-- A header without room for its pixels even after lines have been left out. -/
def IMH.HasNoRoom (h : IMH) (bytesPerPixel room : ℕ) : Prop :=
  let width := h.width.toNat
  let line := width * h.bpp.toNat % 2 ^ 32
  line ≠ 0 ∧ room < width * h.height.toNat * bytesPerPixel ∧
    room < width * (room / line % 2 ^ 32) * bytesPerPixel

section Definitions
variable (C : Conversions) (M : ImageLayout) {U : UserType} (a : RegisterAccessor U)

/-- `doPostRead` for new data. What throws does so before it has changed the buffer. -/
def Content.postRead (x : Content U) (dst : EqData) (v : Versions x) :
    Content U × Option Failure :=
  let origin := x.origin.doPostRead dst.error dst.eventId v.realm v.start v.fresh
  match doPostRead C M a dst x.buffer with
  | .ok buffer => (⟨buffer, origin⟩, none)
  | .error e => (⟨x.buffer, origin⟩, some e)

/-- If an exception is thrown, nothing has changed. -/
def ChangesNothing (x : Content U) (dst : EqData) (v : Versions x) : Prop :=
  ∀ e, (x.postRead C M a dst v).2 = some e → isException e = true →
    (x.postRead C M a dst v).1 = x

/-- The class of the accessor refuses the data of a reply. -/
def Refuses (dst : Payload) : Prop :=
  match a.kind with
  | .numeric | .iiii =>
    U ≠ .void ∧ dst.type ≠ .null ∧
      (dst.length < sizeAdd a.nElements a.elementOffset ∨ callForDoocsType dst.type = none)
  | .image => ∃ h body, dst = .image h body ∧ (M.getImgFormat h = .unset ∨
      if a.bufferLength < M.headerSize then h.width.toNat * h.bpp.toNat % 2 ^ 32 ≠ 0
      else h.HasNoRoom (M.getImgFormat h).bytesPerPixel (a.bufferLength - M.headerSize))
  | .ifff _ | .string | .eventId | .timeStamp => False

end Definitions

/-- The base class keeps everything: the event id or its version is too old, or is the one of the last
reply, and the validity is the same. -/
structure IsKept (a : Origin) (error : ℤ) (eventId : EventId) (realm start : ℕ) : Prop where
  dataValidity : a.dataValidity = if error = 0 then .ok else .faulty
  ne_zero : eventId ≠ 0
  isOld : eventId < a.lastEventId ∨ max realm start < a.versionNumber ∨
    eventId = a.lastEventId ∧ max realm start = a.versionNumber

section Base
variable {a : Origin} {error : ℤ} {eventId : EventId} {realm start fresh : ℕ}

theorem origin_eq_iff {b : Origin} : b = a ↔
    b.versionNumber = a.versionNumber ∧ b.dataValidity = a.dataValidity ∧
      b.lastEventId = a.lastEventId := by
  obtain ⟨version, validity, last⟩ := a
  obtain ⟨version', validity', last'⟩ := b
  rw [Origin.mk.injEq]

theorem doPostRead_eq_self_iff (hnew : a.versionNumber < fresh) :
    a.doPostRead error eventId realm start fresh = a ↔ IsKept a error eventId realm start := by
  by_cases h0 : eventId = 0
  · subst h0
    rw [Origin.doPostRead_zero]
    refine iff_of_false (fun h => ?_) (fun h => h.ne_zero rfl)
    have := congrArg Origin.versionNumber h
    dsimp only at this
    omega
  by_cases hback : eventId < a.lastEventId
  · rw [Origin.doPostRead_backward h0 hback]
    simp only [origin_eq_iff, true_and, and_true]
    exact ⟨fun h => ⟨h.symm, h0, .inl hback⟩, fun h => h.dataValidity.symm⟩
  rw [Origin.doPostRead_forward h0 hback]
  split
  · rename_i hold
    simp only [origin_eq_iff, true_and, and_true]
    exact ⟨fun h => ⟨h.symm, h0, .inr (.inl hold)⟩, fun h => h.dataValidity.symm⟩
  · rename_i hold
    rw [origin_eq_iff]
    constructor
    · rintro ⟨hversion, hvalidity, hid⟩
      exact ⟨hvalidity.symm, h0, .inr (.inr ⟨hid, hversion⟩)⟩
    · intro h
      obtain ⟨hid, hversion⟩ := (h.isOld.resolve_left hback).resolve_left hold
      exact ⟨hversion, h.dataValidity.symm, hid⟩

end Base

section Classes
variable {C : Conversions} {M : ImageLayout} {typeOf : ℤ → DoocsType} {U : UserType}
  {a : RegisterAccessor U}

theorem not_throws_ok {α : Type} {x : α} : ¬ Throws (Except.ok x : Except Failure α) := by
  rintro ⟨e, he, -⟩
  cases he

theorem throws_error_iff {α : Type} {e : Failure} :
    Throws (Except.error e : Except Failure α) ↔ isException e = true := by
  constructor
  · rintro ⟨e', he, hexception⟩
    cases he
    exact hexception
  · exact fun h => ⟨e, rfl, h⟩

theorem throws_map_iff {α β : Type} {f : α → β} {result : Except Failure α} :
    Throws (result.map f) ↔ Throws result := by
  cases result with
  | ok x => exact iff_of_false not_throws_ok not_throws_ok
  | error e => exact throws_error_iff.trans throws_error_iff.symm

theorem numericValues_ne_logicError {dst : Payload} (message : Text) :
    numericValues C a dst ≠ .error (.logicError message) := by
  have hslice {α β : Type} (xs : List α) (f : List α → β) :
      (slice xs a.elementOffset a.nElements).map f ≠ .error (.logicError message) :=
    map_slice_ne_error (by simp)
  unfold numericValues
  split
  · simp
  · split
    · simp
    · split
      · simp
      · split
        · exact hslice _ _
        · split
          · exact hslice _ _
          · simp

theorem throws_numericValues_iff {dst : Payload} :
    Throws (numericValues C a dst) ↔ U ≠ .void ∧ dst.type ≠ .null ∧
      (dst.length < sizeAdd a.nElements a.elementOffset ∨ callForDoocsType dst.type = none) := by
  rw [← numericValues_raises_iff (C := C)]
  constructor
  · rintro ⟨e, he, hexception⟩
    cases e with
    | runtimeError message => exact ⟨message, he⟩
    | logicError message => exact absurd he (numericValues_ne_logicError message)
    | lengthError | assertion | undefined => cases hexception
  · rintro ⟨message, he⟩
    exact ⟨_, he, rfl⟩

theorem throws_set_iff {capacity : ℕ} {h : IMH} {body : List UInt8} :
    Throws (M.set capacity h body) ↔ M.getImgFormat h = .unset ∨
      (M.Truncates capacity h → ImageLayout.bytesPerLine h ≠ 0) ∧ M.IsTooLarge capacity h := by
  have houtcome := M.set_outcome capacity h body
  generalize M.set capacity h body = result at houtcome ⊢
  cases houtcome with
  | unsupported message hunset => exact iff_of_true (throws_error_iff.mpr rfl) (.inl hunset)
  | noLines haccepted htruncates hzero =>
    refine iff_of_false (mt throws_error_iff.mp Bool.false_ne_true) ?_
    simp [haccepted, htruncates, hzero]
  | tooLarge message haccepted hlines hlarge =>
    exact iff_of_true (throws_error_iff.mpr rfl) (.inr ⟨hlines, hlarge⟩)
  | outside haccepted hlines hshape houtside =>
    refine iff_of_false (mt throws_error_iff.mp Bool.false_ne_true) ?_
    simp [haccepted, hshape]
  | done bytes haccepted hlines hshape hbody hroom hlength =>
    apply iff_of_false not_throws_ok
    simp [haccepted, hshape]

theorem throws_set_iff_hasNoRoom {capacity : ℕ} {h : IMH} {body : List UInt8}
    (hlt : capacity < 2 ^ 64) :
    Throws (M.set capacity h body) ↔ M.getImgFormat h = .unset ∨
      if capacity < M.headerSize then h.width.toNat * h.bpp.toNat % 2 ^ 32 ≠ 0
      else h.HasNoRoom (M.getImgFormat h).bytesPerPixel (capacity - M.headerSize) := by
  rw [throws_set_iff, bytesPerLine_ne_zero_iff]
  apply or_congr_right
  split
  · rename_i hsmall
    obtain ⟨htruncates, hlarge⟩ := ImageLayout.of_small (M := M) (h := h) hsmall
    simp [htruncates, hlarge]
  · rename_i hcap
    rw [not_lt] at hcap
    unfold IMH.HasNoRoom
    dsimp only
    by_cases htruncates : M.Truncates capacity h
    · have hroom := (ImageLayout.truncates_iff hcap).mp htruncates
      rw [ImageLayout.isTooLarge_iff hcap, ImageLayout.useLines_of_truncates hcap hlt htruncates]
      simp only [htruncates, hroom, forall_const, true_and]
    · have hroom := mt (ImageLayout.truncates_iff hcap).mpr htruncates
      have hshape := ImageLayout.not_isTooLarge_of_fits htruncates
      simp [hroom, hshape]

theorem throws_imageValues_iff {n : ℕ} {p : Payload} (hlt : n < 2 ^ 64) :
    Throws (imageValues M n p) ↔ ∃ h body, p = .image h body ∧ (M.getImgFormat h = .unset ∨
      if n < M.headerSize then h.width.toNat * h.bpp.toNat % 2 ^ 32 ≠ 0
      else h.HasNoRoom (M.getImgFormat h).bytesPerPixel (n - M.headerSize)) := by
  constructor
  · intro h
    cases p with
    | image header body => exact ⟨header, body, rfl, (throws_set_iff_hasNoRoom hlt).mp h⟩
    | _ => cases throws_error_iff.mp h
  · rintro ⟨header, body, rfl, h⟩
    exact (throws_set_iff_hasNoRoom hlt).mpr h

theorem not_throws_fieldValues {field : Field} {p : Payload} :
    ¬ Throws (fieldValues C U field p) := by
  cases p with
  | ifff => exact not_throws_ok
  | _ => exact fun h => Bool.false_ne_true (throws_error_iff.mp h)

/-- What is refused after the base class has taken it over. -/
theorem throws_postReadValues_iff (r : BufferedAccessor M typeOf U) {dst : EqData} :
    Throws (postReadValues C M r.accessor dst) ↔ Refuses M r.accessor dst.payload := by
  obtain ⟨⟨kind, path, nElements, elementOffset, isArray, isPartial, useZMQ, bufferLength, src⟩, -,
    hlt⟩ := r
  cases kind with
  | numeric | iiii => exact throws_numericValues_iff
  | ifff field => exact iff_of_false not_throws_fieldValues id
  | string | eventId | timeStamp => exact iff_of_false not_throws_ok id
  | image => exact throws_imageValues_iff hlt

theorem changesNothing_iff_of_throws {x : Content U} {dst : EqData} {v : Versions x}
    (h : Throws (doPostRead C M a dst x.buffer)) :
    ChangesNothing C M a x dst v ↔
      x.origin.doPostRead dst.error dst.eventId v.realm v.start v.fresh = x.origin := by
  obtain ⟨e, he, hexception⟩ := h
  have hread : x.postRead C M a dst v =
      (⟨x.buffer, x.origin.doPostRead dst.error dst.eventId v.realm v.start v.fresh⟩, some e) := by
    simp only [Content.postRead, he]
  unfold ChangesNothing
  rw [hread]
  constructor
  · intro hall
    exact congrArg Content.origin (hall e rfl hexception)
  · intro horigin _ _ _
    dsimp only
    rw [horigin]

theorem changesNothing_of_not_throws {x : Content U} {dst : EqData} {v : Versions x}
    (h : ¬ Throws (doPostRead C M a dst x.buffer)) : ChangesNothing C M a x dst v := by
  intro e he hexception
  refine absurd ⟨e, ?_, hexception⟩ h
  unfold Content.postRead at he
  cases hread : doPostRead C M a dst x.buffer with
  | ok buffer =>
    rw [hread] at he
    cases he
  | error e' =>
    rw [hread] at he
    cases he
    rfl

end Classes

/-- A post-read which throws has changed nothing exactly if it does not throw at all, or if the base
class keeps what it has. -/
theorem throwing_read_changes_nothing_iff (C : Conversions) {M : ImageLayout}
    {typeOf : ℤ → DoocsType} {U : UserType} (r : BufferedAccessor M typeOf U) (x : Content U)
    (dst : EqData) (v : Versions x) :
    ChangesNothing C M r.accessor x dst v ↔
      (Refuses M r.accessor dst.payload →
        IsKept x.origin dst.error dst.eventId v.realm v.start) := by
  rw [← throws_postReadValues_iff (C := C) r]
  by_cases h : Throws (postReadValues C M r.accessor dst)
  · rw [changesNothing_iff_of_throws (throws_map_iff.mpr h), doPostRead_eq_self_iff v.isNew]
    simp only [h, forall_const]
  · exact iff_of_true (changesNothing_of_not_throws (mt throws_map_iff.mp h)) fun hthrows =>
      absurd hthrows h

theorem two_lt : 2 < 2 ^ 64 := by decide

/-- Two elements of an array of integers. -/
def pairArguments : Arguments where
  path := "FACILITY/DEVICE/LOCATION/A".toList
  numberOfWords := 2
  wordOffsetInRegister := 0
  flags := {}
  info := some ⟨"/LOCATION/A".toList, 2, Catalogue.DoocsBackendRegisterCatalogue.signedInteger 11,
    {}, Catalogue.plainLibraries.id .aInt, true, true⟩
  isOpen := true
  rc := .ok
  dst := .array .aInt [(1 : Int32), (2 : Int32)]
  attachError := none
  numberOfWords_lt := two_lt
  wordOffset_lt := Arguments.zero_lt

def pairAccessor : BufferedAccessor plainImageLayout Catalogue.plainLibraries.type .int32 where
  accessor := initialised plainImageLayout .numeric pairArguments false (2, .aInt)
  constructed := ⟨.numeric, pairArguments, rfl⟩
  bufferLength_lt := two_lt

/-- The elements of event 100. -/
def pairContent : Content .int32 where
  buffer := [(1 : Int32), (2 : Int32)]
  origin := ⟨7, .ok, 100⟩

def pairVersions : Versions pairContent where
  realm := 8
  start := 5
  fresh := 9
  isNew := by decide

/-- The reply for event 101 has one element only. -/
def shortReply : EqData := ⟨.array .aInt [(3 : Int32)], 0, 101, 0⟩

/-- The version has advanced to the one of event 101. -/
theorem not_throwing_read_changes_nothing :
    ¬ ChangesNothing plainConversions plainImageLayout pairAccessor.accessor pairContent shortReply
      pairVersions := by
  intro h
  have hsame := h _ rfl rfl
  exact absurd (congrArg (fun x => x.origin.versionNumber) hsame) (by decide)

end DoocsBackend.Accessor
