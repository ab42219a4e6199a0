import DoocsBackend.Accessor.PostRead
import DoocsBackend.Catalogue.RegisterPath

/-! # Replacing one accessor by another

`mayReplaceOther` compares the place of two accessors, and for the fields of an IFFF
also what is read from there. It is sound where the accessors read the same part of a
reply.
-/
namespace DoocsBackend.Accessor

section Replace
variable {ι : Type*} [DecidableEq ι] {U : UserType}

structure SamePlace (a b : RegisterAccessor U) : Prop where
  path : a.path = b.path
  nElements : a.nElements = b.nElements
  elementOffset : a.elementOffset = b.elementOffset

instance (a b : RegisterAccessor U) : Decidable (SamePlace a b) :=
  decidable_of_iff (a.path = b.path ∧ a.nElements = b.nElements ∧ a.elementOffset = b.elementOffset)
    ⟨fun h => ⟨h.1, h.2.1, h.2.2⟩, fun h => ⟨h.1, h.2, h.3⟩⟩

theorem SamePlace.symm {a b : RegisterAccessor U} (h : SamePlace a b) : SamePlace b a :=
  ⟨h.path.symm, h.nElements.symm, h.elementOffset.symm⟩

/-- `mayReplaceOther` of the `i`-th of a family of accessor objects, called for the `j`-th. -/
def mayReplaceOther (acc : ι → RegisterAccessor U) (i j : ι) : Bool :=
  match (acc i).kind.field? with
  | some field =>
    (acc j).kind.field?.isSome && !decide (j = i) && decide ((acc i).path = (acc j).path) &&
      decide (some field = (acc j).kind.field?)
  | none => !decide (j = i) && decide (SamePlace (acc i) (acc j))

variable {acc : ι → RegisterAccessor U} {i j : ι}

theorem mayReplaceOther_field {field : Field} (h : (acc i).kind.field? = some field) :
    mayReplaceOther acc i j = true ↔
      j ≠ i ∧ (acc i).path = (acc j).path ∧ (acc j).kind.field? = some field := by
  simp only [mayReplaceOther, h, Bool.and_eq_true, Bool.not_eq_true', decide_eq_false_iff_not,
    decide_eq_true_eq]
  constructor
  · rintro ⟨⟨⟨-, hij⟩, hp⟩, hf⟩
    exact ⟨hij, hp, hf.symm⟩
  · rintro ⟨hij, hp, hf⟩
    exact ⟨⟨⟨by rw [hf]; rfl, hij⟩, hp⟩, hf.symm⟩

theorem mayReplaceOther_other (h : (acc i).kind.field? = none) :
    mayReplaceOther acc i j = true ↔ j ≠ i ∧ SamePlace (acc i) (acc j) := by
  simp [mayReplaceOther, h]

end Replace

section Values
variable (C : Conversions) (M : ImageLayout) {U : UserType}

/-- Whatever the reply, both accessors make the same of a buffer which is long enough. -/
def SameValues (a b : RegisterAccessor U) : Prop :=
  ∀ (dst : EqData) (buffer : List U.Val), a.bufferLength ≤ buffer.length →
    b.bufferLength ≤ buffer.length → doPostRead C M a dst buffer = doPostRead C M b dst buffer

/-- The part of a reply an accessor class puts into its buffer; a `Void` holds nothing. -/
inductive Reader where
  | nothing | elements | field | text | image | eventId | timeStamp
  deriving DecidableEq, Repr

def Kind.reader : Kind U → Reader
  | .numeric | .iiii => if U = .void then .nothing else .elements
  | .ifff _ => .field
  | .string => .text
  | .image => .image
  | .eventId => if U = .void then .nothing else .eventId
  | .timeStamp => if U = .void then .nothing else .timeStamp

variable {C M} {a b : RegisterAccessor U}

theorem SameValues.symm (h : SameValues C M a b) : SameValues C M b a :=
  fun dst buffer hb ha => (h dst buffer ha hb).symm

theorem doPostRead_eventId (h : a.kind = .eventId) (dst : EqData) (buffer : List U.Val) :
    doPostRead C M a dst buffer =
      .ok (C.numericToUserType U .int64 dst.eventId :: buffer.drop 1) := by
  obtain ⟨kind, _⟩ := a
  cases h
  rfl

theorem doPostRead_timeStamp (h : a.kind = .timeStamp) (dst : EqData) (buffer : List U.Val) :
    doPostRead C M a dst buffer =
      .ok (C.numericToUserType U .int64 dst.secondsSinceEpoch :: buffer.drop 1) := by
  obtain ⟨kind, _⟩ := a
  cases h
  rfl

/-- All other accessors only look at the payload. -/
theorem doPostRead_payload (he : a.kind ≠ .eventId) (ht : a.kind ≠ .timeStamp)
    (dst dst' : EqData) (h : dst.payload = dst'.payload) (buffer : List U.Val) :
    doPostRead C M a dst buffer = doPostRead C M a dst' buffer := by
  obtain ⟨kind, _⟩ := a
  cases kind with
  | eventId => exact absurd rfl he
  | timeStamp => exact absurd rfl ht
  | numeric | iiii | ifff field | string | image => simp only [doPostRead, postReadValues, h]

theorem Kind.eq_eventId {k : Kind U} (h : k.reader = .eventId) : k = .eventId := by
  cases k with
  | eventId => rfl
  | ifff field | string | image => cases h
  | numeric | iiii | timeStamp =>
    rw [Kind.reader] at h
    split at h <;> cases h

theorem Kind.eq_timeStamp {k : Kind U} (h : k.reader = .timeStamp) : k = .timeStamp := by
  cases k with
  | timeStamp => rfl
  | ifff field | string | image => cases h
  | numeric | iiii | eventId =>
    rw [Kind.reader] at h
    split at h <;> cases h

theorem Kind.reader_nothing_iff {k : Kind U} (h : k.field? = none) :
    k.reader = .nothing ↔ U = .void := by
  cases k with
  | ifff field => cases h
  | string | image => simp [Kind.reader]
  | numeric | iiii | eventId | timeStamp => simp [Kind.reader]

theorem Kind.reader_field_iff {k : Kind U} : k.reader = .field ↔ k.field?.isSome := by
  cases k with
  | ifff field => exact iff_of_true rfl rfl
  | string | image => simp [Kind.reader, Kind.field?]
  | numeric | iiii | eventId | timeStamp =>
    rw [Kind.reader]
    split <;> simp [Kind.field?]

/-- What is told apart by its event id is an event id. -/
theorem eventId_matters_iff (buffer : List U.Val) :
    doPostRead C M a ⟨.null, 0, 0, 0⟩ buffer ≠ doPostRead C M a ⟨.null, 0, 1, 0⟩ buffer ↔
      a.kind.reader = .eventId := by
  by_cases he : a.kind = .eventId
  · rw [doPostRead_eventId he, doPostRead_eventId he, he, Kind.reader]
    by_cases hU : U = .void
    · subst hU
      exact iff_of_false (fun h => h rfl) (by decide)
    · rw [if_neg hU]
      refine iff_of_true (fun h => C.zero_ne_one U hU ?_) rfl
      exact (List.cons.inj (Except.ok.inj h)).1
  · refine iff_of_false (fun h => h ?_) fun h => he (Kind.eq_eventId h)
    by_cases ht : a.kind = .timeStamp
    · rw [doPostRead_timeStamp ht, doPostRead_timeStamp ht]
    · exact doPostRead_payload he ht ⟨.null, 0, 0, 0⟩ ⟨.null, 0, 1, 0⟩ rfl buffer

/-- What is told apart by its time stamp is a time stamp. -/
theorem timeStamp_matters_iff (buffer : List U.Val) :
    doPostRead C M a ⟨.null, 0, 0, 0⟩ buffer ≠ doPostRead C M a ⟨.null, 0, 0, 1⟩ buffer ↔
      a.kind.reader = .timeStamp := by
  by_cases ht : a.kind = .timeStamp
  · rw [doPostRead_timeStamp ht, doPostRead_timeStamp ht, ht, Kind.reader]
    by_cases hU : U = .void
    · subst hU
      exact iff_of_false (fun h => h rfl) (by decide)
    · rw [if_neg hU]
      refine iff_of_true (fun h => C.zero_ne_one U hU ?_) rfl
      exact (List.cons.inj (Except.ok.inj h)).1
  · refine iff_of_false (fun h => h ?_) fun h => ht (Kind.eq_timeStamp h)
    by_cases he : a.kind = .eventId
    · rw [doPostRead_eventId he, doPostRead_eventId he]
    · exact doPostRead_payload he ht ⟨.null, 0, 0, 0⟩ ⟨.null, 0, 0, 1⟩ rfl buffer

variable (C M) in
/-- Whether there is a result at all. -/
def Succeeds (a : RegisterAccessor U) (payload : Payload) : Prop :=
  ∃ values, postReadValues C M a ⟨payload, 0, 0, 0⟩ = .ok values

theorem succeeds_iff {payload : Payload} (buffer : List U.Val) :
    Succeeds C M a payload ↔ ∃ r, doPostRead C M a ⟨payload, 0, 0, 0⟩ buffer = .ok r := by
  unfold Succeeds doPostRead
  cases postReadValues C M a ⟨payload, 0, 0, 0⟩ <;> simp [Except.map]

/-- A text is refused by the accessors for numbers and images. -/
theorem succeeds_text_iff (h : a.kind.field? = none) :
    Succeeds C M a (.text []) ↔ a.kind.reader ≠ .elements ∧ a.kind.reader ≠ .image := by
  obtain ⟨kind, _⟩ := a
  cases kind with
  | ifff field => cases h
  | numeric | iiii =>
    by_cases hU : U = .void
    · simp [Succeeds, postReadValues, numericValues, Kind.reader, hU]
    · refine iff_of_false ?_ (by simp [Kind.reader, hU])
      rintro ⟨values, hv⟩
      obtain ⟨-, c, xs, hxs, -⟩ := numericValues_ok hU (by simp [Payload.type]) hv
      simp [Payload.numbers, Payload.fastArray, Payload.elements] at hxs
  | string => simp [Succeeds, postReadValues, Kind.reader]
  | image => simp [Succeeds, postReadValues, imageValues, Kind.reader]
  | eventId | timeStamp =>
    by_cases hU : U = .void <;> simp [Succeeds, postReadValues, Kind.reader, hU]

/-- The null reply of a stale spectrum is refused by the accessors for images. -/
theorem succeeds_null_iff (h : a.kind.field? = none) :
    Succeeds C M a .null ↔ a.kind.reader ≠ .image := by
  obtain ⟨kind, _⟩ := a
  cases kind with
  | ifff field => cases h
  | numeric | iiii =>
    by_cases hU : U = .void <;>
      simp [Succeeds, postReadValues, numericValues, Payload.type, Kind.reader, hU]
  | string => simp [Succeeds, postReadValues, Kind.reader]
  | image => simp [Succeeds, postReadValues, imageValues, Kind.reader]
  | eventId | timeStamp =>
    by_cases hU : U = .void <;> simp [Succeeds, postReadValues, Kind.reader, hU]

/-- Accessors other than those of IFFF fields which make the same of every reply read the same
part of it. -/
theorem reader_eq_of_sameValues (ha : a.kind.field? = none) (hb : b.kind.field? = none)
    (h : SameValues C M a b) : a.kind.reader = b.kind.reader := by
  let buffer := List.replicate (max a.bufferLength b.bufferLength) U.zero
  have same (dst : EqData) : doPostRead C M a dst buffer = doPostRead C M b dst buffer :=
    h dst buffer (by simp [buffer]) (by simp [buffer])
  have succeeds (p : Payload) : Succeeds C M a p ↔ Succeeds C M b p := by
    rw [succeeds_iff buffer, succeeds_iff buffer, same]
  have he : a.kind.reader = .eventId ↔ b.kind.reader = .eventId := by
    rw [← eventId_matters_iff (C := C) (M := M) buffer, same, same, eventId_matters_iff]
  have ht : a.kind.reader = .timeStamp ↔ b.kind.reader = .timeStamp := by
    rw [← timeStamp_matters_iff (C := C) (M := M) buffer, same, same, timeStamp_matters_iff]
  have hs := succeeds (.text [])
  have hn := succeeds .null
  rw [succeeds_text_iff ha, succeeds_text_iff hb] at hs
  rw [succeeds_null_iff ha, succeeds_null_iff hb] at hn
  by_cases hU : U = .void
  · rw [(Kind.reader_nothing_iff ha).mpr hU, (Kind.reader_nothing_iff hb).mpr hU]
  · have hna := mt (Kind.reader_nothing_iff ha).mp hU
    have hnb := mt (Kind.reader_nothing_iff hb).mp hU
    have hfa : a.kind.reader ≠ .field := by simp [Kind.reader_field_iff, ha]
    have hfb : b.kind.reader ≠ .field := by simp [Kind.reader_field_iff, hb]
    generalize a.kind.reader = r at *
    generalize b.kind.reader = r' at *
    cases r <;> cases r' <;> simp_all

/-- Two fields of an IFFF are read alike if they are the same field. -/
theorem sameValues_of_field {field : Field} (ha : a.kind.field? = some field)
    (hb : b.kind.field? = some field) : SameValues C M a b := by
  obtain ⟨ka, _⟩ := a
  obtain ⟨kb, _⟩ := b
  cases ka <;> cases ha
  cases kb <;> cases hb
  exact fun dst buffer _ _ => rfl

end Values

section Sound
variable (C : Conversions) (M : ImageLayout) {typeOf : ℤ → DoocsType} {U : UserType}
  {ι : Type*} [DecidableEq ι]

/-- A transfer group may use the `i`-th accessor in the place of the `j`-th. -/
structure Sound (acc : ι → RegisterAccessor U) (i j : ι) : Prop where
  sameValues : mayReplaceOther acc i j = true → SameValues C M (acc i) (acc j)
  symmetric : i ≠ j → mayReplaceOther acc i j = mayReplaceOther acc j i

variable {C M}

/-- A `Void` buffer stays what it is when a value is put into it. -/
theorem doPostRead_nothing {b : Constructed M typeOf U} (h : b.1.kind.reader = .nothing)
    (hU : U = .void) (dst : EqData) (buffer : List U.Val)
    (hl : b.1.bufferLength ≤ buffer.length) : doPostRead C M b.1 dst buffer = .ok buffer := by
  have cons_drop (hk : b.1.kind = .eventId ∨ b.1.kind = .timeStamp) (v : U.Val) :
      v :: buffer.drop 1 = buffer := by
    rw [b.bufferLength_eq_one hk] at hl
    cases buffer with
    | nil => simp at hl
    | cons u us =>
      subst hU
      rfl
  by_cases he : b.1.kind = .eventId
  · rw [doPostRead_eventId he, cons_drop (.inl he)]
  by_cases ht : b.1.kind = .timeStamp
  · rw [doPostRead_timeStamp ht, cons_drop (.inr ht)]
  obtain ⟨⟨kind, _⟩, _⟩ := b
  cases kind with
  | eventId => exact absurd rfl he
  | timeStamp => exact absurd rfl ht
  | numeric | iiii => simp [doPostRead, postReadValues, numericValues, hU, Except.map]
  | ifff field | string | image => cases h

theorem numericValues_congr {a b : RegisterAccessor U} (h : SamePlace a b) (dst : Payload) :
    numericValues C a dst = numericValues C b dst := by
  rw [numericValues, numericValues, h.path, h.nElements, h.elementOffset]

theorem sameValues_of_reader {a b : Constructed M typeOf U} (hp : SamePlace a.1 b.1)
    (hf : a.1.kind.field? = none) (h : a.1.kind.reader = b.1.kind.reader) :
    SameValues C M a.1 b.1 := by
  intro dst buffer ha hb
  by_cases hU : U = .void
  · have hn := (Kind.reader_nothing_iff hf).mpr hU
    rw [doPostRead_nothing hn hU dst buffer ha, doPostRead_nothing (h ▸ hn) hU dst buffer hb]
  · have hla := a.bufferLength_eq
    have hlb := b.bufferLength_eq
    obtain ⟨⟨ka, _⟩, _⟩ := a
    obtain ⟨⟨kb, _⟩, _⟩ := b
    cases ka with
    | ifff field => cases hf
    | numeric | iiii =>
      cases kb <;> simp [Kind.reader, hU] at h
      all_goals simp only [doPostRead, postReadValues, numericValues_congr hp]
    | string => cases kb <;> simp [Kind.reader] at h; rfl
    | image =>
      cases kb <;> simp [Kind.reader] at h
      have hl := (hla (by simp)).trans (hp.nElements.trans (hlb (by simp)).symm)
      dsimp only at hl
      simp only [doPostRead, postReadValues, hl]
    | eventId | timeStamp =>
      cases kb <;> simp [Kind.reader, hU] at h
      rfl

variable {acc : ι → Constructed M typeOf U} {i j : ι}

theorem sound_others (hi : (acc i).1.kind.field? = none) (hj : (acc j).1.kind.field? = none) :
    Sound C M (fun k => (acc k).1) i j ↔
      (SamePlace (acc i).1 (acc j).1 → (acc i).1.kind.reader = (acc j).1.kind.reader) := by
  have hij : mayReplaceOther (fun k => (acc k).1) i j = true ↔ _ := mayReplaceOther_other hi
  have hji : mayReplaceOther (fun k => (acc k).1) j i = true ↔ _ := mayReplaceOther_other hj
  constructor
  · intro h hp
    by_cases hne : j = i
    · rw [hne]
    · exact reader_eq_of_sameValues hi hj (h.sameValues (hij.mpr ⟨hne, hp⟩))
  · intro h
    refine ⟨fun hm => ?_, fun hne => ?_⟩
    · exact sameValues_of_reader (hij.mp hm).2 hi (h (hij.mp hm).2)
    · rw [Bool.eq_iff_iff, hij, hji]
      exact ⟨fun h => ⟨hne, h.2.symm⟩, fun h => ⟨hne.symm, h.2.symm⟩⟩

/-- Fields are compared by the override, which also looks at the field. -/
theorem sound_fields {f g : Field} (hi : (acc i).1.kind.field? = some f)
    (hj : (acc j).1.kind.field? = some g) : Sound C M (fun k => (acc k).1) i j := by
  have hij : mayReplaceOther (fun k => (acc k).1) i j = true ↔ _ := mayReplaceOther_field hi
  have hji : mayReplaceOther (fun k => (acc k).1) j i = true ↔ _ := mayReplaceOther_field hj
  refine ⟨fun hm => sameValues_of_field hi (hij.mp hm).2.2, fun hne => ?_⟩
  rw [Bool.eq_iff_iff, hij, hji, hi, hj]
  exact ⟨fun h => ⟨hne, h.2.1.symm, h.2.2.symm⟩, fun h => ⟨hne.symm, h.2.1.symm, h.2.2.symm⟩⟩

/-- The override refuses everything but fields, the base class does not refuse fields. -/
theorem symmetric_mixed {f : Field} (hi : (acc i).1.kind.field? = none)
    (hj : (acc j).1.kind.field? = some f) :
    mayReplaceOther (fun k => (acc k).1) i j = mayReplaceOther (fun k => (acc k).1) j i ↔
      ¬ SamePlace (acc i).1 (acc j).1 := by
  have hij : mayReplaceOther (fun k => (acc k).1) i j = true ↔ _ := mayReplaceOther_other hi
  have hji : mayReplaceOther (fun k => (acc k).1) j i = true ↔ _ := mayReplaceOther_field hj
  have hne : j ≠ i := by
    rintro rfl
    rw [hi] at hj
    cases hj
  rw [Bool.eq_iff_iff, hij, hji, hi]
  simp [hne]

theorem sound_mixed {f : Field} (hi : (acc i).1.kind.field? = none)
    (hj : (acc j).1.kind.field? = some f) :
    (Sound C M (fun k => (acc k).1) i j ↔ ¬ SamePlace (acc i).1 (acc j).1) ∧
      (Sound C M (fun k => (acc k).1) j i ↔ ¬ SamePlace (acc i).1 (acc j).1) := by
  have hsymm := symmetric_mixed hi hj
  have hne : i ≠ j := by
    rintro rfl
    rw [hi] at hj
    cases hj
  have hij : mayReplaceOther (fun k => (acc k).1) i j = true ↔ _ := mayReplaceOther_other hi
  have hji : mayReplaceOther (fun k => (acc k).1) j i = true ↔ _ := mayReplaceOther_field hj
  refine ⟨⟨fun h => hsymm.mp (h.symmetric hne), fun h => ⟨fun hm => ?_, fun _ => hsymm.mpr h⟩⟩,
    ⟨fun h => hsymm.mp (h.symmetric hne.symm).symm, fun h => ⟨fun hm => ?_, fun _ =>
      (hsymm.mpr h).symm⟩⟩⟩
  · exact absurd (hij.mp hm).2 h
  · have hf := (hji.mp hm).2.2
    rw [hi] at hf
    cases hf

/-- Replacing is sound exactly if accessors of the same place read the same part of a reply. -/
theorem mayReplaceOther_sound_iff (acc : ι → Constructed M typeOf U) (i j : ι) :
    Sound C M (fun k => (acc k).1) i j ↔
      (SamePlace (acc i).1 (acc j).1 → (acc i).1.kind.reader = (acc j).1.kind.reader) := by
  cases hi : (acc i).1.kind.field? with
  | none =>
    cases hj : (acc j).1.kind.field? with
    | none => exact sound_others hi hj
    | some g =>
      have hr : (acc i).1.kind.reader ≠ (acc j).1.kind.reader := fun h => by
        have := Kind.reader_field_iff.mp (h.trans (Kind.reader_field_iff.mpr (by rw [hj]; rfl)))
        rw [hi] at this
        cases this
      rw [(sound_mixed hi hj).1]
      exact ⟨fun h hp => absurd hp h, fun h hp => hr (h hp)⟩
  | some f =>
    have hri := Kind.reader_field_iff.mpr (by rw [hi]; rfl : (acc i).1.kind.field?.isSome)
    cases hj : (acc j).1.kind.field? with
    | none =>
      have hr : (acc i).1.kind.reader ≠ (acc j).1.kind.reader := fun h => by
        have := Kind.reader_field_iff.mp (h.symm.trans hri)
        rw [hj] at this
        cases this
      rw [(sound_mixed hj hi).2]
      exact ⟨fun h hp => absurd hp.symm h, fun h hp => hr (h hp.symm)⟩
    | some g =>
      have hrj := Kind.reader_field_iff.mpr (by rw [hj]; rfl : (acc j).1.kind.field?.isSome)
      exact iff_of_true (sound_fields hi hj) fun _ => hri.trans hrj.symm

/-- The arguments for a property of type `INT` and for the registers below it. -/
def intArguments : Arguments where
  path := "FACILITY/DEVICE/LOCATION/P".toList
  numberOfWords := 0
  wordOffsetInRegister := 0
  flags := {}
  info := some ⟨"/LOCATION/P".toList, 1, Catalogue.DoocsBackendRegisterCatalogue.signedInteger 11, {}, 1, true, true⟩
  isOpen := true
  rc := .ok
  dst := .scalar .int32 (7 : Int32)
  attachError := none
  numberOfWords_lt := Arguments.zero_lt
  wordOffset_lt := Arguments.zero_lt

/-- The integer property itself (`false`) and its event id (`true`). -/
def valueAndEventId : Bool → Constructed plainImageLayout Catalogue.plainLibraries.type .int32
  | false => ⟨initialised plainImageLayout .numeric intArguments false (1, .int), .numeric,
      intArguments, rfl⟩
  | true => ⟨initialised plainImageLayout .eventId (kindArguments (U := .int32) .eventId intArguments)
      false (1, .int), .eventId, intArguments, rfl⟩

/-- The value of an integer property would be replaced by its event id. -/
theorem not_mayReplaceOther_sound :
    ¬ Sound plainConversions plainImageLayout (fun k => (valueAndEventId k).1) false true := by
  intro h
  have hv := h.sameValues (by decide) ⟨.scalar .int32 (7 : Int32), 0, 12, 0⟩ [(0 : Int32)]
    (by decide) (by decide)
  revert hv
  decide

end Sound

end DoocsBackend.Accessor
