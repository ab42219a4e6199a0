import DoocsBackend.Accessor.Cells

/-! # The shape of an accessor

What the constructors make sure of for the accessors of numeric arrays, of IIIIs and of the fields
of IFFFs.
-/
namespace DoocsBackend.Accessor
open Catalogue (DoocsBackendRegisterInfo)

/-- Lengths come from DOOCS, where they are `int`s, and from catalogue entries made of them. -/
structure Arguments.FromDoocs (typeOf : ℤ → DoocsType) (args : Arguments) : Prop where
  dst : args.dst.length < 2 ^ 31
  info : ∀ info, args.info = some info → info.WellFormed typeOf

/-- A successfully constructed accessor of a numeric array, an IIII or a field of an IFFF. -/
structure Writer (M : ImageLayout) (typeOf : ℤ → DoocsType) (U : UserType) where
  accessor : RegisterAccessor U
  constructed : ∃ kind args, args.FromDoocs typeOf ∧ construct M typeOf kind args = .ok accessor
  fits : accessor.kind.fits accessor.src.type

section Shape
variable {M : ImageLayout} {typeOf : ℤ → DoocsType} {U : UserType}

/-- What the constructors fix, for a property of the given length. -/
structure Shaped (a : RegisterAccessor U) (actualLength : ℕ) : Prop where
  length_lt : actualLength < 2 ^ 31
  src : a.src = .blank actualLength a.src.type
  bufferLength : a.kind.field? = none → a.bufferLength = a.nElements
  isArray : a.kind.field? = none → a.isArray = decide (1 < actualLength)
  isPartial : a.kind.field? = none →
    (a.isPartial = false ↔ a.nElements = actualLength ∧ a.elementOffset = 0)
  checked : a.kind.field? = none → sizeAdd a.nElements a.elementOffset ≤ actualLength
  iiii : a.kind = .iiii → actualLength = 4
  field : a.kind.field?.isSome → a.nElements = 1 ∧ a.elementOffset = 0 ∧ 0 < a.bufferLength

theorem arrayLength_le (p : Payload) : p.arrayLength ≤ p.length := by
  cases p with
  | raw t n => cases t <;> simp [Payload.arrayLength, Payload.length]
  | _ => simp [Payload.arrayLength, Payload.length]

/-- The length found by the constructor. -/
theorem actualShape_ok {args : Arguments} {info : DoocsBackendRegisterInfo} {shape : ℕ × DoocsType}
    (hdoocs : args.FromDoocs typeOf) (hinfo : args.info = some info)
    (h : actualShape M typeOf args info = .ok shape) (himage : shape.2 ≠ .image) :
    shape.1 < 2 ^ 31 ∧ (shape.2 = .iiii → shape.1 = 4) ∧ (shape.2 = .ifff → 0 < shape.1) := by
  have hreported : ∀ s, reportedShape M typeOf args info = .ok s → s.2 ≠ .image →
      s.1 < 2 ^ 31 ∧ (s.2 = .iiii → s.1 = 4) ∧ (s.2 = .ifff → 0 < s.1) := by
    intro s hs himage
    unfold reportedShape at hs
    split at hs
    · cases hs
      have hlt := hdoocs.dst
      have hle := arrayLength_le args.dst
      simp only [shapeOfReply] at himage ⊢
      rw [if_neg himage]
      refine ⟨by split <;> omega, fun ht => ?_, fun ht => ?_⟩
      · obtain ⟨i1, i2, i3, i4, hp⟩ := Payload.iiii_of_type ht
        rw [hp]
        rfl
      · obtain ⟨i1, f1, f2, f3, hp⟩ := Payload.ifff_of_type ht
        rw [hp]
        simp [Payload.arrayLength, Payload.length]
    · split at hs
      · cases hs
      · cases hs
        have hwf := hdoocs.info info hinfo
        exact ⟨hwf.length_lt, hwf.length_iiii, fun _ => hwf.length_pos⟩
  unfold actualShape at h
  cases hs : reportedShape M typeOf args info with
  | error e => rw [hs] at h; cases h
  | ok s =>
    rw [hs] at h
    cases h
    dsimp only at himage ⊢
    by_cases htext : s.2 = .text ∨ s.2 = .string
    · rw [if_pos htext]
      refine ⟨by norm_num, fun ht => ?_, fun ht => ?_⟩
      all_goals
        dsimp only at ht
        rw [ht] at htext
        obtain htext | htext := htext <;> cases htext
    · rw [if_neg htext] at himage ⊢
      exact hreported s hs himage

theorem isPartial_initialised {kind : Kind U} {args : Arguments} {useZMQ : Bool}
    {shape : ℕ × DoocsType} : (initialised M kind args useZMQ shape).isPartial = false ↔
      wordsOf args shape.1 = shape.1 ∧ args.wordOffsetInRegister = 0 := by
  simp [initialised]

/-- Where the sum has no overflow, the check has found that the property has the range. -/
theorem Shaped.range {a : RegisterAccessor U} {actualLength : ℕ} (h : Shaped a actualLength)
    (hf : a.kind.field? = none) (hlt : a.elementOffset + a.nElements < 2 ^ 64) :
    a.elementOffset + a.nElements ≤ actualLength := by
  have hchecked := h.checked hf
  rw [sizeAdd, Nat.mod_eq_of_lt (by omega)] at hchecked
  omega

theorem shaped_numbers {kind : Kind U} {args : Arguments} {useZMQ : Bool}
    {info : DoocsBackendRegisterInfo} {shape : ℕ × DoocsType} (hdoocs : args.FromDoocs typeOf)
    (hinfo : args.info = some info) (hshape : actualShape M typeOf args info = .ok shape)
    (hr : sizeAdd (wordsOf args shape.1) args.wordOffsetInRegister ≤ shape.1 ∨ shape.2 = .image)
    (himage : shape.2 ≠ .image) (hk : kind.field? = none)
    (hiiii : kind = .iiii → shape.2 = .iiii) :
    Shaped (initialised M kind args useZMQ shape) shape.1 := by
  obtain ⟨hlt, hfour, -⟩ := actualShape_ok hdoocs hinfo hshape himage
  refine ⟨hlt, ?_, fun _ => rfl, fun _ => rfl, fun _ => isPartial_initialised,
    fun _ => hr.resolve_right himage, fun h => hfour (hiiii h), fun h => ?_⟩
  · simp [initialised, himage]
  · rw [show (initialised M kind args useZMQ shape).kind = kind from rfl, hk] at h
    cases h

theorem shaped_field {field : Field} {args : Arguments} {useZMQ : Bool}
    {info : DoocsBackendRegisterInfo} {shape : ℕ × DoocsType} (hdoocs : args.FromDoocs typeOf)
    (hinfo : args.info = some info) (hshape : actualShape M typeOf args info = .ok shape)
    (hifff : shape.2 = .ifff) (ho : args.wordOffsetInRegister = 0) :
    Shaped { initialised M (.ifff field : Kind U) args useZMQ shape with nElements := 1 }
      shape.1 := by
  obtain ⟨hlt, -, hpos⟩ := actualShape_ok hdoocs hinfo hshape (by simp [hifff])
  refine ⟨hlt, ?_, by simp [initialised, Kind.field?], by simp [initialised, Kind.field?],
    by simp [initialised, Kind.field?], by simp [initialised, Kind.field?], by simp [initialised],
    fun _ => ⟨rfl, ho, ?_⟩⟩
  · simp [initialised, hifff]
  · have hwords : 0 < wordsOf args shape.1 := by
      unfold wordsOf
      split
      · exact hpos hifff
      · omega
    exact hwords

/-- Every accessor that can write numbers has been given a shape by its constructor. -/
theorem Writer.shaped (w : Writer M typeOf U) : ∃ actualLength, Shaped w.accessor actualLength := by
  obtain ⟨a, ⟨kind, args, hdoocs, h⟩, hfits⟩ := w
  obtain ⟨useZMQ, info, shape, hinfo, hshape, hr, hc⟩ := construct_ok h
  refine ⟨shape.1, ?_⟩
  have htype : (initialised M kind (kindArguments kind args) useZMQ shape).src.type = shape.2 :=
    Payload.type_blank _ _
  obtain ⟨rfl, hnot⟩ | ⟨rfl, field, hf⟩ := checkKind_ok hc
  · rw [htype] at hfits
    cases kind with
    | numeric =>
      obtain ⟨t, ht⟩ := hfits
      exact shaped_numbers hdoocs hinfo hshape hr (by rw [← ht]; cases t <;> simp [ArrayType.type]) rfl
        (by simp)
    | iiii =>
      have ht : shape.2 = .iiii := hfits
      exact shaped_numbers hdoocs hinfo hshape hr (by simp [ht]) rfl fun _ => ht
    | ifff field => exact absurd rfl (hnot field)
    | string | image | eventId | timeStamp => cases hfits
  · obtain rfl : kind = .ifff field := hf
    dsimp only at hfits
    rw [htype] at hfits
    have ho : args.wordOffsetInRegister = 0 := by
      by_contra ho
      simp [checkKind, initialised, kindArguments, ho] at hc
    exact shaped_field hdoocs hinfo hshape hfits ho

end Shape

end DoocsBackend.Accessor
