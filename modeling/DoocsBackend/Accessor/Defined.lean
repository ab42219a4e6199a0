import DoocsBackend.Accessor.ImageConversion
import DoocsBackend.Accessor.PartialWrite
import DoocsBackend.Accessor.Reports

/-! # Replies `doPostRead` can deal with

The server may answer with an object of any type and length, whatever the property was when the
accessor was constructed. For each accessor class these are the replies which are converted, or
refused with an exception.
-/
namespace DoocsBackend.Accessor

/-- The exceptions of ChimeraTK among the failures. -/
def isException : Failure → Bool
  | .logicError _ | .runtimeError _ => true
  | .lengthError | .assertion | .undefined => false

/-- A result as expected, or an exception. -/
def EndsWell {α : Type} (expected : α → Prop) : Except Failure α → Prop
  | .ok x => expected x
  | .error e => isException e = true

/-- A successfully constructed accessor. The size of its buffer is a `size_t`. -/
structure BufferedAccessor (M : ImageLayout) (typeOf : ℤ → DoocsType) (U : UserType) where
  accessor : RegisterAccessor U
  constructed : ∃ kind args, construct M typeOf kind args = .ok accessor
  bufferLength_lt : accessor.bufferLength < 2 ^ 64

/-- Whether a header and a body of the given length can be converted, or are refused. The room is the
one behind the header of the mapped image. -/
def IMH.IsConvertible (h : IMH) (bytesPerPixel room bodyLength : ℕ) : Prop :=
  let width := h.width.toNat
  let line := width * h.bpp.toNat % 2 ^ 32
  if width * h.height.toNat * bytesPerPixel ≤ room then
    let copied := width * h.height.toNat * h.bpp.toNat % 2 ^ 32
    copied ≤ room ∧ copied ≤ bodyLength
  else
    let lines := room / line % 2 ^ 32
    line ≠ 0 ∧ (width * lines * bytesPerPixel ≤ room → lines * line % 2 ^ 32 ≤ bodyLength)

section Definitions
variable (K : EqDataLibrary) (C : Conversions) (M : ImageLayout) {U : UserType}
  (a : RegisterAccessor U)

/-- The reply can be dealt with by the class of the accessor. -/
def Accepts (dst : Payload) : Prop :=
  match a.kind with
  | .numeric | .iiii =>
    U = .void ∨ dst.type = .null ∨ callForDoocsType dst.type = none ∨
      dst.length < sizeAdd a.nElements a.elementOffset ∨
      a.elementOffset + a.nElements ≤ dst.length
  | .ifff _ => dst.type = .ifff ∧ 0 < a.bufferLength
  | .image => ∃ h body, dst = .image h body ∧ (M.getImgFormat h = .unset ∨
      if a.bufferLength < M.headerSize then h.width.toNat * h.bpp.toNat % 2 ^ 32 ≠ 0
      else h.IsConvertible (M.getImgFormat h).bytesPerPixel (a.bufferLength - M.headerSize) body.length)
  | .string | .eventId | .timeStamp => True

/-- A read fills the buffer or throws, and so does the read-modify-write of a field of an IFFF. -/
structure IsDefinedFor (dst : EqData) : Prop where
  read : ∀ buffer : List U.Val, buffer.length = a.bufferLength →
    EndsWell (fun filled => filled.length = a.bufferLength) (doPostRead C M a dst buffer)
  modify : ∀ field, a.kind = .ifff field → ∀ (s : WriteState) src (buffer : List U.Val),
    buffer.length = a.bufferLength → s.dst = dst.payload →
    doReadTransferSynchronously C a s = .ok s.dst →
    EndsWell (fun _ => True) (kindPreWrite K C a s src buffer)

end Definitions

section Numbers
variable {C : Conversions} {M : ImageLayout} {U : UserType} {a : RegisterAccessor U} {p : Payload}

theorem Payload.length_numbers {c : CType} {xs : List c.Val} (h : p.numbers = some ⟨c, xs⟩) :
    xs.length = p.length := by
  cases p with
  | array t ys =>
    rw [numbers_array] at h
    cases h
    rfl
  | scalar | iiii =>
    cases h
    rfl
  | null | ifff | text | string | image | raw => cases h

theorem Payload.numbers_eq_none_iff : p.numbers = none ↔ callForDoocsType p.type = none := by
  cases p with
  | array t xs =>
    rw [numbers_array]
    exact iff_of_false (by simp) (by cases t <;> simp [type, ArrayType.type, callForDoocsType])
  | scalar c v =>
    exact iff_of_false (by simp [numbers, fastArray, elements])
      (by cases c <;> simp [type, CType.scalarType, callForDoocsType])
  | iiii => exact iff_of_false (by simp [numbers, fastArray, elements]) (by simp [type, callForDoocsType])
  | raw t n => exact iff_of_true rfl (by cases t <;> rfl)
  | null | ifff | text | string | image => exact iff_of_true rfl rfl

theorem endsWell_numericValues_iff (hb : a.bufferLength = a.nElements) :
    EndsWell (fun values => values.length ≤ a.bufferLength) (numericValues C a p) ↔
      U = .void ∨ p.type = .null ∨ callForDoocsType p.type = none ∨
        p.length < sizeAdd a.nElements a.elementOffset ∨
        a.elementOffset + a.nElements ≤ p.length := by
  by_cases hU : U = .void
  · rw [numericValues, if_pos hU]
    exact iff_of_true (Nat.zero_le _) (.inl hU)
  by_cases hn : p.type = .null
  · rw [numericValues, if_neg hU, if_pos hn]
    refine iff_of_true ?_ (.inr (.inl hn))
    rw [EndsWell, List.length_replicate, hb]
  by_cases hl : p.length < sizeAdd a.nElements a.elementOffset
  · rw [numericValues, if_neg hU, if_neg hn, if_pos hl]
    exact iff_of_true rfl (.inr (.inr (.inr (.inl hl))))
  cases h : p.numbers with
  | none =>
    have htype := Payload.numbers_eq_none_iff.mp h
    obtain ⟨message, hmessage⟩ : ∃ message, numericValues C a p = .error (.runtimeError message) :=
      numericValues_raises_iff.mpr ⟨hU, hn, .inr htype⟩
    rw [hmessage]
    exact iff_of_true rfl (.inr (.inr (.inl htype)))
  | some found =>
    obtain ⟨c, xs⟩ := found
    have hlength := Payload.length_numbers h
    have htype : callForDoocsType p.type ≠ none := fun htype => by
      rw [Payload.numbers_eq_none_iff.mpr htype] at h
      cases h
    rw [numericValues_of_numbers hU hn h (by omega), slice]
    simp only [hU, hn, hl, htype, false_or]
    split
    · rename_i hrange
      refine iff_of_true ?_ (by omega)
      simp only [Except.map, EndsWell, List.length_map, List.length_take]
      omega
    · rename_i hrange
      exact iff_of_false Bool.false_ne_true (by omega)

end Numbers

section Images
variable {C : Conversions} {M : ImageLayout} {capacity : ℕ} {h : IMH} {body : List UInt8}

/-- What goes wrong in `MappedDoocsImgIn::set`: a division by zero, or a block which is longer than
the body or the room. -/
theorem endsWell_set_iff :
    EndsWell (fun bytes => bytes.length ≤ capacity) (M.set capacity h body) ↔
      M.getImgFormat h = .unset ∨
        (M.Truncates capacity h → ImageLayout.bytesPerLine h ≠ 0) ∧
          (¬ M.IsTooLarge capacity h →
            M.copied capacity h ≤ body.length ∧ M.headerSize + M.copied capacity h ≤ capacity) := by
  have houtcome := M.set_outcome capacity h body
  generalize M.set capacity h body = result at houtcome ⊢
  cases houtcome with
  | unsupported message hunset => exact iff_of_true rfl (.inl hunset)
  | noLines haccepted htruncates hzero =>
    apply iff_of_false Bool.false_ne_true
    simp [haccepted, htruncates, hzero]
  | tooLarge message haccepted hlines hlarge =>
    exact iff_of_true rfl (.inr ⟨hlines, fun hshape => absurd hlarge hshape⟩)
  | outside haccepted hlines hshape houtside =>
    apply iff_of_false Bool.false_ne_true
    rintro (hunset | ⟨-, hinside⟩)
    · exact haccepted hunset
    · have := hinside hshape
      omega
  | done bytes haccepted hlines hshape hbody hroom hlength =>
    exact iff_of_true hlength.le (.inr ⟨hlines, fun _ => ⟨hbody, hroom⟩⟩)

/-- Without room for a header `setShape` always throws. -/
theorem ImageLayout.of_small (hsmall : capacity < M.headerSize) :
    M.Truncates capacity h ∧ M.IsTooLarge capacity h := by
  rw [ImageLayout.isTooLarge_iff_lt, ImageLayout.Truncates, ImageLayout.lengthForShape,
    ImageLayout.lengthForShape]
  omega

theorem bytesPerLine_ne_zero_iff :
    ImageLayout.bytesPerLine h ≠ 0 ↔ h.width.toNat * h.bpp.toNat % 2 ^ 32 ≠ 0 := by
  rw [← ImageLayout.toNat_bytesPerLine, ne_eq, ← UInt32.toNat_inj, UInt32.toNat_zero]

theorem endsWell_set_iff_isConvertible (hlt : capacity < 2 ^ 64) :
    EndsWell (fun bytes => bytes.length ≤ capacity) (M.set capacity h body) ↔
      M.getImgFormat h = .unset ∨
        if capacity < M.headerSize then h.width.toNat * h.bpp.toNat % 2 ^ 32 ≠ 0
        else h.IsConvertible (M.getImgFormat h).bytesPerPixel (capacity - M.headerSize)
          body.length := by
  rw [endsWell_set_iff, bytesPerLine_ne_zero_iff]
  apply or_congr_right
  split
  · rename_i hsmall
    obtain ⟨htruncates, hlarge⟩ := ImageLayout.of_small (M := M) (h := h) hsmall
    simp [htruncates, hlarge]
  · rename_i hcap
    rw [not_lt] at hcap
    unfold IMH.IsConvertible
    dsimp only
    by_cases htruncates : M.Truncates capacity h
    · have hroom := (ImageLayout.truncates_iff hcap).mp htruncates
      have hcopied := ImageLayout.copied_le_room hcap hlt htruncates
      rw [if_neg (by omega), ImageLayout.isTooLarge_iff hcap, ImageLayout.copied_eq,
        ImageLayout.useLines_of_truncates hcap hlt htruncates, not_lt]
      rw [ImageLayout.copied_eq, ImageLayout.useLines_of_truncates hcap hlt htruncates] at hcopied
      have hinside (lines : ℕ) (hle : lines ≤ capacity - M.headerSize) :
          M.headerSize + lines ≤ capacity := by omega
      simp only [htruncates, forall_const, hinside _ hcopied, and_true]
    · have hroom := mt (ImageLayout.truncates_iff hcap).mpr htruncates
      have hshape := ImageLayout.not_isTooLarge_of_fits htruncates
      rw [if_pos (by omega), ImageLayout.copied_of_fits htruncates]
      simp only [htruncates, hshape, not_false_eq_true, forall_const, false_imp_iff, true_and]
      omega

end Images

section Classes
variable {C : Conversions} {M : ImageLayout} {typeOf : ℤ → DoocsType} {U : UserType}
  {a : RegisterAccessor U} {dst : EqData}

theorem endsWell_error {α β : Type} {expected : α → Prop} {expected' : β → Prop} {e : Failure} :
    EndsWell expected (.error e) ↔ EndsWell expected' (.error e) := by
  cases e <;> rfl

/-- Values which fit into the buffer leave it at its size. -/
theorem endsWell_doPostRead_iff {n : ℕ} :
    (∀ buffer : List U.Val, buffer.length = n →
      EndsWell (fun filled => filled.length = n) (doPostRead C M a dst buffer)) ↔
      EndsWell (fun values => values.length ≤ n) (postReadValues C M a dst) := by
  unfold doPostRead
  cases h : postReadValues C M a dst with
  | error e =>
    exact ⟨fun hall => endsWell_error.mp (hall (List.replicate n U.zero) List.length_replicate),
      fun h _ _ => endsWell_error.mp h⟩
  | ok values =>
    simp only [Except.map, EndsWell, List.length_append, List.length_drop]
    constructor
    · intro hall
      have hfilled := hall (List.replicate n U.zero) List.length_replicate
      rw [List.length_replicate] at hfilled
      omega
    · intro hle buffer hbuffer
      omega

theorem endsWell_fieldValues_iff {field : Field} {n : ℕ} {p : Payload} :
    EndsWell (fun values => values.length ≤ n) (fieldValues C U field p) ↔ p.type = .ifff ∧ 0 < n := by
  by_cases hifff : p.type = .ifff
  · obtain ⟨i1, f1, f2, f3, rfl⟩ := Payload.ifff_of_type hifff
    simp only [hifff, true_and]
    exact Nat.succ_le_iff
  · refine iff_of_false (fun h => hifff ?_) (fun h => hifff h.1)
    cases p with
    | ifff => rfl
    | _ => cases h

theorem endsWell_imageValues_iff {n : ℕ} {p : Payload} (hlt : n < 2 ^ 64) :
    EndsWell (fun bytes => bytes.length ≤ n) (imageValues M n p) ↔
      ∃ h body, p = .image h body ∧ (M.getImgFormat h = .unset ∨
        if n < M.headerSize then h.width.toNat * h.bpp.toNat % 2 ^ 32 ≠ 0
        else h.IsConvertible (M.getImgFormat h).bytesPerPixel (n - M.headerSize) body.length) := by
  constructor
  · intro h
    cases p with
    | image header body => exact ⟨header, body, rfl, (endsWell_set_iff_isConvertible hlt).mp h⟩
    | _ => cases h
  · rintro ⟨header, body, rfl, h⟩
    exact (endsWell_set_iff_isConvertible hlt).mpr h

theorem wordsOf_pos {args : Arguments} {n : ℕ} (hn : 0 < n) : 0 < wordsOf args n := by
  unfold wordsOf
  split
  · exact hn
  · omega

/-- A string is one element. -/
theorem bufferLength_pos_of_string {kind : Kind .string} {args : Arguments}
    {b : RegisterAccessor .string} (h : construct M typeOf kind args = .ok b)
    (hk : b.kind = .string) : 0 < b.bufferLength := by
  obtain ⟨useZMQ, info, shape, -, hshape, -, hc⟩ := construct_ok h
  obtain ⟨rfl, -⟩ | ⟨rfl, field, hf⟩ := checkKind_ok hc
  · obtain rfl : kind = .string := hk
    have hone : shape.2 = .text ∨ shape.2 = .string → shape.1 = 1 := by
      unfold actualShape at hshape
      cases hs : reportedShape M typeOf (kindArguments .string args) info with
      | error e =>
        rw [hs] at hshape
        cases hshape
      | ok s =>
        rw [hs] at hshape
        cases hshape
        dsimp only
        split
        · exact fun _ => rfl
        · rename_i htext
          exact fun h => absurd h htext
    have htype : shape.2 = .text ∨ shape.2 = .string := by
      by_contra htype
      simp [checkKind, initialised, not_or.mp htype] at hc
    exact wordsOf_pos (by rw [hone htype]; exact Nat.one_pos)
  · obtain rfl : kind = .ifff field := hf
    cases hk

/-- What the values of a read do to the buffer, for each class. -/
theorem endsWell_postReadValues_iff (r : BufferedAccessor M typeOf U) :
    EndsWell (fun values => values.length ≤ r.accessor.bufferLength)
      (postReadValues C M r.accessor dst) ↔ Accepts M r.accessor dst.payload := by
  obtain ⟨a, hconstructed, hlt⟩ := r
  obtain ⟨kind, args, hconstruct⟩ := hconstructed
  let b : Constructed M typeOf U := ⟨a, kind, args, hconstruct⟩
  have hsame := Constructed.bufferLength_eq b
  have hone := Constructed.bufferLength_eq_one b
  obtain ⟨kind', path, nElements, elementOffset, isArray, isPartial, useZMQ, bufferLength, src⟩ := a
  dsimp only [b] at hsame hone
  cases kind' with
  | numeric => exact endsWell_numericValues_iff (hsame (by simp))
  | iiii => exact endsWell_numericValues_iff (hsame (by simp))
  | ifff field => exact endsWell_fieldValues_iff
  | string => exact iff_of_true (bufferLength_pos_of_string hconstruct rfl) trivial
  | image => exact endsWell_imageValues_iff hlt
  | eventId => exact iff_of_true (hone (.inl rfl)).ge trivial
  | timeStamp => exact iff_of_true (hone (.inr rfl)).ge trivial

theorem accepts_ifff {field : Field} {p : Payload} (hk : a.kind = .ifff field) :
    Accepts M a p ↔ p.type = .ifff ∧ 0 < a.bufferLength := by
  unfold Accepts
  rw [hk]

/-- The read-modify-write of a field finds the structure in the same replies. -/
theorem endsWell_ifffPreWrite_iff {field : Field} {s : WriteState} {src : Payload}
    {buffer : List U.Val} (hread : doReadTransferSynchronously C a s = .ok s.dst) :
    EndsWell (fun _ => True) (ifffPreWrite C field a s src buffer) ↔
      s.dst.type = .ifff ∧ 0 < buffer.length := by
  rw [ifffPreWrite, hread, ok_bind]
  cases buffer with
  | nil =>
    refine iff_of_false ?_ (by simp)
    cases s.dst <;> exact Bool.false_ne_true
  | cons v vs =>
    by_cases hifff : s.dst.type = .ifff
    · obtain ⟨i1, f1, f2, f3, hdst⟩ := Payload.ifff_of_type hifff
      rw [hdst]
      exact iff_of_true trivial ⟨rfl, Nat.succ_pos _⟩
    · refine iff_of_false (fun h => hifff ?_) (fun h => hifff h.1)
      cases hdst : s.dst with
      | ifff => rfl
      | _ =>
        rw [hdst] at h
        cases h

end Classes

/-- A read ends well for exactly the replies its class can deal with: for numbers unless the sum of
length and offset has an overflow, for fields only where the reply is an IFFF, for images only where
the reply is an image with suitable sizes. -/
theorem post_read_defined_iff (K : EqDataLibrary) (C : Conversions) {M : ImageLayout}
    {typeOf : ℤ → DoocsType} {U : UserType} (r : BufferedAccessor M typeOf U) (dst : EqData) :
    IsDefinedFor K C M r.accessor dst ↔ Accepts M r.accessor dst.payload := by
  constructor
  · intro h
    exact (endsWell_postReadValues_iff r).mp (endsWell_doPostRead_iff.mp h.read)
  · intro h
    refine ⟨endsWell_doPostRead_iff.mpr ((endsWell_postReadValues_iff r).mpr h), ?_⟩
    intro field hk s src buffer hbuffer hdst hread
    rw [accepts_ifff hk, ← hdst, ← hbuffer] at h
    rw [kindPreWrite_ifff hk]
    exact (endsWell_ifffPreWrite_iff hread).mpr h

/-- The field F1 of an IFFF. -/
def limitsArguments : Arguments where
  path := "FACILITY/DEVICE/LOCATION/LIMITS".toList
  numberOfWords := 1
  wordOffsetInRegister := 0
  flags := {}
  info := some ⟨"/LOCATION/LIMITS/F1".toList, 1,
    Catalogue.DoocsBackendRegisterCatalogue.floatingPoint, {}, Catalogue.plainLibraries.id .ifff,
    true, true⟩
  isOpen := true
  rc := .ok
  dst := .ifff 0 0 0 0
  attachError := none
  numberOfWords_lt := Arguments.one_lt
  wordOffset_lt := Arguments.zero_lt

def limitsAccessor : BufferedAccessor plainImageLayout Catalogue.plainLibraries.type .float where
  accessor :=
    { initialised plainImageLayout (.ifff .f1) limitsArguments false (4, .ifff) with nElements := 1 }
  constructed := ⟨.ifff .f1, limitsArguments, rfl⟩
  bufferLength_lt := Arguments.one_lt

/-- The reply of a server whose data are stale. -/
def staleReply : EqData := ⟨.null, 150, 0, 0⟩

/-- The null pointer `get_ifff` gives is read through. -/
theorem not_post_read_defined :
    ¬ IsDefinedFor plainEqData plainConversions plainImageLayout limitsAccessor.accessor staleReply := by
  intro h
  exact Bool.false_ne_true (h.read [0#32] rfl)

end DoocsBackend.Accessor
