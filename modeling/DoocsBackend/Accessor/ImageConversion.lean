import DoocsBackend.Accessor.Image
import DoocsBackend.Library.Range

/-! # Safe image conversions

The sizes `MappedDoocsImgIn::set` computes for any header and any buffer, and the image it leaves
in the buffer.
-/
namespace DoocsBackend.Accessor

/-- The buffer of an accessor which has room for the header of an image. -/
structure ImageBuffer (M : ImageLayout) where
  bytes : List UInt8
  headerSize_le : M.headerSize ≤ bytes.length
  length_lt : bytes.length < 2 ^ 64

/-- An image of an accepted format, with a body of `width * height * bpp` bytes. -/
structure Picture (M : ImageLayout) where
  header : IMH
  body : List UInt8
  accepted : M.getImgFormat header ≠ .unset
  length_body : body.length = header.width.toNat * header.height.toNat * header.bpp.toNat

/-- What `MappedDoocsImgIn::set` computes. -/
structure Conversion where
  divisors : List ℕ
  /-- What is subtracted from what in the subtractions of unsigned numbers. -/
  subtractions : List (ℕ × ℕ)
  copied : ℕ
  zeroFilled : ℕ

/-- No division by zero, no subtraction which wraps, and all bytes of the room behind the header are
written, none beyond. -/
structure Conversion.IsSafe (c : Conversion) (room bodyLength : ℕ) : Prop where
  divisors : ∀ d ∈ c.divisors, d ≠ 0
  subtractions : ∀ x ∈ c.subtractions, x.1 ≤ x.2
  copied_le_room : c.copied ≤ room
  copied_le_body : c.copied ≤ bodyLength
  filled : c.copied + c.zeroFilled = room

namespace ImageLayout
variable (M : ImageLayout)

/-- The divisions, subtractions and block sizes of `MappedDoocsImgIn::set` for an accepted format;
nothing is copied where `setShape` throws. -/
def conversion (capacity : ℕ) (h : IMH) : Conversion where
  divisors := if M.Truncates capacity h then [(bytesPerLine h).toNat] else []
  subtractions :=
    (if M.Truncates capacity h then [(M.headerSize, capacity)] else []) ++
      if M.IsTooLarge capacity h then []
      else [(M.headerSize, capacity), (M.copied capacity h, sizeSub capacity M.headerSize)]
  copied := if M.IsTooLarge capacity h then 0 else M.copied capacity h
  zeroFilled :=
    if M.IsTooLarge capacity h then 0
    else sizeSub (sizeSub capacity M.headerSize) (M.copied capacity h)

/-- `MappedDoocsImgIn::set` as it writes into the buffer: the header, the lines with `memcpy` and the
zeros with `memset`. -/
def setInto (buffer : List UInt8) (h : IMH) (body : List UInt8) : Except Failure (List UInt8) :=
  let capacity := buffer.length
  let copied := M.copied capacity h
  if M.getImgFormat h = .unset then
    .error (.logicError "MappedDoocsImgIn: unsupported image input".toList)
  else if M.Truncates capacity h ∧ bytesPerLine h = 0 then .error .undefined
  else if M.IsTooLarge capacity h then
    .error (.logicError "MappedImage: provided buffer to small for requested image shape".toList)
  else if body.length < copied ∨ capacity < M.headerSize + copied then .error .undefined
  else
    let buffer := Range.overwrite 0 (M.headerBytes (M.shape capacity h)) buffer
    let buffer := Range.overwrite M.headerSize (body.take copied) buffer
    .ok (Range.overwrite (M.headerSize + copied)
      (List.replicate (sizeSub (sizeSub capacity M.headerSize) copied) 0) buffer)

end ImageLayout

/-- Whether the header can be converted into a buffer with the given room behind its own header. -/
def IMH.FitsInto (h : IMH) (bytesPerPixel room : ℕ) : Prop :=
  let width := h.width.toNat
  let line := width * h.bpp.toNat % 2 ^ 32
  if width * h.height.toNat * bytesPerPixel ≤ room then
    width * h.height.toNat * h.bpp.toNat % 2 ^ 32 ≤ room
  else line ≠ 0 ∧ width * (room / line % 2 ^ 32) * bytesPerPixel ≤ room

section Sizes
variable {M : ImageLayout} {capacity : ℕ} {h : IMH}

theorem sizeSub_of_le {a b : ℕ} (hba : b ≤ a) (ha : a < 2 ^ 64) : sizeSub a b = a - b := by
  unfold sizeSub
  omega

theorem ImageLayout.truncates_iff (hcap : M.headerSize ≤ capacity) :
    M.Truncates capacity h ↔ capacity - M.headerSize <
      h.width.toNat * h.height.toNat * (M.getImgFormat h).bytesPerPixel := by
  unfold ImageLayout.Truncates ImageLayout.lengthForShape
  omega

theorem ImageLayout.isTooLarge_iff (hcap : M.headerSize ≤ capacity) :
    M.IsTooLarge capacity h ↔ capacity - M.headerSize <
      h.width.toNat * (M.useLines capacity h).toNat * (M.getImgFormat h).bytesPerPixel := by
  rw [ImageLayout.isTooLarge_iff_lt, ImageLayout.lengthForShape]
  omega

theorem ImageLayout.toNat_bytesPerLine :
    (ImageLayout.bytesPerLine h).toNat = h.width.toNat * h.bpp.toNat % 2 ^ 32 := by
  rw [ImageLayout.bytesPerLine, UInt32.toNat_mul]

theorem ImageLayout.copied_eq :
    M.copied capacity h =
      (M.useLines capacity h).toNat * (h.width.toNat * h.bpp.toNat % 2 ^ 32) % 2 ^ 32 := by
  rw [ImageLayout.copied, UInt32.toNat_mul, ImageLayout.toNat_bytesPerLine]

theorem ImageLayout.useLines_of_fits (hfits : ¬ M.Truncates capacity h) :
    M.useLines capacity h = h.height := if_neg hfits

theorem ImageLayout.useLines_of_truncates (hcap : M.headerSize ≤ capacity) (hlt : capacity < 2 ^ 64)
    (htruncates : M.Truncates capacity h) :
    (M.useLines capacity h).toNat =
      (capacity - M.headerSize) / (h.width.toNat * h.bpp.toNat % 2 ^ 32) % 2 ^ 32 := by
  rw [ImageLayout.useLines, if_pos htruncates, sizeSub_of_le hcap hlt, ImageLayout.toNat_bytesPerLine,
    UInt32.toNat_ofNat']

/-- A whole image takes the bytes its header announces, modulo 2^32. -/
theorem ImageLayout.copied_of_fits (hfits : ¬ M.Truncates capacity h) :
    M.copied capacity h = h.width.toNat * h.height.toNat * h.bpp.toNat % 2 ^ 32 := by
  rw [ImageLayout.copied_eq, ImageLayout.useLines_of_fits hfits, Nat.mul_mod_mod]
  congr 1
  ring

theorem ImageLayout.not_isTooLarge_of_fits (hfits : ¬ M.Truncates capacity h) :
    ¬ M.IsTooLarge capacity h := by
  rw [ImageLayout.isTooLarge_iff_lt]
  rwa [ImageLayout.useLines_of_fits hfits]

/-- Some lines of an image never take more than the room they have been counted for. -/
theorem ImageLayout.copied_le_room (hcap : M.headerSize ≤ capacity) (hlt : capacity < 2 ^ 64)
    (htruncates : M.Truncates capacity h) : M.copied capacity h ≤ capacity - M.headerSize := by
  rw [ImageLayout.copied_eq, ImageLayout.useLines_of_truncates hcap hlt htruncates]
  calc
    _ ≤ (capacity - M.headerSize) / (h.width.toNat * h.bpp.toNat % 2 ^ 32) % 2 ^ 32 *
        (h.width.toNat * h.bpp.toNat % 2 ^ 32) := Nat.mod_le _ _
    _ ≤ (capacity - M.headerSize) / (h.width.toNat * h.bpp.toNat % 2 ^ 32) *
        (h.width.toNat * h.bpp.toNat % 2 ^ 32) := Nat.mul_le_mul_right _ (Nat.mod_le _ _)
    _ ≤ capacity - M.headerSize := Nat.div_mul_le_self _ _

end Sizes

/-! ## Which headers are converted safely -/

section Safety
variable {M : ImageLayout} {capacity : ℕ}

/-- A truncated image which passes `setShape` has fewer lines than the one of the server. -/
theorem Picture.copied_le_body (p : Picture M) (hcap : M.headerSize ≤ capacity)
    (hfits : ¬ M.IsTooLarge capacity p.header) :
    M.copied capacity p.header ≤ p.body.length := by
  rw [p.length_body]
  by_cases htruncates : M.Truncates capacity p.header
  · rw [ImageLayout.isTooLarge_iff hcap, not_lt] at hfits
    rw [ImageLayout.truncates_iff hcap] at htruncates
    have hlines : (M.useLines capacity p.header).toNat ≤ p.header.height.toNat := by
      by_contra hmore
      have hle : p.header.width.toNat * p.header.height.toNat ≤
          p.header.width.toNat * (M.useLines capacity p.header).toNat :=
        Nat.mul_le_mul_left _ (by omega)
      exact absurd (Nat.mul_le_mul_right (M.getImgFormat p.header).bytesPerPixel hle) (by omega)
    rw [ImageLayout.copied_eq]
    calc
      _ ≤ (M.useLines capacity p.header).toNat *
          (p.header.width.toNat * p.header.bpp.toNat % 2 ^ 32) := Nat.mod_le _ _
      _ ≤ p.header.height.toNat * (p.header.width.toNat * p.header.bpp.toNat) :=
        Nat.mul_le_mul hlines (Nat.mod_le _ _)
      _ = p.header.width.toNat * p.header.height.toNat * p.header.bpp.toNat := by ring
  · rw [ImageLayout.copied_of_fits htruncates]
    exact Nat.mod_le _ _

theorem isSafe_of_fits_iff (p : Picture M) (hcap : M.headerSize ≤ capacity) (hlt : capacity < 2 ^ 64)
    (hfits : ¬ M.Truncates capacity p.header) :
    (M.conversion capacity p.header).IsSafe (capacity - M.headerSize) p.body.length ↔
      M.copied capacity p.header ≤ capacity - M.headerSize := by
  have hshape := ImageLayout.not_isTooLarge_of_fits hfits
  have hroom := sizeSub_of_le hcap hlt
  refine ⟨fun h => by simpa [ImageLayout.conversion, hshape] using h.copied_le_room, fun h => ?_⟩
  have hzeros := sizeSub_of_le h (by omega)
  constructor
  · simp [ImageLayout.conversion, hfits]
  · simpa [ImageLayout.conversion, hfits, hshape, hroom] using ⟨hcap, h⟩
  · simpa [ImageLayout.conversion, hshape] using h
  · simpa [ImageLayout.conversion, hshape] using p.copied_le_body hcap hshape
  · simp only [ImageLayout.conversion, if_neg hshape, hroom, hzeros]
    omega

/-- An image without room for all lines needs a size for its lines, and room for its pixels. -/
theorem isSafe_of_truncates_iff (p : Picture M) (hcap : M.headerSize ≤ capacity)
    (hlt : capacity < 2 ^ 64) (htruncates : M.Truncates capacity p.header) :
    (M.conversion capacity p.header).IsSafe (capacity - M.headerSize) p.body.length ↔
      (ImageLayout.bytesPerLine p.header).toNat ≠ 0 ∧ ¬ M.IsTooLarge capacity p.header := by
  have hroom := sizeSub_of_le hcap hlt
  constructor
  · intro h
    refine ⟨h.divisors _ (by simp [ImageLayout.conversion, htruncates]), fun hlarge => ?_⟩
    -- nothing is filled although there is room behind the header
    have hfilled := h.filled
    simp only [ImageLayout.conversion, if_pos hlarge] at hfilled
    rw [ImageLayout.isTooLarge_iff hcap, ImageLayout.useLines_of_truncates hcap hlt htruncates,
      ← hfilled] at hlarge
    simp at hlarge
  · rintro ⟨hline, hshape⟩
    have hcopied := ImageLayout.copied_le_room hcap hlt htruncates
    have hzeros := sizeSub_of_le hcopied (by omega)
    constructor
    · simpa [ImageLayout.conversion, htruncates] using hline
    · simpa [ImageLayout.conversion, htruncates, hshape, hroom] using ⟨hcap, hcopied⟩
    · simpa [ImageLayout.conversion, hshape] using hcopied
    · simpa [ImageLayout.conversion, hshape] using p.copied_le_body hcap hshape
    · simp only [ImageLayout.conversion, if_neg hshape, hroom, hzeros]
      omega

theorem converts_safely_iff (M : ImageLayout) (b : ImageBuffer M) (p : Picture M) :
    (M.conversion b.bytes.length p.header).IsSafe (b.bytes.length - M.headerSize) p.body.length ↔
      p.header.FitsInto (M.getImgFormat p.header).bytesPerPixel (b.bytes.length - M.headerSize) := by
  have hcap := b.headerSize_le
  unfold IMH.FitsInto
  dsimp only
  by_cases htruncates : M.Truncates b.bytes.length p.header
  · have hroom := (ImageLayout.truncates_iff hcap).mp htruncates
    rw [isSafe_of_truncates_iff p hcap b.length_lt htruncates, if_neg (by omega),
      ImageLayout.toNat_bytesPerLine, ImageLayout.isTooLarge_iff hcap,
      ImageLayout.useLines_of_truncates hcap b.length_lt htruncates, not_lt]
  · have hroom := mt (ImageLayout.truncates_iff hcap).mpr htruncates
    rw [isSafe_of_fits_iff p hcap b.length_lt htruncates, if_pos (by omega),
      ImageLayout.copied_of_fits htruncates]

/-- A header of a pixel of 24 bits which comes in 32 bits. -/
def widePixelHeader : IMH := ⟨1, 1, 4, 24, plainImageLayout.ttf2ImageFormatRgb, 0, 0, 0, 0, 0⟩

theorem widePixelHeader_accepted : plainImageLayout.getImgFormat widePixelHeader ≠ .unset := by
  decide

theorem widePixelHeader_length : [1, 2, 3, 4].length = widePixelHeader.width.toNat *
    widePixelHeader.height.toNat * widePixelHeader.bpp.toNat := rfl

def widePixel : Picture plainImageLayout where
  header := widePixelHeader
  body := [1, 2, 3, 4]
  accepted := widePixelHeader_accepted
  length_body := widePixelHeader_length

theorem onePixel_length : plainImageLayout.headerSize ≤ (List.replicate 67 (0 : UInt8)).length ∧
    (List.replicate 67 (0 : UInt8)).length < 2 ^ 64 := by decide

/-- The room the pixel takes in a mapped image. -/
def onePixel : ImageBuffer plainImageLayout where
  bytes := List.replicate 67 0
  headerSize_le := onePixel_length.1
  length_lt := onePixel_length.2

/-- Four bytes are copied into the three behind the header. -/
theorem not_converts_safely :
    ¬ (plainImageLayout.conversion onePixel.bytes.length widePixel.header).IsSafe
      (onePixel.bytes.length - plainImageLayout.headerSize) widePixel.body.length :=
  fun h => absurd h.copied_le_room (by decide)

end Safety

/-! ## What is left in the buffer -/

section Truncation
variable {M : ImageLayout} {h : IMH} {body buffer : List UInt8}

theorem ImageLayout.setInto_ok_iff : (∃ bytes, M.setInto buffer h body = .ok bytes) ↔
    M.getImgFormat h ≠ .unset ∧
      ¬ (M.Truncates buffer.length h ∧ ImageLayout.bytesPerLine h = 0) ∧
      ¬ M.IsTooLarge buffer.length h ∧ M.copied buffer.length h ≤ body.length ∧
      M.headerSize + M.copied buffer.length h ≤ buffer.length := by
  unfold ImageLayout.setInto
  dsimp only
  split
  · rename_i hunset
    simp [hunset]
  · rename_i haccepted
    split
    · rename_i hzero
      simp [hzero]
    · rename_i hnonzero
      split
      · rename_i hlarge
        simp [hlarge]
      · rename_i hshape
        split
        · rename_i houtside
          simp only [reduceCtorEq, exists_false, false_iff]
          omega
        · rename_i hinside
          rw [not_or, not_lt, not_lt] at hinside
          exact iff_of_true ⟨_, rfl⟩ ⟨haccepted, hnonzero, hshape, hinside⟩

/-- The header, the lines and the zeros make up the whole buffer. -/
theorem ImageLayout.setInto_eq_set (b : ImageBuffer M) :
    M.setInto b.bytes h body = M.set b.bytes.length h body := by
  have hcap := b.headerSize_le
  have hroom := sizeSub_of_le hcap b.length_lt
  unfold ImageLayout.setInto ImageLayout.set
  dsimp only
  split
  · rfl
  · split
    · rfl
    · split
      · rfl
      · split
        · rfl
        · rename_i hinside
          rw [not_or, not_lt, not_lt] at hinside
          have hheader := M.headerBytes_length (M.shape b.bytes.length h)
          have hlines : (body.take (M.copied b.bytes.length h)).length = M.copied b.bytes.length h :=
            List.length_take_of_le hinside.1
          have hlt := b.length_lt
          have hzeros : sizeSub (b.bytes.length - M.headerSize) (M.copied b.bytes.length h) =
              b.bytes.length - M.headerSize - M.copied b.bytes.length h :=
            sizeSub_of_le (by omega) (by omega)
          have hparts : Range.overwrite
              ((M.headerBytes (M.shape b.bytes.length h)).length +
                (body.take (M.copied b.bytes.length h)).length)
              (List.replicate (b.bytes.length - M.headerSize - M.copied b.bytes.length h) 0)
              (Range.overwrite (M.headerBytes (M.shape b.bytes.length h)).length
                (body.take (M.copied b.bytes.length h))
                (Range.overwrite 0 (M.headerBytes (M.shape b.bytes.length h)) b.bytes)) = _ :=
            Range.overwrite_parts (by rw [hheader, hlines, List.length_replicate]; omega)
          rw [hheader, hlines] at hparts
          rw [hroom, hzeros, hparts]

/-- A conversion is safe if and only if it fills the buffer. -/
theorem isSafe_iff_setInto (b : ImageBuffer M) (p : Picture M) :
    (M.conversion b.bytes.length p.header).IsSafe (b.bytes.length - M.headerSize) p.body.length ↔
      ∃ bytes, M.setInto b.bytes p.header p.body = .ok bytes := by
  have hcap := b.headerSize_le
  rw [ImageLayout.setInto_ok_iff]
  by_cases htruncates : M.Truncates b.bytes.length p.header
  · rw [isSafe_of_truncates_iff p hcap b.length_lt htruncates]
    have hzero : ImageLayout.bytesPerLine p.header = 0 ↔
        (ImageLayout.bytesPerLine p.header).toNat = 0 := by
      rw [← UInt32.toNat_inj]
      rfl
    constructor
    · rintro ⟨hline, hshape⟩
      have hroom := ImageLayout.copied_le_room hcap b.length_lt htruncates
      exact ⟨p.accepted, fun hz => hline (hzero.mp hz.2), hshape, p.copied_le_body hcap hshape,
        by omega⟩
    · rintro ⟨-, hline, hshape, -⟩
      exact ⟨fun hz => hline ⟨htruncates, hzero.mpr hz⟩, hshape⟩
  · rw [isSafe_of_fits_iff p hcap b.length_lt htruncates]
    have hshape := ImageLayout.not_isTooLarge_of_fits htruncates
    constructor
    · intro hroom
      exact ⟨p.accepted, fun hz => htruncates hz.1, hshape, p.copied_le_body hcap hshape, by omega⟩
    · rintro ⟨-, -, -, -, hroom⟩
      omega

/-- An image whose `bpp` is the one of its format, with sizes which fit into 32 bits. -/
structure RegularPicture (M : ImageLayout) extends Picture M where
  bpp_eq : header.bpp.toNat = (M.getImgFormat header).bytesPerPixel
  width_pos : 0 < header.width.toNat
  line_lt : header.width.toNat * header.bpp.toNat < 2 ^ 32
  size_lt : header.width.toNat * header.height.toNat * header.bpp.toNat < 2 ^ 32

namespace RegularPicture
variable (p : RegularPicture M) (capacity : ℕ)

def lineSize : ℕ := p.header.width.toNat * p.header.bpp.toNat

/-- The lines for which there is room. -/
def lines : ℕ := min p.header.height.toNat ((capacity - M.headerSize) / p.lineSize)

/-- The header of the mapped image. -/
def mappedHeader : ImgHeader where
  width := p.header.width.toNat
  height := p.lines capacity
  imageFormat := M.getImgFormat p.header
  effBitsPerPixel := p.header.ebitpp
  frame := p.header.frame
  xStart := p.header.xStart
  yStart := p.header.yStart
  scaleX := p.header.scaleX
  scaleY := p.header.scaleY

theorem lineSize_pos : 0 < p.lineSize := by
  apply Nat.mul_pos p.width_pos
  rw [p.bpp_eq]
  have haccepted := p.accepted
  cases hformat : M.getImgFormat p.header with
  | unset => exact absurd hformat haccepted
  | _ => simp [ImgFormat.bytesPerPixel]

theorem size_eq : p.header.width.toNat * p.header.height.toNat * p.header.bpp.toNat =
    p.header.height.toNat * p.lineSize := by
  rw [lineSize]
  ring

variable {capacity}

theorem truncates_iff (hcap : M.headerSize ≤ capacity) :
    M.Truncates capacity p.header ↔ capacity - M.headerSize < p.header.height.toNat * p.lineSize := by
  rw [ImageLayout.truncates_iff hcap, ← p.bpp_eq, p.size_eq]

theorem toNat_useLines (hcap : M.headerSize ≤ capacity) (hlt : capacity < 2 ^ 64) :
    (M.useLines capacity p.header).toNat = p.lines capacity := by
  have hpos := p.lineSize_pos
  unfold lines
  by_cases htruncates : M.Truncates capacity p.header
  · have hroom := (p.truncates_iff hcap).mp htruncates
    have hfew : (capacity - M.headerSize) / p.lineSize < p.header.height.toNat :=
      Nat.div_lt_of_lt_mul (by rwa [Nat.mul_comm])
    rw [ImageLayout.useLines_of_truncates hcap hlt htruncates, Nat.mod_eq_of_lt p.line_lt,
      ← lineSize, Nat.min_eq_right hfew.le]
    exact Nat.mod_eq_of_lt (hfew.trans p.header.height.toNat_lt)
  · have hroom := mt (p.truncates_iff hcap).mpr htruncates
    rw [ImageLayout.useLines_of_fits htruncates,
      Nat.min_eq_left ((Nat.le_div_iff_mul_le hpos).mpr (by omega))]

theorem lines_mul_le (capacity : ℕ) : p.lines capacity * p.lineSize ≤ capacity - M.headerSize :=
  (Nat.mul_le_mul_right _ (Nat.min_le_right _ _)).trans (Nat.div_mul_le_self _ _)

theorem lines_mul_le_size (capacity : ℕ) :
    p.lines capacity * p.lineSize ≤
      p.header.width.toNat * p.header.height.toNat * p.header.bpp.toNat := by
  rw [p.size_eq]
  exact Nat.mul_le_mul_right _ (Nat.min_le_left _ _)

theorem copied_eq (hcap : M.headerSize ≤ capacity) (hlt : capacity < 2 ^ 64) :
    M.copied capacity p.header = p.lines capacity * p.lineSize := by
  rw [ImageLayout.copied_eq, p.toNat_useLines hcap hlt, Nat.mod_eq_of_lt p.line_lt, ← lineSize,
    Nat.mod_eq_of_lt ((p.lines_mul_le_size capacity).trans_lt p.size_lt)]

theorem not_isTooLarge (hcap : M.headerSize ≤ capacity) (hlt : capacity < 2 ^ 64) :
    ¬ M.IsTooLarge capacity p.header := by
  rw [ImageLayout.isTooLarge_iff hcap, p.toNat_useLines hcap hlt, ← p.bpp_eq, not_lt]
  calc
    _ = p.lines capacity * p.lineSize := by rw [lineSize]; ring
    _ ≤ capacity - M.headerSize := p.lines_mul_le capacity

/-- The image left in a buffer of any contents. -/
theorem setInto_eq (b : ImageBuffer M) :
    M.setInto b.bytes p.header p.body = .ok (M.headerBytes (p.mappedHeader b.bytes.length) ++
      p.body.take (p.lines b.bytes.length * p.lineSize) ++
        List.replicate (b.bytes.length - M.headerSize - p.lines b.bytes.length * p.lineSize) 0) := by
  have hcap := b.headerSize_le
  have hlt := b.length_lt
  have hbody := p.length_body
  have hcopied := p.copied_eq hcap hlt
  have hroom := p.lines_mul_le b.bytes.length
  have hsize := p.lines_mul_le_size b.bytes.length
  have hline : ImageLayout.bytesPerLine p.header ≠ 0 := by
    intro hzero
    have hnat := congrArg UInt32.toNat hzero
    rw [ImageLayout.toNat_bytesPerLine, Nat.mod_eq_of_lt p.line_lt] at hnat
    exact absurd hnat p.lineSize_pos.ne'
  rw [ImageLayout.setInto_eq_set, ImageLayout.set, if_neg p.accepted, if_neg (fun h => hline h.2),
    if_neg (p.not_isTooLarge hcap hlt), hcopied, if_neg (by omega)]
  simp only [ImageLayout.shape, p.toNat_useLines hcap hlt]
  rfl

/-- The lines found in a converted image. -/
theorem lines_of_setInto (b : ImageBuffer M) {bytes : List UInt8}
    (h : M.setInto b.bytes p.header p.body = .ok bytes) :
    (bytes.drop M.headerSize).take (p.lines b.bytes.length * p.lineSize) =
      p.body.take (p.lines b.bytes.length * p.lineSize) := by
  have hsize := p.lines_mul_le_size b.bytes.length
  have hbody := p.length_body
  rw [p.setInto_eq b, Except.ok.injEq] at h
  subst h
  rw [List.append_assoc, List.drop_left' (M.headerBytes_length _),
    List.take_left' (List.length_take_of_le (by omega))]

end RegularPicture

/-- The image has all lines for which there is room, and nothing else but zeros; a larger buffer
shows the same lines first. -/
theorem truncates_and_pads (M : ImageLayout) (p : RegularPicture M) :
    (∀ b : ImageBuffer M, M.setInto b.bytes p.header p.body =
      .ok (M.headerBytes (p.mappedHeader b.bytes.length) ++
        p.body.take (p.lines b.bytes.length * p.lineSize) ++
          List.replicate (b.bytes.length - M.headerSize - p.lines b.bytes.length * p.lineSize) 0)) ∧
    ∀ (b b' : ImageBuffer M) (bytes bytes' : List UInt8), b.bytes.length ≤ b'.bytes.length →
      M.setInto b.bytes p.header p.body = .ok bytes →
      M.setInto b'.bytes p.header p.body = .ok bytes' →
        (bytes.drop M.headerSize).take (p.lines b.bytes.length * p.lineSize) <+:
          (bytes'.drop M.headerSize).take (p.lines b'.bytes.length * p.lineSize) := by
  refine ⟨p.setInto_eq, fun b b' bytes bytes' hle h h' => ?_⟩
  rw [p.lines_of_setInto b h, p.lines_of_setInto b' h']
  have hlines : p.lines b.bytes.length ≤ p.lines b'.bytes.length :=
    min_le_min le_rfl (Nat.div_le_div_right (Nat.sub_le_sub_right hle _))
  exact List.take_prefix_take_left (Nat.mul_le_mul_right _ hlines)

/-- Two lines of two pixels of 16 bits. -/
def twoLinesHeader : IMH := ⟨2, 2, 2, 16, plainImageLayout.ttf2ImageFormatGray, 0, 0, 0, 0, 0⟩

def twoLines : RegularPicture plainImageLayout where
  header := twoLinesHeader
  body := [1, 2, 3, 4, 5, 6, 7, 8]
  accepted := by decide
  length_body := by decide
  bpp_eq := by decide
  width_pos := by decide
  line_lt := by decide
  size_lt := by decide

/-- The room behind the header is enough for a line and a half. -/
def lineAndHalf : ImageBuffer plainImageLayout where
  bytes := List.replicate 70 255
  headerSize_le := by decide
  length_lt := by decide

/-- The first line is left, and two zeros. -/
theorem truncates_and_pads_twoLines :
    plainImageLayout.setInto lineAndHalf.bytes twoLines.header twoLines.body =
      .ok (plainImageLayout.headerBytes (twoLines.mappedHeader 70) ++ [1, 2, 3, 4] ++ [0, 0]) :=
  (truncates_and_pads plainImageLayout twoLines).1 lineAndHalf

end Truncation

end DoocsBackend.Accessor
