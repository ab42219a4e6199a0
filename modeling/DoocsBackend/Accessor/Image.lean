import DoocsBackend.Accessor.EqData

/-! # DOOCS images as mapped images

`MappedDoocsImgIn::set` writes an image into a byte buffer of fixed size, leaving out
lines which do not fit and filling up with zeros.
-/
namespace DoocsBackend.Accessor

inductive ImgFormat where
  | unset | gray8 | gray16 | rgb24 | rgba32
  deriving DecidableEq, Repr

def ImgFormat.bytesPerPixel : ImgFormat → ℕ
  | .unset => 0
  | .gray8 => 1
  | .gray16 => 2
  | .rgb24 => 3
  | .rgba32 => 4

/-- `ChimeraTK::ImgHeader`. -/
structure ImgHeader where
  width : ℕ
  height : ℕ
  imageFormat : ImgFormat
  effBitsPerPixel : UInt32
  frame : UInt32
  xStart : UInt32
  yStart : UInt32
  scaleX : BitVec 32
  scaleY : BitVec 32
  deriving DecidableEq, Repr

/-- What is used of `ChimeraTK::MappedImage`, and the numbers of the DOOCS image formats. -/
structure ImageLayout where
  headerBytes : ImgHeader → List UInt8
  /-- `sizeof(ImgHeader)`. -/
  headerSize : ℕ
  headerBytes_length : ∀ h, (headerBytes h).length = headerSize
  headerSize_pos : 0 < headerSize
  /-- Whether `setShape` accepts width, height and format for a buffer of the given size; it throws
  otherwise. -/
  setShape : ℕ → ℕ → ℕ → ImgFormat → Bool
  setShape_iff : ∀ capacity width height format, setShape capacity width height format = true ↔
    headerSize + width * height * format.bytesPerPixel ≤ capacity
  ttf2ImageFormatGray : ℕ
  ttf2ImageFormatRgb : ℕ
  ttf2ImageFormatRgba : ℕ

/-- Subtraction of two `size_t` values. -/
def sizeSub (a b : ℕ) : ℕ := (a + 2 ^ 64 - b) % 2 ^ 64

namespace ImageLayout
variable (M : ImageLayout)

def lengthForShape (width height : ℕ) (format : ImgFormat) : ℕ :=
  M.headerSize + width * height * format.bytesPerPixel

def getImgFormat (h : IMH) : ImgFormat :=
  if h.imageFormat = M.ttf2ImageFormatGray then
    if h.bpp = 1 then .gray8 else if h.bpp = 2 then .gray16 else .unset
  else if h.imageFormat = M.ttf2ImageFormatRgb then .rgb24
  else if h.imageFormat = M.ttf2ImageFormatRgba then .rgba32
  else .unset

/-- `useLines * bytesPerLine` bytes make up the body. -/
def bytesPerLine (h : IMH) : UInt32 := h.width * h.bpp

/-- Whether lines have to be left out. -/
def Truncates (capacity : ℕ) (h : IMH) : Prop :=
  capacity < M.lengthForShape h.width.toNat h.height.toNat (M.getImgFormat h)

instance (capacity : ℕ) (h : IMH) : Decidable (M.Truncates capacity h) :=
  inferInstanceAs (Decidable (_ < _))

def useLines (capacity : ℕ) (h : IMH) : UInt32 :=
  if M.Truncates capacity h then
    UInt32.ofNat (sizeSub capacity M.headerSize / (bytesPerLine h).toNat)
  else h.height

/-- Header of the mapped image. -/
def shape (capacity : ℕ) (h : IMH) : ImgHeader where
  width := h.width.toNat
  height := (M.useLines capacity h).toNat
  imageFormat := M.getImgFormat h
  effBitsPerPixel := h.ebitpp
  frame := h.frame
  xStart := h.xStart
  yStart := h.yStart
  scaleX := h.scaleX
  scaleY := h.scaleY

/-- `setShape` throws. -/
def IsTooLarge (capacity : ℕ) (h : IMH) : Prop :=
  M.setShape capacity h.width.toNat (M.useLines capacity h).toNat (M.getImgFormat h) = false

instance (capacity : ℕ) (h : IMH) : Decidable (M.IsTooLarge capacity h) :=
  inferInstanceAs (Decidable (_ = _))

theorem isTooLarge_iff_lt (capacity : ℕ) (h : IMH) : M.IsTooLarge capacity h ↔
    capacity < M.lengthForShape h.width.toNat (M.useLines capacity h).toNat (M.getImgFormat h) := by
  rw [IsTooLarge, ← Bool.not_eq_true, M.setShape_iff, not_le, lengthForShape]

/-- The size of the block handed to `memcpy`. -/
def copied (capacity : ℕ) (h : IMH) : ℕ := (M.useLines capacity h * bytesPerLine h).toNat

/-- The buffer of `capacity` bytes after `MappedDoocsImgIn::set`. Sizes computed in `unsigned`
wrap at 2^32; a division by zero and an access outside the body or the buffer are undefined. -/
def set (capacity : ℕ) (h : IMH) (body : List UInt8) : Except Failure (List UInt8) :=
  if M.getImgFormat h = .unset then
    .error (.logicError "MappedDoocsImgIn: unsupported image input".toList)
  else if M.Truncates capacity h ∧ bytesPerLine h = 0 then .error .undefined
  else if M.IsTooLarge capacity h then
    .error (.logicError "MappedImage: provided buffer to small for requested image shape".toList)
  else if body.length < M.copied capacity h ∨ capacity < M.headerSize + M.copied capacity h then
    .error .undefined
  else .ok (M.headerBytes (M.shape capacity h) ++ body.take (M.copied capacity h) ++
    List.replicate (capacity - M.headerSize - M.copied capacity h) 0)

/-- The ways `MappedDoocsImgIn::set` ends. -/
inductive SetOutcome (capacity : ℕ) (h : IMH) (body : List UInt8) :
    Except Failure (List UInt8) → Prop
  | unsupported (message : Text) (hunset : M.getImgFormat h = .unset) :
    SetOutcome capacity h body (.error (.logicError message))
  | noLines (haccepted : M.getImgFormat h ≠ .unset) (htruncates : M.Truncates capacity h)
      (hzero : bytesPerLine h = 0) : SetOutcome capacity h body (.error .undefined)
  | tooLarge (message : Text) (haccepted : M.getImgFormat h ≠ .unset)
      (hlines : M.Truncates capacity h → bytesPerLine h ≠ 0) (hlarge : M.IsTooLarge capacity h) :
    SetOutcome capacity h body (.error (.logicError message))
  | outside (haccepted : M.getImgFormat h ≠ .unset)
      (hlines : M.Truncates capacity h → bytesPerLine h ≠ 0) (hshape : ¬ M.IsTooLarge capacity h)
      (houtside : body.length < M.copied capacity h ∨ capacity < M.headerSize + M.copied capacity h) :
    SetOutcome capacity h body (.error .undefined)
  | done (bytes : List UInt8) (haccepted : M.getImgFormat h ≠ .unset)
      (hlines : M.Truncates capacity h → bytesPerLine h ≠ 0) (hshape : ¬ M.IsTooLarge capacity h)
      (hbody : M.copied capacity h ≤ body.length)
      (hroom : M.headerSize + M.copied capacity h ≤ capacity) (hlength : bytes.length = capacity) :
    SetOutcome capacity h body (.ok bytes)

theorem set_outcome (capacity : ℕ) (h : IMH) (body : List UInt8) :
    M.SetOutcome capacity h body (M.set capacity h body) := by
  unfold set
  split
  · rename_i hunset
    exact .unsupported _ hunset
  · rename_i haccepted
    split
    · rename_i hzero
      exact .noLines haccepted hzero.1 hzero.2
    · rename_i hlines
      rw [not_and] at hlines
      split
      · rename_i hlarge
        exact .tooLarge _ haccepted hlines hlarge
      · rename_i hshape
        split
        · rename_i houtside
          exact .outside haccepted hlines hshape houtside
        · rename_i hinside
          rw [not_or, not_lt, not_lt] at hinside
          refine .done _ haccepted hlines hshape hinside.1 hinside.2 ?_
          rw [List.length_append, List.length_append, M.headerBytes_length,
            List.length_take_of_le hinside.1, List.length_replicate]
          omega

end ImageLayout

/-- A layout whose headers hold nothing. -/
def plainImageLayout : ImageLayout where
  headerBytes _ := List.replicate 64 0
  headerSize := 64
  headerBytes_length _ := List.length_replicate
  headerSize_pos := by decide
  setShape capacity width height format := decide (64 + width * height * format.bytesPerPixel ≤ capacity)
  setShape_iff _ _ _ _ := decide_eq_true_iff
  ttf2ImageFormatGray := 0
  ttf2ImageFormatRgb := 1
  ttf2ImageFormatRgba := 2

end DoocsBackend.Accessor
