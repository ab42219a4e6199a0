import Mathlib

/-! # Decimal numbers and the prefixes of a text which are read as one

A lenient reader skips white space, takes a sign and the longest run of digits, and ignores
the rest. What it skips and ignores is empty exactly if the text is a decimal number.
-/
namespace Numeral

/-- The parts a lenient reader splits a text into. -/
structure Parts where
  space : List Char
  sign : List Char
  digits : List Char
  rest : List Char

/-- The sign a text starts with, if there is one. -/
def signOf : List Char → List Char
  | '-' :: _ => ['-']
  | '+' :: _ => ['+']
  | _ => []

def parts (isSpace : Char → Bool) (s : List Char) : Parts :=
  let t := s.dropWhile isSpace
  let u := t.drop (signOf t).length
  { space := s.takeWhile isSpace
    sign := signOf t
    digits := u.takeWhile Char.isDigit
    rest := u.dropWhile Char.isDigit }

/-- The number a sign and some digits stand for. -/
def valueOf (sign digits : List Char) : ℤ :=
  if sign = ['-'] then -(Nat.ofDigitChars 10 digits 0 : ℤ) else Nat.ofDigitChars 10 digits 0

def noSign : List (List Char) := [[]]

/-- No sign at all is one of them. -/
def anySign : List (List Char) := [[], ['+'], ['-']]

/-- The text is nothing but one of the signs and at least one digit, and stands for the number. -/
def IsDecimal (signs : List (List Char)) (s : List Char) (z : ℤ) : Prop :=
  ∃ sign digits, s = sign ++ digits ∧ sign ∈ signs ∧ digits ≠ [] ∧
    (∀ c ∈ digits, c.isDigit = true) ∧ z = valueOf sign digits

variable {isSpace : Char → Bool} {signs : List (List Char)} {s sign digits : List Char} {z w : ℤ}

theorem prefix_signOf (t : List Char) : signOf t <+: t := by
  fun_cases signOf t with
  | case1 u => exact List.prefix_append ['-'] u
  | case2 u => exact List.prefix_append ['+'] u
  | case3 => exact List.nil_prefix

theorem signOf_of_ne {t : List Char} (hminus : ∀ u, t ≠ '-' :: u) (hplus : ∀ u, t ≠ '+' :: u) :
    signOf t = [] := by
  unfold signOf
  split
  · rename_i u
    exact absurd rfl (hminus u)
  · rename_i u
    exact absurd rfl (hplus u)
  · rfl

/-- The parts make up the text. -/
theorem parts_append (isSpace : Char → Bool) (s : List Char) :
    s = (parts isSpace s).space ++
      ((parts isSpace s).sign ++ ((parts isSpace s).digits ++ (parts isSpace s).rest)) := by
  have hsign := List.prefix_iff_eq_append.mp (prefix_signOf (s.dropWhile isSpace))
  simp only [parts]
  rw [List.takeWhile_append_dropWhile, hsign, List.takeWhile_append_dropWhile]

theorem isDigit_of_mem_digits {c : Char} (h : c ∈ (parts isSpace s).digits) : c.isDigit = true :=
  List.mem_takeWhile_imp h

/-- The sign is told apart from the digits behind it. -/
theorem signOf_append (hsign : sign ∈ anySign) (hne : digits ≠ [])
    (hdigits : ∀ c ∈ digits, c.isDigit = true) : signOf (sign ++ digits) = sign := by
  simp only [anySign, List.mem_cons, List.not_mem_nil, or_false] at hsign
  rcases hsign with rfl | rfl | rfl
  · obtain ⟨c, cs, rfl⟩ := List.exists_cons_of_ne_nil hne
    have hc := hdigits c List.mem_cons_self
    have hminus : c ≠ '-' := by rintro rfl; exact absurd hc (by decide)
    have hplus : c ≠ '+' := by rintro rfl; exact absurd hc (by decide)
    simp [signOf, hminus, hplus]
  · rfl
  · rfl

section Space
variable (hspace : ∀ c, isSpace c = true → c.isDigit = false ∧ c ≠ '+' ∧ c ≠ '-')
include hspace

/-- Neither a digit nor a sign is skipped. -/
theorem dropWhile_append (hsign : sign ∈ anySign) (hne : digits ≠ [])
    (hdigits : ∀ c ∈ digits, c.isDigit = true) :
    (sign ++ digits).dropWhile isSpace = sign ++ digits ∧
      (sign ++ digits).takeWhile isSpace = [] := by
  have hplus : isSpace '+' = false := by
    rw [← Bool.not_eq_true]
    exact fun h => (hspace _ h).2.1 rfl
  have hminus : isSpace '-' = false := by
    rw [← Bool.not_eq_true]
    exact fun h => (hspace _ h).2.2 rfl
  simp only [anySign, List.mem_cons, List.not_mem_nil, or_false] at hsign
  rcases hsign with rfl | rfl | rfl
  · obtain ⟨c, cs, rfl⟩ := List.exists_cons_of_ne_nil hne
    have hc : isSpace c = false := by
      rw [← Bool.not_eq_true]
      intro h
      have := hdigits c List.mem_cons_self
      rw [(hspace c h).1] at this
      cases this
    simp [hc]
  · simp [hplus]
  · simp [hminus]

/-- Of a decimal number nothing is skipped or ignored. -/
theorem parts_decimal (hsign : sign ∈ anySign) (hne : digits ≠ [])
    (hdigits : ∀ c ∈ digits, c.isDigit = true) :
    parts isSpace (sign ++ digits) = ⟨[], sign, digits, []⟩ := by
  obtain ⟨hdrop, htake⟩ := dropWhile_append hspace hsign hne hdigits
  have htakes : digits.takeWhile Char.isDigit = digits := List.takeWhile_eq_self_iff.mpr hdigits
  have hdrops : digits.dropWhile Char.isDigit = [] := List.dropWhile_eq_nil_iff.mpr hdigits
  simp only [parts, hdrop, htake, signOf_append hsign hne hdigits, List.drop_left, htakes, hdrops]

/-- A text is a decimal number exactly if the reader finds digits, skips and ignores nothing, and
accepts the sign. -/
theorem isDecimal_iff (hsigns : signs ⊆ anySign) :
    IsDecimal signs s z ↔
      (parts isSpace s).space = [] ∧ (parts isSpace s).rest = [] ∧ (parts isSpace s).digits ≠ [] ∧
        (parts isSpace s).sign ∈ signs ∧
          z = valueOf (parts isSpace s).sign (parts isSpace s).digits := by
  constructor
  · rintro ⟨sign, digits, rfl, hsign, hne, hdigits, rfl⟩
    rw [parts_decimal hspace (hsigns hsign) hne hdigits]
    exact ⟨rfl, rfl, hne, hsign, rfl⟩
  · rintro ⟨hempty, hrest, hne, hsign, hz⟩
    have hs := parts_append isSpace s
    rw [hempty, hrest, List.nil_append, List.append_nil] at hs
    exact ⟨_, _, hs, hsign, hne, fun c hc => isDigit_of_mem_digits hc, hz⟩

end Space

/-- The digits of a natural number are a decimal number for it. -/
theorem isDecimal_toDigits (h : [] ∈ signs) (n : ℕ) : IsDecimal signs (Nat.toDigits 10 n) n := by
  refine ⟨[], Nat.toDigits 10 n, rfl, h, Nat.toDigits_ne_nil, ?_, ?_⟩
  · intro c hc
    exact Nat.isDigit_of_mem_toDigits (by norm_num) (by norm_num) hc
  · rw [valueOf, if_neg (List.cons_ne_nil '-' []).symm, Nat.ofDigitChars_ten_toDigits]

theorem isDecimal_neg_toDigits (h : ['-'] ∈ signs) (n : ℕ) :
    IsDecimal signs ('-' :: Nat.toDigits 10 n) (-n) := by
  refine ⟨['-'], Nat.toDigits 10 n, rfl, h, Nat.toDigits_ne_nil, ?_, ?_⟩
  · intro c hc
    exact Nat.isDigit_of_mem_toDigits (by norm_num) (by norm_num) hc
  · rw [valueOf, if_pos rfl, Nat.ofDigitChars_ten_toDigits]

end Numeral
