import DoocsBackend.Catalogue.Malformed
import DoocsBackend.Library.Numeral

/-! # Numbers in the cache

The parsers of lengths and type ids read the longest literal a text starts with into 64
bits, refuse what does not fit, and narrow the rest to 32 bits. They are exact at the texts
which are refused, and at plain decimal numbers which fit into 32 bits.
-/
namespace DoocsBackend.Catalogue
open Numeral

variable {signs : List Text} {low high : ℤ} {s : Text}

theorem isSpace_spec (c : Char) (h : isSpace c = true) :
    c.isDigit = false ∧ c ≠ '+' ∧ c ≠ '-' := by
  simp only [isSpace, List.mem_cons, List.not_mem_nil, or_false, decide_eq_true_eq] at h
  rcases h with rfl | rfl | rfl | rfl | rfl | rfl <;> decide

/-- The literal is the sign and the digits among the parts of the text. -/
theorem integerLiteral_eq (s : Text) :
    integerLiteral s = if (parts isSpace s).digits = [] then none else
      some ((parts isSpace s).sign == ['-'],
        Nat.ofDigitChars 10 (parts isSpace s).digits 0) := by
  unfold integerLiteral parts
  generalize s.dropWhile isSpace = t
  dsimp only
  split
  · rfl
  · rfl
  · rename_i hminus hplus
    have hsign : signOf t = [] := signOf_of_ne hminus hplus
    have hbeq : (([] : Text) == ['-']) = false := rfl
    simp only [hsign, List.length_nil, List.drop_zero, hbeq]

/-- The value of the literal a text starts with. -/
def literalValue (s : Text) : ℤ := valueOf (parts isSpace s).sign (parts isSpace s).digits

theorem isUnreadable_iff :
    XmlNode.isUnreadable low high s = true ↔
      (parts isSpace s).digits = [] ∨ literalValue s < low ∨ high ≤ literalValue s := by
  unfold XmlNode.isUnreadable literalValue valueOf
  rw [integerLiteral_eq]
  by_cases hdigits : (parts isSpace s).digits = []
  · simp [hdigits]
  · simp [hdigits]

theorem digits_ne_nil (h : XmlNode.isUnreadable low high s = false) :
    (parts isSpace s).digits ≠ [] := by
  intro hdigits
  rw [isUnreadable_iff.mpr (.inl hdigits)] at h
  cases h

/-- The text is nothing but a literal with one of the signs and a value in the range. -/
structure IsPlain (signs : List Text) (low high : ℤ) (s : Text) : Prop where
  noSpace : (parts isSpace s).space = []
  sign_mem : (parts isSpace s).sign ∈ signs
  noRest : (parts isSpace s).rest = []
  low_le : low ≤ literalValue s
  lt_high : literalValue s < high

/-- The result is `n` exactly if the text is a decimal number for `n` within the range, and a
`logic_error` for all other texts. -/
structure ExactAt {α : Type} (signs : List Text) (low high : ℤ) (s : Text) (toInt : α → ℤ)
    (result : Except Failure α) : Prop where
  returned : ∀ n, result = .ok n ↔
    IsDecimal signs s (toInt n) ∧ low ≤ toInt n ∧ toInt n < high
  refused : (¬ ∃ z, IsDecimal signs s z ∧ low ≤ z ∧ z < high) →
    ∃ what, result = .error (.logicError what)

theorem isDecimal_literalValue_iff (hsigns : signs ⊆ anySign) {z : ℤ} :
    IsDecimal signs s z ∧ low ≤ z ∧ z < high ↔
      (parts isSpace s).digits ≠ [] ∧ IsPlain signs low high s ∧ z = literalValue s := by
  rw [isDecimal_iff isSpace_spec hsigns]
  constructor
  · rintro ⟨⟨hspace, hrest, hne, hsign, rfl⟩, hlow, hhigh⟩
    exact ⟨hne, ⟨hspace, hsign, hrest, hlow, hhigh⟩, rfl⟩
  · rintro ⟨hne, hp, rfl⟩
    exact ⟨⟨hp.noSpace, hp.noRest, hne, hp.sign_mem, rfl⟩, hp.low_le, hp.lt_high⟩

/-- A parser which refuses what does not fit into a wider range, and otherwise returns the value of
plain texts, is exact at the refused and at the plain texts only. -/
theorem exactAt_iff {α : Type} {toInt : α → ℤ} {result : Except Failure α} {wideLow wideHigh : ℤ}
    (hsigns : signs ⊆ anySign) (hinj : Function.Injective toInt) (hlow : wideLow ≤ low)
    (hhigh : high ≤ wideHigh)
    (hresult : (XmlNode.isUnreadable wideLow wideHigh s = false ∧
        ∃ n, result = .ok n ∧ (IsPlain signs low high s → toInt n = literalValue s)) ∨
      (XmlNode.isUnreadable wideLow wideHigh s = true ∧
        ∃ what, result = .error (.logicError what))) :
    ExactAt signs low high s toInt result ↔
      XmlNode.isUnreadable wideLow wideHigh s = true ∨ IsPlain signs low high s := by
  obtain ⟨hreadable, n, rfl, hvalue⟩ | ⟨hunreadable, what, rfl⟩ := hresult
  · have hne := digits_ne_nil hreadable
    rw [hreadable]
    constructor
    · intro h
      exact .inr ((isDecimal_literalValue_iff hsigns).mp ((h.returned n).mp rfl)).2.1
    · intro h
      have hp := h.resolve_left Bool.false_ne_true
      refine ⟨fun m => ?_, fun hnone => ?_⟩
      · rw [isDecimal_literalValue_iff hsigns, ← hvalue hp, hinj.eq_iff, Except.ok.injEq]
        exact ⟨fun hnm => ⟨hne, hp, hnm.symm⟩, fun hm => hm.2.2.symm⟩
      · exact absurd ⟨_, (isDecimal_literalValue_iff hsigns).mpr ⟨hne, hp, rfl⟩⟩ hnone
  · -- whatever is refused is no number in the range
    have hnone (z : ℤ) : ¬ (IsDecimal signs s z ∧ low ≤ z ∧ z < high) := by
      rw [isDecimal_literalValue_iff hsigns]
      rintro ⟨hne, hp, rfl⟩
      have hin := hp.low_le
      have hlt := hp.lt_high
      rcases isUnreadable_iff.mp hunreadable with h | h | h
      · exact hne h
      · omega
      · omega
    refine iff_of_true ⟨fun m => ?_, fun _ => ⟨what, rfl⟩⟩ (.inl hunreadable)
    exact iff_of_false (by rintro ⟨⟩) (hnone (toInt m))

/-! ## The two parsers -/

/-- `convertToUint` is exact at the text. -/
def UintExact (s : Text) : Prop :=
  ExactAt noSign 0 (2 ^ 32) s (fun n : ℕ => (n : ℤ)) (convertToUint s)

/-- `convertToInt` is exact at the text. -/
def IntExact (s : Text) : Prop := ExactAt anySign (-2 ^ 31) (2 ^ 31) s id (convertToInt s)

theorem integerLiteral_of_readable (h : XmlNode.isUnreadable low high s = false) :
    integerLiteral s = some ((parts isSpace s).sign == ['-'],
      Nat.ofDigitChars 10 (parts isSpace s).digits 0) := by
  rw [integerLiteral_eq, if_neg (digits_ne_nil h)]

theorem literalValue_eq (s : Text) :
    (if ((parts isSpace s).sign == ['-']) = true then
      -(Nat.ofDigitChars 10 (parts isSpace s).digits 0 : ℤ)
      else Nat.ofDigitChars 10 (parts isSpace s).digits 0) = literalValue s := by
  simp only [literalValue, valueOf, beq_iff_eq]

/-- Without a sign, the unsigned parser reads the value of the literal. -/
theorem stoul_of_readable (h : XmlNode.isUnreadable (-2 ^ 64 + 1) (2 ^ 64) s = false)
    (hsign : (parts isSpace s).sign = []) : stoul s = .ok (literalValue s).toNat := by
  have hvalue : literalValue s = Nat.ofDigitChars 10 (parts isSpace s).digits 0 := by
    rw [literalValue, valueOf, hsign, if_neg (List.cons_ne_nil '-' []).symm]
  have hrange : ¬ 2 ^ 64 ≤ Nat.ofDigitChars 10 (parts isSpace s).digits 0 := by
    intro hn
    rw [isUnreadable_iff.mpr (.inr (.inr (by omega)))] at h
    cases h
  have hbeq : (([] : Text) == ['-']) = false := rfl
  unfold stoul
  simp only [integerLiteral_of_readable h, hrange, if_false, hsign, hbeq, Bool.false_eq_true, hvalue,
    Int.toNat_natCast]

theorem stol_of_readable (h : XmlNode.isUnreadable (-2 ^ 63) (2 ^ 63) s = false) :
    stol s = .ok (literalValue s) := by
  have hrange : ¬ (literalValue s < -2 ^ 63 ∨ 2 ^ 63 ≤ literalValue s) := by
    intro hout
    rw [isUnreadable_iff.mpr (.inr hout)] at h
    cases h
  unfold stol
  simp only [integerLiteral_of_readable h, literalValue_eq, hrange, if_false]

theorem uintExact_iff (s : Text) :
    UintExact s ↔
      XmlNode.isUnreadable (-2 ^ 64 + 1) (2 ^ 64) s = true ∨ IsPlain noSign 0 (2 ^ 32) s := by
  apply exactAt_iff (by decide) Nat.cast_injective (by norm_num) (by norm_num)
  obtain ⟨hreadable, n, hn⟩ | hunreadable := convertToUint_cases s
  · refine .inl ⟨hreadable, n, hn, fun hp => ?_⟩
    have hlow := hp.low_le
    have hhigh := hp.lt_high
    rw [convertToUint, stoul_of_readable hreadable (List.mem_singleton.mp hp.sign_mem)] at hn
    cases hn
    dsimp only
    omega
  · exact .inr hunreadable

theorem intExact_iff (s : Text) :
    IntExact s ↔
      XmlNode.isUnreadable (-2 ^ 63) (2 ^ 63) s = true ∨ IsPlain anySign (-2 ^ 31) (2 ^ 31) s := by
  apply exactAt_iff (List.Subset.refl _) Function.injective_id (by norm_num) (by norm_num)
  obtain ⟨hreadable, z, hz⟩ | hunreadable := convertToInt_cases s
  · refine .inl ⟨hreadable, z, hz, fun hp => ?_⟩
    have hlow := hp.low_le
    have hhigh := hp.lt_high
    rw [convertToInt, stol_of_readable hreadable] at hz
    cases hz
    change (literalValue s + 2 ^ 31) % 2 ^ 32 - 2 ^ 31 = literalValue s
    omega
  · exact .inr hunreadable

/-- The parser of unsigned numbers is exact where the text is refused, or is a plain number without
a sign which fits into 32 bits; the parser of signed numbers where the text is refused, or is a plain
number which fits into 32 bits. -/
theorem number_parsing_exact_iff (s : Text) :
    (UintExact s ↔
      XmlNode.isUnreadable (-2 ^ 64 + 1) (2 ^ 64) s = true ∨ IsPlain noSign 0 (2 ^ 32) s) ∧
    (IntExact s ↔
      XmlNode.isUnreadable (-2 ^ 63) (2 ^ 63) s = true ∨ IsPlain anySign (-2 ^ 31) (2 ^ 31) s) :=
  ⟨uintExact_iff s, intExact_iff s⟩

/-- A length of 2^32 + 1 is read as 1, and a type id of 2^32 as 0. -/
theorem number_parsing_narrows :
    convertToUint "4294967297".toList = .ok 1 ∧ convertToInt "4294967296".toList = .ok 0 ∧
      ¬ ∀ s, UintExact s ∧ IntExact s := by
  refine ⟨by decide, by decide, fun h => ?_⟩
  rcases (uintExact_iff "4294967297".toList).mp (h _).1 with hrefused | hplain
  · exact absurd hrefused (by decide)
  · exact absurd hplain.lt_high (by decide)

/-! ## What the cache itself writes -/

theorem toText_natCast (n : ℕ) : toText n = Nat.toDigits 10 n := by
  rw [toText, if_neg (by omega), Int.natAbs_natCast]

theorem isDecimal_toText (z : ℤ) : IsDecimal anySign (toText z) z := by
  unfold toText
  split
  · have hz : z = -(z.natAbs : ℤ) := by omega
    nth_rewrite 2 [hz]
    exact isDecimal_neg_toDigits (by decide) z.natAbs
  · have hz : z = (z.natAbs : ℤ) := by omega
    nth_rewrite 2 [hz]
    exact isDecimal_toDigits (by decide) z.natAbs

/-- Every length is read as it was written. -/
theorem convertToUint_toText {n : ℕ} (h : n < 2 ^ 32) : convertToUint (toText n) = .ok n := by
  have hn : IsDecimal noSign (toText n) n ∧ (0 : ℤ) ≤ n ∧ (n : ℤ) < 2 ^ 32 := by
    refine ⟨?_, by omega, by omega⟩
    rw [toText_natCast]
    exact isDecimal_toDigits (by decide) n
  have hp := ((isDecimal_literalValue_iff (by decide)).mp hn).2.1
  exact (((uintExact_iff _).mpr (.inr hp)).returned n).mpr hn

/-- Every type id is read as it was written. -/
theorem convertToInt_toText {z : ℤ} (hlow : -2 ^ 31 ≤ z) (hhigh : z < 2 ^ 31) :
    convertToInt (toText z) = .ok z := by
  have hz := And.intro (isDecimal_toText z) (And.intro hlow hhigh)
  have hp := ((isDecimal_literalValue_iff (List.Subset.refl _)).mp hz).2.1
  exact (((intExact_iff _).mpr (.inr hp)).returned z).mpr hz

end DoocsBackend.Catalogue
