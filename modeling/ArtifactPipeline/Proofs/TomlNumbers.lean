import ArtifactPipeline.Proofs.FiniteFloats
import ArtifactPipeline.Proofs.ShortestDecimals
import ArtifactPipeline.Toml.Parser

/-!
# Numbers in TOML

A natural number is read back from its decimal digits. A single-precision number is always read as a
number with a fraction: the word that is written for it has a point, so that it is no integer, and
too few digits for the number to be out of range.
-/

namespace ArtifactPipeline.Toml

open Decimal (Fraction digitsOf isNegative32)
open Json (Digits)
open Text

/-! ## Digits -/

/-- A decimal digit has its value as a hexadecimal digit too. -/
theorem hexValue?_digit {c : Char} (h : isAsciiDigit c = true) :
    hexValue? c = some (c.toNat - 48) ∧ c.toNat - 48 < 10 := by
  simp only [isAsciiDigit, Bool.and_eq_true, decide_eq_true_eq] at h
  rw [hexValue?, if_pos h]
  refine ⟨rfl, ?_⟩
  have hnine : c.toNat ≤ '9'.toNat := h.2
  have : '9'.toNat = 57 := rfl
  omega

/-- Decimal digits are read as the number that they write. -/
theorem numberOf_eq {digits : List Char} (h : ∀ c ∈ digits, isAsciiDigit c = true) :
    numberOf 10 digits = Nat.ofDigitChars 10 digits 0 := by
  have hfold (n : Nat) :
      digits.foldl (fun n c => n * 10 + (hexValue? c).getD 0) n = Nat.ofDigitChars 10 digits n := by
    induction digits generalizing n with
    | nil => rfl
    | cons c digits ih =>
      obtain ⟨hc, hrest⟩ := List.forall_mem_cons.mp h
      rw [List.foldl_cons, ih hrest, Nat.ofDigitChars_cons, (hexValue?_digit hc).1, Nat.mul_comm]
      rfl
  exact hfold 0

/-- The number that digits denote has at most four bits for each of them. -/
theorem log2_numberOf_le {digits : List Char} (h : ∀ c ∈ digits, isAsciiDigit c = true) :
    (numberOf 10 digits).log2 ≤ 4 * digits.length := by
  have hfold (n : Nat) : digits.foldl (fun n c => n * 10 + (hexValue? c).getD 0) n <
      (n + 1) * 2 ^ (4 * digits.length) := by
    induction digits generalizing n with
    | nil => simp
    | cons c digits ih =>
      obtain ⟨hc, hrest⟩ := List.forall_mem_cons.mp h
      obtain ⟨hvalue, hten⟩ := hexValue?_digit hc
      rw [List.foldl_cons, List.length_cons, hvalue, Option.getD_some]
      calc
        _ < (n * 10 + (c.toNat - 48) + 1) * 2 ^ (4 * digits.length) := ih hrest _
        _ ≤ (n + 1) * 16 * 2 ^ (4 * digits.length) := Nat.mul_le_mul_right _ (by omega)
        _ = (n + 1) * 2 ^ (4 * (digits.length + 1)) := by
          rw [Nat.mul_succ 4, Nat.add_comm _ 4, Nat.pow_add, ← Nat.mul_assoc]
  have hnumber : numberOf 10 digits < 2 ^ (4 * digits.length) := by
    simpa [numberOf] using hfold 0
  by_cases hzero : numberOf 10 digits = 0
  · rw [hzero, Nat.log2_zero]
    exact Nat.zero_le _
  · exact Nat.le_of_lt ((Nat.log2_lt hzero).mpr hnumber)

/-- Digits without underscores between them are one group. -/
theorem readGrouped_digits {digits : List Char} (h : Digits digits) :
    readGrouped isAsciiDigit digits = some digits := by
  obtain ⟨hnonempty, hdigits⟩ := h
  induction digits with
  | nil => exact absurd rfl hnonempty
  | cons c digits ih =>
    obtain ⟨hc, hrest⟩ := List.forall_mem_cons.mp hdigits
    rcases digits with _ | ⟨d, digits⟩
    · rw [readGrouped, if_pos hc]
    · have hplain : d ≠ '_' := by
        rintro rfl
        cases hrest _ List.mem_cons_self
      rw [readGrouped, if_pos hc, ih (by simp) hrest, Option.map_some]
      all_goals simp_all

/-- No digits are read from a word with another character than digits and underscores. -/
theorem readGrouped_eq_none {isDigit : Char → Bool} {word : List Char} {c : Char}
    (hc : isDigit c = false) (hother : c ≠ '_') (h : c ∈ word) :
    readGrouped isDigit word = none := by
  have hne {d : Char} (hd : isDigit d = true) : c ≠ d := by
    rintro rfl
    rw [hc] at hd
    cases hd
  fun_induction readGrouped isDigit word with
  | case1 => cases h
  | case2 d hd => exact absurd (List.mem_singleton.mp h) (hne hd)
  | case3 | case5 | case7 => rfl
  | case4 d rest hd ih =>
    rw [ih (by simpa [hne hd, hother] using h), Option.map_none]
  | case6 d rest hnil hunderscore hd ih =>
    rw [ih (by simpa [hne hd] using h), Option.map_none]

/-- Digits without a superfluous zero in front are a decimal number. -/
theorem readDecimal_digits {digits : List Char} (h : Digits digits)
    (hleading : digits.head? = some '0' → digits.length = 1) :
    readDecimal digits = some digits := by
  have hgood : (digits.head? == some '0' && decide (digits.length > 1)) = false := by
    rw [Bool.and_eq_false_iff, beq_eq_false_iff_ne, decide_eq_false_iff_not]
    by_cases hzero : digits.head? = some '0'
    · have hone := hleading hzero
      exact Or.inr (by omega)
    · exact Or.inl hzero
  rw [readDecimal, readGrouped_digits h, Option.bind_some, hgood]
  rfl

/-! ## Words for numbers -/

/-- The characters of a written number other than infinity and those that are no numbers. -/
def Numeric (c : Char) : Prop := isAsciiDigit c = true ∨ c = '.' ∨ c = '-'

/-- No digit, point or minus marks another base than ten. -/
theorem readInt_eq {word : List Char} (h : ∀ c ∈ word, Numeric c) :
    readInt word = (readDecimal (splitSign word).2).map fun digits =>
      if (splitSign word).1 then -(numberOf 10 digits : Int) else numberOf 10 digits := by
  have hletter {c : Char} (hc : c ∈ word) (hbase : c = 'x' ∨ c = 'o' ∨ c = 'b') : False := by
    have hnumeric := h c hc
    rcases hbase with rfl | rfl | rfl <;> revert hnumeric <;> unfold Numeric <;> decide
  unfold readInt
  split
  · exact (hletter (by simp) (Or.inl rfl)).elim
  · exact (hletter (by simp) (Or.inr (Or.inl rfl))).elim
  · exact (hletter (by simp) (Or.inr (Or.inr rfl))).elim
  · rfl

/-- A digit is no sign. -/
theorem splitSign_digits {digits : List Char} (h : Digits digits) (rest : List Char) :
    splitSign (digits ++ rest) = (false, digits ++ rest) := by
  obtain ⟨hnonempty, hdigits⟩ := h
  rcases digits with _ | ⟨c, digits⟩
  · exact absurd rfl hnonempty
  · have hc := hdigits c List.mem_cons_self
    rw [List.cons_append, splitSign]
    · rintro tail htail
      obtain ⟨rfl, -⟩ := List.cons.inj htail
      cases hc
    · rintro tail htail
      obtain ⟨rfl, -⟩ := List.cons.inj htail
      cases hc

/-- A word with a point is no integer. -/
theorem readInt_eq_none {word : List Char} (h : ∀ c ∈ word, Numeric c) (hpoint : '.' ∈ word) :
    readInt word = none := by
  have hrest : '.' ∈ (splitSign word).2 := by
    unfold splitSign
    split <;> simp_all
  rw [readInt_eq h, readDecimal, readGrouped_eq_none (by decide) (by decide) hrest]
  rfl

/-- A span ends where its class ends. -/
theorem span_append {p : Char → Bool} {front rest : List Char} (hfront : ∀ c ∈ front, p c = true)
    (hrest : ∀ c, rest.head? = some c → p c = false) : (front ++ rest).span p = (front, rest) := by
  rw [List.span_eq_takeWhile_dropWhile, List.takeWhile_append_of_pos hfront,
    List.dropWhile_append_of_pos hfront]
  cases rest with
  | nil => simp
  | cons c rest => simp [hrest c rfl]

/-- No special number has a point. -/
theorem beq_of_point {word special : List Char} (h : '.' ∈ word) (hspecial : '.' ∉ special) :
    (word == special) = false := by
  rw [beq_eq_false_iff_ne]
  rintro rfl
  exact hspecial h

/-- A character of a class is none that is outside of the class. -/
theorem ne_of_class {isIn : Char → Bool} {c d : Char} (hc : isIn c = true) (hd : isIn d = false) :
    c ≠ d := by
  rintro rfl
  rw [hc] at hd
  cases hd

/-- A number with a fraction is read, as long as it has few digits. -/
theorem readFloat_fraction {whole places : List Char} (h : Fraction whole places)
    (negative : Bool) :
    ∃ x, readFloat ((if negative then ['-'] else []) ++ (whole ++ '.' :: places)) =
      some (.float x) := by
  obtain ⟨hwhole, hplaces, hleading, hlength⟩ := h
  have hpoint : '.' ∈ whole ++ '.' :: places := by simp
  have hsplit : splitSign ((if negative then ['-'] else []) ++ (whole ++ '.' :: places)) =
      (negative, whole ++ '.' :: places) := by
    cases negative with
    | true => rfl
    | false => exact splitSign_digits hwhole _
  have hpower : (whole ++ '.' :: places).span (fun c => !(c == 'e' || c == 'E')) =
      (whole ++ '.' :: places, []) := by
    have hmark {c : Char} (hc : isAsciiDigit c = true) : (!(c == 'e' || c == 'E')) = true := by
      have he : c ≠ 'e' := ne_of_class hc (by decide)
      have hE : c ≠ 'E' := ne_of_class hc (by decide)
      simp [he, hE]
    have hmarks : ∀ c ∈ whole ++ '.' :: places, (!(c == 'e' || c == 'E')) = true := by
      intro c hc
      rcases List.mem_append.mp hc with hc | hc
      · exact hmark (hwhole.digits c hc)
      · rcases List.mem_cons.mp hc with rfl | hc
        · rfl
        · exact hmark (hplaces.digits c hc)
    rw [List.span_eq_takeWhile_dropWhile, List.takeWhile_eq_self_iff.mpr hmarks,
      List.dropWhile_eq_nil_iff.mpr hmarks]
  have hfraction : (whole ++ '.' :: places).span (· != '.') = (whole, '.' :: places) := by
    refine span_append (fun c hc => ?_) (by simp)
    exact bne_iff_ne.mpr (ne_of_class (hwhole.digits c hc) (by decide))
  have hfinite : (nearestFloat (numberOf 10 (whole ++ places)) (-(places.length : Int))).isInf =
      false := by
    have hdigits : ∀ c ∈ whole ++ places, isAsciiDigit c = true := by
      intro c hc
      rcases List.mem_append.mp hc with hc | hc
      · exact hwhole.digits c hc
      · exact hplaces.digits c hc
    have hbits := log2_numberOf_le hdigits
    have hplace := List.length_pos_iff.mpr hplaces.nonempty
    exact Decimal.nearestFloat_isInf (by omega) (by omega)
  unfold readFloat
  simp only [hsplit, hpower, hfraction, beq_of_point hpoint (by decide : '.' ∉ ['i', 'n', 'f']),
    beq_of_point hpoint (by decide : '.' ∉ ['n', 'a', 'n'])]
  simp [readDecimal_digits hwhole hleading, readGrouped_digits hplaces, hfinite]

/-! ## Written numbers -/

/-- A word made of the characters of values without quotes. -/
structure IsWord (word : List Char) : Prop where
  nonempty : word ≠ []
  chars : ∀ c ∈ word, isWordChar c = true

/-- The characters of numbers may stand in a word. -/
theorem isWordChar_numeric {c : Char} (h : Numeric c) : isWordChar c = true := by
  rcases h with h | rfl | rfl
  · simp [isWordChar, isAsciiWord, h]
  · rfl
  · rfl

/-- A written natural number is one word. -/
theorem isWord_writeNat (n : Nat) : IsWord (writeNat n) where
  nonempty := (Json.digits_digitsOf n).nonempty
  chars c hc := isWordChar_numeric (Or.inl ((Json.digits_digitsOf n).digits c hc))

/-- A natural number below 2^63 is read back from its digits. -/
theorem readWord_writeNat {n : Nat} (h : n < Nat.pow 2 63) :
    readWord (writeNat n) = some (.int n) := by
  have hdigits := Json.digits_digitsOf n
  have hletter {special : List Char} {c : Char} (hc : c ∈ special)
      (hother : isAsciiDigit c = false) : (digitsOf n == special) = false := by
    rw [beq_eq_false_iff_ne]
    rintro rfl
    exact ne_of_class (hdigits.digits c hc) hother rfl
  have hleading : (digitsOf n).head? = some '0' → (digitsOf n).length = 1 := by
    intro hzero
    rw [Decimal.head?_digitsOf_eq_zero hzero]
    rfl
  have hsign := splitSign_digits hdigits []
  rw [List.append_nil] at hsign
  have hint : readInt (digitsOf n) = some n := by
    rw [readInt_eq fun c hc => Or.inl (hdigits.digits c hc), hsign,
      readDecimal_digits hdigits hleading, Option.map_some, numberOf_eq hdigits.digits, digitsOf,
      Nat.ofDigitChars_toDigits (by decide) (by decide)]
    rfl
  have hfits : fitsBits 128 n = true := by
    have hlimit : Nat.pow 2 63 ≤ Nat.pow 2 128 := by decide
    simp only [fitsBits, Bool.and_eq_true, decide_eq_true_eq]
    omega
  rw [readWord, writeNat, hletter (c := 't') (by decide) (by decide),
    hletter (c := 'f') (by decide) (by decide), hint]
  simp [ofInt, hfits]

/-- The written form of a number is a special word or a number with a fraction. -/
theorem writeFloat32_cases (x : Float32) :
    (∃ special ∈ [['n', 'a', 'n'], ['i', 'n', 'f'], ['-', 'i', 'n', 'f']],
      writeFloat32 x = special) ∨
    ∃ whole places, Fraction whole places ∧ writeFloat32 x =
      (if isNegative32 x then ['-'] else []) ++ (whole ++ '.' :: places) := by
  simp only [writeFloat32]
  cases hshape : Decimal.shape32 x with
  | nan => exact Or.inl ⟨['n', 'a', 'n'], by simp, rfl⟩
  | infinite =>
    left
    cases isNegative32 x with
    | true => exact ⟨['-', 'i', 'n', 'f'], by simp, rfl⟩
    | false => exact ⟨['i', 'n', 'f'], by simp, rfl⟩
  | finite m =>
    right
    have hsingle := Decimal.shape32_single hshape
    by_cases hzero : m.mantissa = 0
    · have hdigit : Digits ['0'] := ⟨by simp, by simp [isAsciiDigit]⟩
      refine ⟨['0'], ['0'], ⟨hdigit, hdigit, fun _ => rfl, by decide⟩, ?_⟩
      simp [hzero]
    · obtain ⟨whole, places, hfraction, heq⟩ :=
        Decimal.positional_fraction (Decimal.shortest_short hsingle hzero .larger)
      refine ⟨whole, places, hfraction, ?_⟩
      simp only [beq_iff_eq, if_neg hzero, heq]

/-- A fraction is written with the characters of numbers, sign and point included. -/
theorem numeric_fraction {whole places : List Char} (h : Fraction whole places) (negative : Bool) :
    ∀ c ∈ (if negative then ['-'] else []) ++ (whole ++ '.' :: places), Numeric c := by
  intro c hc
  simp only [List.mem_append, List.mem_cons] at hc
  rcases hc with hc | hc | rfl | hc
  · cases negative with
    | true => exact Or.inr (Or.inr (List.mem_singleton.mp hc))
    | false => cases hc
  · exact Or.inl (h.before.digits c hc)
  · exact Or.inr (Or.inl rfl)
  · exact Or.inl (h.behind.digits c hc)

/-- A written single-precision number is one word. -/
theorem isWord_writeFloat32 (x : Float32) : IsWord (writeFloat32 x) := by
  rcases writeFloat32_cases x with ⟨special, hspecial, heq⟩ | ⟨whole, places, hfraction, heq⟩
  · rw [heq]
    simp only [List.mem_cons, List.not_mem_nil, or_false] at hspecial
    rcases hspecial with rfl | rfl | rfl <;> exact ⟨by simp, List.all_eq_true.mp rfl⟩
  · rw [heq]
    exact ⟨by simp, fun c hc => isWordChar_numeric (numeric_fraction hfraction _ c hc)⟩

/-- Every single-precision number is written as a number with a fraction or a special word. -/
theorem readWord_writeFloat32 (x : Float32) : ∃ y, readWord (writeFloat32 x) = some (.float y) := by
  rcases writeFloat32_cases x with ⟨special, hspecial, heq⟩ | ⟨whole, places, hfraction, heq⟩
  · rw [heq]
    simp only [List.mem_cons, List.not_mem_nil, or_false] at hspecial
    rcases hspecial with rfl | rfl | rfl <;> exact ⟨_, rfl⟩
  · obtain ⟨y, hy⟩ := readFloat_fraction hfraction (isNegative32 x)
    have hpoint : '.' ∈ writeFloat32 x := by simp [heq]
    rw [← heq] at hy
    have hint := readInt_eq_none (heq ▸ numeric_fraction hfraction _) hpoint
    refine ⟨y, ?_⟩
    rw [readWord, beq_of_point hpoint (by decide), beq_of_point hpoint (by decide), hint, hy]
    rfl

end ArtifactPipeline.Toml
