import ArtifactPipeline.Proofs.JsonWriting
import ArtifactPipeline.Toml.Printer
import Mathlib.Algebra.Group.Nat.Defs

/-!
# The length of shortest decimals

The shortest decimal of a single-precision number has few digits. Its last place lies at most
24 places below that of the number's leading digit, whether or not a multiple of a power of
ten was found that lies in the number's interval. Written without an exponent it is a whole number
without a superfluous zero, a point and digits.
-/

namespace ArtifactPipeline.Decimal

open Json Text

/-! ## Sizes -/

/-- A magnitude within the bounds of single precision. -/
structure Magnitude.Single (m : Magnitude) : Prop where
  mantissa : m.mantissa < 2 ^ 24
  least : -149 ≤ m.exponent
  most : m.exponent ≤ 104

/-- A finite single-precision number has a magnitude of 24 bits. -/
theorem shape32_single {x : Float32} {m : Magnitude} (h : shape32 x = .finite m) : m.Single := by
  have hwidths : Nat.pow 2 23 = 2 ^ 23 ∧ Nat.pow 2 8 = 256 := ⟨rfl, rfl⟩
  simp only [shape32, shapeOfBits, hwidths] at h
  have hfraction : x.toBits.toNat % 2 ^ 23 < 2 ^ 23 := Nat.mod_lt _ (by decide)
  have hstored : x.toBits.toNat / 2 ^ 23 % 256 < 256 := Nat.mod_lt _ (by decide)
  generalize x.toBits.toNat % 2 ^ 23 = fraction at h hfraction
  generalize x.toBits.toNat / 2 ^ 23 % 256 = stored at h hstored
  split_ifs at h <;> cases h <;> constructor <;> dsimp only <;> omega

/-! ## Digits -/

namespace Interval

/-- A decimal near a number, as the search between two exponents finds it. -/
structure Found (i : Interval) (last first : Int) (d : Scaled) : Prop where
  least : last ≤ d.exponent
  most : d.exponent ≤ first
  digits : d.digits ≤ i.value * 10 ^ (-d.exponent).toNat + 1
  /-- Only at the end of the search no digit may be left. -/
  nonzero : d.digits = 0 → d.exponent = last ∧
    i.value * 10 ^ (-d.exponent).toNat < i.denominator * 10 ^ d.exponent.toNat

/-- The search goes down one power of ten at a time and takes a digit other than zero on its way. -/
theorem found_shortestFrom {i : Interval} (hi : 0 < i.denominator) (tie : Tie) (steps : Nat)
    (p : Int) : i.Found (p - steps) p (i.shortestFrom tie steps p) := by
  have hquotient (p : Int) : i.value * 10 ^ (-p).toNat / (i.denominator * 10 ^ p.toNat) ≤
      i.value * 10 ^ (-p).toNat := Nat.div_le_self _ _
  induction steps generalizing p with
  | zero =>
    constructor
    · simp [shortestFrom]
    · simp [shortestFrom]
    · exact Nat.le_succ_of_le (hquotient p)
    · intro hzero
      have hscale : 0 < i.denominator * 10 ^ p.toNat := Nat.mul_pos hi (Nat.pow_pos (by decide))
      have hless := (Nat.div_eq_zero_iff_lt hscale).mp hzero
      exact ⟨by simp [shortestFrom], hless⟩
  | succ steps ih =>
    simp only [shortestFrom]
    split_ifs with hbelow habove
    · refine ⟨by dsimp only; omega, Int.le_refl p, Nat.le_succ_of_le (hquotient p), fun hzero => ?_⟩
      simp only [Bool.and_eq_true, bne_iff_ne] at hbelow
      exact absurd hzero hbelow.1.1
    · refine ⟨by dsimp only; omega, Int.le_refl p, Nat.succ_le_succ (hquotient p), ?_⟩
      simp
    · obtain ⟨hleast, hmost, hdigits, hnonzero⟩ := ih (p - 1)
      have hexponent : p - 1 - steps = p - (steps + 1 : Nat) := by omega
      rw [hexponent] at hleast hnonzero
      exact ⟨hleast, by omega, hdigits, hnonzero⟩

end Interval

/-- A decimal with few digits that is not written with a superfluous zero. -/
structure Scaled.Short (d : Scaled) : Prop where
  least : -70 ≤ d.exponent
  most : d.exponent ≤ 40
  digits : (digitsOf d.digits).length ≤ 110
  nonzero : 0 < d.exponent → 0 < d.digits

/-- A number with four bits for each digit of a power of ten is no less than that power. -/
theorem ten_pow_le {m : Nat} {e p : Nat} (hm : m ≠ 0) (hp : 4 * p ≤ e + m.log2) :
    10 ^ p ≤ m * 2 ^ e := calc
  10 ^ p ≤ (2 ^ 4) ^ p := Nat.pow_le_pow_left (by decide) p
  _ = 2 ^ (4 * p) := (Nat.pow_mul 2 4 p).symm
  _ ≤ 2 ^ (m.log2 + e) := Nat.pow_le_pow_right (by decide) (by omega)
  _ = 2 ^ m.log2 * 2 ^ e := Nat.pow_add 2 m.log2 e
  _ ≤ m * 2 ^ e := Nat.mul_le_mul_right _ (Nat.log2_self_le hm)

/-- The shortest decimal of a magnitude of 24 bits that is not zero is short. -/
theorem shortest_short {m : Magnitude} (hm : m.Single) (hzero : m.mantissa ≠ 0) (tie : Tie) :
    (m.shortest tie).Short := by
  obtain ⟨hmantissa, hleast, hmost⟩ := hm
  have hlog : m.mantissa.log2 < 24 := (Nat.log2_lt hzero).mpr hmantissa
  have hdenominator : 0 < m.interval.denominator :=
    Nat.mul_pos (by decide) (Nat.pow_pos (by decide))
  have hvalue : m.interval.value ≤ 10 ^ 40 := calc
    4 * m.mantissa * 2 ^ m.exponent.toNat ≤ 4 * 2 ^ 24 * 2 ^ 104 :=
      Nat.mul_le_mul (by omega) (Nat.pow_le_pow_right (by decide) (by omega))
    _ ≤ 10 ^ 40 := by decide
  have hfound : m.interval.Found _ _ (m.shortest tie) :=
    Interval.found_shortestFrom hdenominator tie 24 _
  generalize m.shortest tie = d at hfound
  obtain ⟨hlower, hupper, hdigits, hnonzero⟩ := hfound
  refine ⟨by omega, by omega, ?_, fun hpositive => Nat.pos_of_ne_zero fun hnone => ?_⟩
  · refine (Nat.length_toDigits_le_iff (by decide) (by decide)).mpr (Nat.lt_of_le_of_lt hdigits ?_)
    calc
      m.interval.value * 10 ^ (-d.exponent).toNat + 1 ≤ 10 ^ 40 * 10 ^ 69 + 1 :=
        Nat.succ_le_succ (Nat.mul_le_mul hvalue (Nat.pow_le_pow_right (by decide) (by omega)))
      _ < 10 ^ 110 := by decide
  · -- The search has ended 22 places below the first digit of the number, which is therefore not
    -- less than the power of ten that is left.
    obtain ⟨hexponent, hless⟩ := hnonzero hnone
    have hpower := ten_pow_le (e := m.exponent.toNat) (p := d.exponent.toNat) hzero (by omega)
    have hwhole : (-m.exponent).toNat = 0 ∧ (-d.exponent).toNat = 0 := by omega
    have hden : m.interval.denominator = 4 := by
      show 4 * 2 ^ (-m.exponent).toNat = 4
      rw [hwhole.1]
      rfl
    have hval : m.interval.value = 4 * (m.mantissa * 2 ^ m.exponent.toNat) :=
      Nat.mul_assoc _ _ _
    rw [hden, hval, hwhole.2, Nat.pow_zero, Nat.mul_one] at hless
    omega

/-! ## Written form -/

/-- A whole number and places behind the point, as they are written. -/
structure Fraction (whole places : List Char) : Prop where
  before : Digits whole
  behind : Digits places
  leading : whole.head? = some '0' → whole.length = 1
  length : (whole ++ places).length ≤ 160

/-- Only zero is written with a zero in front. -/
theorem head?_digitsOf_eq_zero {n : Nat} (h : (digitsOf n).head? = some '0') : n = 0 := by
  by_contra hne
  obtain ⟨c, hc, hother⟩ := head?_digitsOf (Nat.pos_of_ne_zero hne)
  exact hother (Option.some.inj (hc.symm.trans h))

/-- Zeros may be put in front of digits. -/
theorem digits_zeros_append {digits : List Char} (h : Digits digits) (n : Nat) :
    Digits (List.replicate n '0' ++ digits) := by
  refine ⟨by simp [h.nonempty], fun c hc => ?_⟩
  rcases List.mem_append.mp hc with hzero | hdigit
  · rw [List.eq_of_mem_replicate hzero]
    rfl
  · exact h.digits c hdigit

/-- Zeros may be put behind digits. -/
theorem digits_append_zeros {digits : List Char} (h : Digits digits) (n : Nat) :
    Digits (digits ++ List.replicate n '0') := by
  refine ⟨by simp [h.nonempty], fun c hc => ?_⟩
  rcases List.mem_append.mp hc with hdigit | hzero
  · exact h.digits c hdigit
  · rw [List.eq_of_mem_replicate hzero]
    rfl

/-- Digits that are split before the last places, with zeros in front where they do not suffice. -/
theorem fraction_split {digits padded : List Char} {places : Nat} (hdigits : Digits digits)
    (hleading : digits.head? = some '0' → digits.length = 1) (hplaces : 0 < places)
    (hbound : places ≤ 70) (hlength : digits.length ≤ 110)
    (hpadded : padded = List.replicate (places + 1 - digits.length) '0' ++ digits) :
    Fraction (padded.take (padded.length - places)) (padded.drop (padded.length - places)) := by
  have hall : Digits padded := hpadded ▸ digits_zeros_append hdigits _
  have hsize : padded.length = places + 1 - digits.length + digits.length := by simp [hpadded]
  refine ⟨⟨?_, fun c hc => hall.digits c (List.mem_of_mem_take hc)⟩,
    ⟨?_, fun c hc => hall.digits c (List.mem_of_mem_drop hc)⟩, fun hhead => ?_, ?_⟩
  · rw [← List.length_pos_iff, List.length_take]
    omega
  · rw [← List.length_pos_iff, List.length_drop]
    omega
  · rw [List.length_take]
    by_cases hfew : digits.length ≤ places
    · omega
    · have hnone : places + 1 - digits.length = 0 := by omega
      rw [hnone, List.replicate_zero, List.nil_append] at hpadded
      rw [List.head?_take, if_neg (by omega), hpadded] at hhead
      have hone := hleading hhead
      omega
  · rw [List.take_append_drop]
    omega

/-- The written form of a decimal, to which a place is added if it has none. -/
theorem positional_fraction {d : Scaled} (hd : d.Short) :
    ∃ whole places, Fraction whole places ∧
      (if d.positional.contains '.' then d.positional else d.positional ++ ['.', '0']) =
        whole ++ '.' :: places := by
  obtain ⟨hleast, hmost, hlength, hnonzero⟩ := hd
  have hdigits := digits_digitsOf d.digits
  have hzero := head?_digitsOf_eq_zero (n := d.digits)
  have hsingle : d.digits = 0 → (digitsOf d.digits).length = 1 := fun h => by rw [h]; rfl
  unfold Scaled.positional
  generalize digitsOf d.digits = digits at *
  dsimp only
  by_cases hexponent : 0 ≤ d.exponent
  · have hwhole := digits_append_zeros hdigits d.exponent.toNat
    have hpoint : (digits ++ List.replicate d.exponent.toNat '0').contains '.' = false := by
      rw [List.contains_eq_mem, decide_eq_false_iff_not]
      intro hc
      cases hwhole.digits _ hc
    have hplace : Digits ['0'] := ⟨by simp, by simp [isAsciiDigit]⟩
    refine ⟨digits ++ List.replicate d.exponent.toNat '0', ['0'], ⟨hwhole, hplace, ?_, ?_⟩, ?_⟩
    · intro hhead
      rw [List.head?_append_of_ne_nil _ hdigits.nonempty] at hhead
      have hnone := hzero hhead
      have hone := hsingle hnone
      rw [List.length_append, List.length_replicate]
      omega
    · simp only [List.length_append, List.length_replicate, List.length_singleton]
      omega
    · rw [if_pos hexponent, hpoint]
      rfl
  · rw [if_neg hexponent]
    have hbehind : 0 < (-d.exponent).toNat ∧ (-d.exponent).toNat ≤ 70 := by omega
    refine ⟨_, _, fraction_split hdigits (fun h => hsingle (hzero h)) hbehind.1 hbehind.2 hlength
      rfl, ?_⟩
    rw [if_pos (by simp)]

end ArtifactPipeline.Decimal
