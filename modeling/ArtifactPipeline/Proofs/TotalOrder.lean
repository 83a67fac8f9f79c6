import ArtifactPipeline.Decimal.Order
import Mathlib

/-!
# The total order and the order of numbers

The place of a number in the total order is read off its bits: the sign, and the exponent and the
mantissa behind it as one integer, the height. The height of a finite number is linear in exponent
and mantissa, so heights compare as sizes do. A number that is less than another one therefore has a
lower place.
-/

namespace ArtifactPipeline.Decimal

open Float.Model
open Float.Model.UnpackedFloat hiding unpack pack

/-! ## What bits stand for -/

variable (bits : BitVec 64)

/-- The exponent is the eleven bits behind the sign. -/
theorem unpackExponent_toNat :
    (@unpackExponent .binary64 bits).toNat = bits.toNat / 2 ^ 52 % 2 ^ 11 := by
  unfold unpackExponent
  simp [BitVec.extractLsb, BitVec.extractLsb', Nat.shiftRight_eq_div_pow]

/-- The mantissa is the last 52 bits. -/
theorem unpackMantissa_toNat :
    (@unpackMantissa .binary64 bits).toNat = bits.toNat % 2 ^ 52 := by
  unfold unpackMantissa
  simp [BitVec.extractLsb, BitVec.extractLsb']

/-- The sign is the first bit. -/
theorem unpackSign_toNat :
    (@unpackSign .binary64 bits).toNat = bits.toNat / 2 ^ 63 := by
  have hbits : bits.toNat < 2 ^ 64 := bits.isLt
  unfold unpackSign
  simp only [BitVec.extractLsb, BitVec.extractLsb', Nat.shiftRight_eq_div_pow, BitVec.toNat_cast,
    BitVec.toNat_ofNat]
  omega

/-- The sign that some bits stand for. -/
def signOf : Sign := if bits.toNat < 2 ^ 63 then .positive else .negative

/-- The bits behind the sign as an integer. -/
def heightOf : Nat := bits.toNat % 2 ^ 63

/-- The sign that is unpacked is the one that the bits stand for. -/
theorem ofBitVec_unpackSign :
    Sign.ofBitVec (@unpackSign .binary64 bits) = signOf bits := by
  have hiff : @unpackSign .binary64 bits = 0#1 ↔ bits.toNat < 2 ^ 63 := by
    rw [← BitVec.toNat_inj, unpackSign_toNat, BitVec.toNat_ofNat]
    omega
  unfold Sign.ofBitVec signOf
  by_cases h : bits.toNat < 2 ^ 63
  · rw [if_pos (hiff.mpr h), if_pos h]
  · rw [if_neg fun hzero => h (hiff.mp hzero), if_neg h]

/-- A sign and a height stand for a number. The height of a finite one says its exponent and its
mantissa, which is below `2 ^ 52` for the least exponent only. -/
inductive StandsFor (sign : Sign) (height : Nat) : UnpackedFloat → Prop
  | notANumber : StandsFor sign height .notANumber
  | infinity : height = 2047 * 2 ^ 52 → StandsFor sign height (.infinity sign)
  | zero : height = 0 → StandsFor sign height (.zero sign)
  | finite {mantissa : Nat} {exponent : Int} (hpos : 0 < mantissa) :
    (height : Int) = (exponent + 1074) * 2 ^ 52 + mantissa → mantissa < 2 ^ 53 →
    2 ^ 52 ≤ mantissa ∨ exponent = -1074 → -1074 ≤ exponent → exponent ≤ 971 →
    StandsFor sign height (.finite sign mantissa exponent hpos)

/-- Bits stand for the number that they are taken apart into. -/
theorem standsFor_unpack :
    StandsFor (signOf bits) (heightOf bits) (UnpackedFloat.unpack Format.binary64 bits) := by
  have hexponent := unpackExponent_toNat bits
  have hmantissa := unpackMantissa_toNat bits
  have hbias : Format.binary64.exponentBias = 1023 := rfl
  unfold UnpackedFloat.unpack heightOf
  dsimp only
  rw [ofBitVec_unpackSign]
  split
  · next htop =>
    rw [htop] at hexponent
    split
    · next hzero =>
      rw [hzero] at hmantissa
      refine .infinity ?_
      simp only [BitVec.toNat_ofNat, BitVec.toNat_neg] at hexponent hmantissa
      omega
    · exact .notANumber
  · next htop =>
    split
    · next hbottom =>
      rw [hbottom] at hexponent
      simp only [BitVec.toNat_ofNat, Nat.zero_mod] at hexponent
      split
      · next hzero =>
        rw [hzero] at hmantissa
        refine .zero ?_
        simp only [BitVec.toNat_ofNat, Nat.zero_mod] at hmantissa
        omega
      · rw [hbottom]
        refine .finite _ ?_ ?_ ?_ ?_ ?_ <;> simp [hmantissa, hbias] <;> omega
    · next hbottom =>
      have hbelow : bits.toNat / 2 ^ 52 % 2 ^ 11 ≠ 2047 := by
        intro h
        apply htop
        rw [← BitVec.toNat_inj, hexponent, h]
        rfl
      have habove : bits.toNat / 2 ^ 52 % 2 ^ 11 ≠ 0 := by
        intro h
        apply hbottom
        rw [← BitVec.toNat_inj, hexponent, h]
        rfl
      have hwhole : (1#1 ++ @unpackMantissa .binary64 bits).toNat =
          2 ^ 52 + bits.toNat % 2 ^ 52 := by
        rw [BitVec.toNat_append, hmantissa, Nat.shiftLeft_eq, Nat.mul_comm,
          ← Nat.two_pow_add_eq_or_of_lt (Nat.mod_lt _ (Nat.two_pow_pos 52))]
        rfl
      refine .finite _ ?_ ?_ ?_ ?_ ?_ <;> simp [hbias, hwhole, hexponent] <;> omega

/-! ## Places -/

/-- The place of a number with some sign and height. -/
def placeOf : Sign → Nat → Int
  | .positive, height => height
  | .negative, height => -1 - height

/-- The place of a number in the total order, by the sign and the height of its bits. -/
theorem rank_eq (x : Float) :
    rank x = placeOf (signOf x.toBits.toBitVec) (heightOf x.toBits.toBitVec) := by
  have hbits : x.toBits.toNat < 2 ^ 64 := x.toBits.toNat_lt
  have hhalf : ((Nat.pow 2 63 : Nat) : Int) = 2 ^ 63 := rfl
  unfold rank signOf heightOf
  dsimp only
  rw [hhalf, UInt64.toNat_toBitVec]
  by_cases h : x.toBits.toNat < 2 ^ 63
  · rw [if_pos (by omega), if_pos h, placeOf]
    omega
  · rw [if_neg (by omega), if_neg h, placeOf]
    omega

variable {s t : Sign} {h k : Nat} {u v : UnpackedFloat}

/-- Of two finite numbers the one with the lower exponent, or with the same exponent and the lower
mantissa, has the lower height. -/
theorem height_lt_height {m n : Nat} {d e : Int}
    (hlt : (compare d e).then (compare m n) = .lt) (hm : m < 2 ^ 53)
    (hn : 2 ^ 52 ≤ n ∨ e = -1074) (hd : -1074 ≤ d) :
    (d + 1074) * 2 ^ 52 + m < (e + 1074) * 2 ^ 52 + n := by
  rcases Ordering.then_eq_lt.mp hlt with hexponents | ⟨hexponents, hmantissas⟩
  · rw [Int.compare_eq_lt] at hexponents
    omega
  · rw [Int.compare_eq_eq] at hexponents
    rw [Nat.compare_eq_lt] at hmantissas
    omega

/-- Positive numbers have greater heights the greater they are. -/
theorem height_lt_of_positive (hu : StandsFor .positive h u) (hv : StandsFor .positive k v)
    (hlt : u.compare v = some .lt) : h < k := by
  cases hu with
  | notANumber => cases hlt
  | infinity => cases hv <;> cases hlt
  | zero =>
    cases hv with
    | finite => omega
    | infinity => omega
    | _ => cases hlt
  | finite _ hheight hm _ hd =>
    cases hv with
    | finite _ hheight' _ hn =>
      have hheights := height_lt_height (Option.some.inj hlt) hm hn hd
      omega
    | infinity => omega
    | _ => cases hlt

/-- Negative numbers have smaller heights the greater they are. -/
theorem height_lt_of_negative (hu : StandsFor .negative h u) (hv : StandsFor .negative k v)
    (hlt : u.compare v = some .lt) : k < h := by
  cases hu with
  | notANumber => cases hlt
  | infinity =>
    cases hv with
    | finite => omega
    | zero => omega
    | _ => cases hlt
  | zero => cases hv <;> cases hlt
  | finite _ hheight _ hm hd =>
    cases hv with
    | finite _ hheight' hn _ he =>
      have hswapped := Option.some.inj hlt
      rw [Ordering.swap_then, Int.compare_swap, Nat.compare_swap] at hswapped
      have hheights := height_lt_height hswapped hn hm he
      omega
    | zero => omega
    | _ => cases hlt

/-- Numbers that compare as less have lower places. -/
theorem placeOf_lt_placeOf (hu : StandsFor s h u) (hv : StandsFor t k v)
    (hlt : u.compare v = some .lt) : placeOf s h < placeOf t k := by
  cases s with
  | positive =>
    cases t with
    | positive => exact Int.ofNat_lt.mpr (height_lt_of_positive hu hv hlt)
    | negative => cases hu <;> cases hv <;> cases hlt
  | negative =>
    cases t with
    | positive =>
      simp only [placeOf]
      omega
    | negative =>
      have hheights := height_lt_of_negative hu hv hlt
      simp only [placeOf]
      omega

/-- Different numbers have different places. -/
theorem rank_injective {x y : Float} (hrank : rank x = rank y) : x = y := by
  have hbits : x.toBits = y.toBits := by
    have hhalf : ((Nat.pow 2 63 : Nat) : Int) = 2 ^ 63 := rfl
    rw [← UInt64.toNat_inj]
    unfold rank at hrank
    dsimp only at hrank
    rw [hhalf] at hrank
    omega
  obtain ⟨⟨xbits, hvalid⟩⟩ := x
  obtain ⟨⟨ybits, hvalid'⟩⟩ := y
  cases (hbits : xbits = ybits)
  rfl

/-- A number that is less than another one has a lower place in the total order. -/
theorem rank_lt_rank {x y : Float} (hlt : x < y) : rank x < rank y := by
  have hcompare : (UnpackedFloat.unpack Format.binary64 x.toBits.toBitVec).compare
      (UnpackedFloat.unpack Format.binary64 y.toBits.toBitVec) = some .lt :=
    eq_of_beq (of_decide_eq_true hlt)
  rw [rank_eq, rank_eq]
  exact placeOf_lt_placeOf (standsFor_unpack _) (standsFor_unpack _) hcompare

end ArtifactPipeline.Decimal
