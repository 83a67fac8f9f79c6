import ArtifactPipeline.Toml.Scalar
import Mathlib

/-!
# Decimals that are finite

A decimal fraction is read as the double-precision number nearest to it, which is not infinite as
long as there are few digits. A number of at most 53 bits stays finite while its exponent is at most
971, the exponent of a quotient exceeds that of the dividend only by as much as the divisor's is
negative, and packing keeps the bound.
-/

namespace ArtifactPipeline.Decimal

open Float.Model
open Float.Model.UnpackedFloat hiding unpack pack

/-- A number that is zero, or finite with at most 53 bits and an exponent of at most `k`. -/
def AtMost (k : Int) : UnpackedFloat → Prop
  | .zero _ => True
  | .finite _ mantissa exponent _ => mantissa < 2 ^ 53 ∧ exponent ≤ k
  | _ => False

/-- A number with a bounded exponent is not infinite. -/
theorem AtMost.isInf {k : Int} {x : UnpackedFloat} (h : AtMost k x) : x.isInf = false := by
  cases x with
  | infinity | notANumber => exact h.elim
  | zero | finite => rfl

/-! ## Rounding -/

/-- Shifting a mantissa to the right divides it. -/
theorem mantissa_shiftRight (m : ExtendedMantissa) (n : Nat) :
    (m >>> n).mantissa = m.mantissa / 2 ^ n := by
  induction n with
  | zero => simp [HShiftRight.hShiftRight, Nat.repeat]
  | succ n ih =>
    have hstep : (m >>> (n + 1)).mantissa = (m >>> n).mantissa / 2 := rfl
    rw [hstep, ih, Nat.div_div_eq_div_mul, Nat.pow_succ]

/-- What is known about the accuracy does not belong to the mantissa. -/
theorem mantissa_ofMantissaAndAccuracy (m : Nat) (a : Accuracy) :
    (ExtendedMantissa.ofMantissaAndAccuracy m a).mantissa = m := by
  unfold ExtendedMantissa.ofMantissaAndAccuracy
  split <;> rfl

/-- Rounding adds one at most. -/
theorem roundedMantissa_le (m : ExtendedMantissa) : m.roundedMantissa ≤ m.mantissa + 1 := by
  unfold ExtendedMantissa.roundedMantissa Accuracy.roundToNearestEven
  split <;> omega

/-- A mantissa is shifted to at most 53 bits, and the exponent grows by what is shifted out. -/
theorem shiftToTargetExponent_bounds (m : Nat) (e : Int) (a : Accuracy) :
    (shiftToTargetExponent .binary64 m e a).1.mantissa < 2 ^ 53 ∧
      (shiftToTargetExponent .binary64 m e a).2 =
        max e (max (m.log2 + 1 + e - 53) (-1074)) := by
  have htarget : Format.binary64.targetExponent (totalExponent m e) =
      max (m.log2 + 1 + e - 53) (-1074) := rfl
  unfold shiftToTargetExponent shiftToExponent
  simp only [htarget, mantissa_shiftRight, mantissa_ofMantissaAndAccuracy]
  refine ⟨?_, by omega⟩
  generalize hshift : (max (m.log2 + 1 + e - 53) (-1074) - e).toNat = n
  have hsize : m.log2 + 1 ≤ 53 + n := by omega
  rw [Nat.div_lt_iff_lt_mul (Nat.two_pow_pos n), ← Nat.pow_add]
  exact Nat.lt_of_lt_of_le Nat.lt_log2_self (Nat.pow_le_pow_right (by decide) hsize)

/-- A rounded number may have an exponent that is one higher, if rounding makes another bit. -/
theorem roundWithAccuracy_atMost {k : Int} {m : Nat} {e : Int} (he : e ≤ k)
    (hm : m.log2 + 1 + e - 53 ≤ k) (hk : -1074 ≤ k) (s : Sign) (a : Accuracy) :
    AtMost (k + 1) (roundWithAccuracy .binary64 s m e a) := by
  obtain ⟨hfirst, hexponent⟩ := shiftToTargetExponent_bounds m e a
  unfold roundWithAccuracy
  generalize shiftToTargetExponent .binary64 m e a = shifted at hfirst hexponent
  obtain ⟨m₁, e₁⟩ := shifted
  -- Rounding up may add a bit, which the second shift takes off again.
  obtain ⟨hsecond, hlast⟩ := shiftToTargetExponent_bounds m₁.roundedMantissa e₁ .exact
  have hrounded : m₁.roundedMantissa.log2 < 54 := by
    have hle := roundedMantissa_le m₁
    rcases Nat.eq_zero_or_pos m₁.roundedMantissa with h | h
    · simp [h]
    · rw [Nat.log2_lt (by omega)]
      simp only at hfirst
      omega
  dsimp only at hexponent hlast ⊢
  split
  · trivial
  · refine ⟨hsecond, ?_⟩
    rw [hlast]
    omega

/-- Shifting to the left adds as many bits at most. -/
theorem log2_shiftLeft_le (m n : Nat) : (m <<< n).log2 ≤ m.log2 + n := by
  rcases Nat.eq_zero_or_pos (m <<< n) with h | h
  · simp [h]
  · refine Nat.lt_succ_iff.mp ((Nat.log2_lt (by omega)).mpr ?_)
    rw [Nat.shiftLeft_eq, ← Nat.succ_add, Nat.pow_add]
    exact Nat.mul_lt_mul_of_pos_right Nat.lt_log2_self (Nat.two_pow_pos n)

/-- A smaller number does not have more bits. -/
theorem log2_le_log2 {m n : Nat} (h : m ≤ n) : m.log2 ≤ n.log2 := by
  rcases Nat.eq_zero_or_pos m with rfl | hm
  · simp
  · exact (Nat.le_log2 (by omega)).mpr (Nat.le_trans (Nat.log2_self_le (by omega)) h)

/-- A number of 64 bits loses at most twelve of them. -/
theorem ofNat_atMost {n : Nat} (hn : n < 2 ^ 64) : AtMost 12 (UnpackedFloat.ofNat .binary64 n) := by
  unfold UnpackedFloat.ofNat UnpackedFloat.ofInt UnpackedFloat.normalize
  split
  · next h =>
    rw [Std.compare_eq_lt] at h
    omega
  · trivial
  · next h =>
    rw [Std.compare_eq_gt] at h
    have hlog : n.log2 < 64 := (Nat.log2_lt (by omega)).mpr hn
    unfold UnpackedFloat.round decreaseExponent
    dsimp only
    generalize (0 - Format.binary64.targetExponent (totalExponent (n : Int).toNat 0)).toNat = shift
    have hshift := log2_shiftLeft_le (n : Int).toNat shift
    rw [Int.toNat_natCast] at hshift ⊢
    exact roundWithAccuracy_atMost (k := 11) (by omega) (by omega) (by decide) _ _

/-- The quotient of two finite numbers. -/
theorem div_atMost {k : Int} {s₁ s₂ : Sign} {m₁ m₂ : Nat} {e₁ e₂ : Int} (h₁ : 0 < m₁)
    (h₂ : 0 < m₂) (hexponent : e₁ - e₂ ≤ k) (hsize : m₁.log2 + 1 + e₁ - e₂ - 53 ≤ k)
    (hk : -1074 ≤ k) :
    AtMost (k + 1) (UnpackedFloat.div .binary64 (.finite s₁ m₁ e₁ h₁) (.finite s₂ m₂ e₂ h₂)) := by
  unfold UnpackedFloat.div divCore
  dsimp only
  generalize hshift : min (e₁ - e₂) _ = t
  have ht : t ≤ e₁ - e₂ := by omega
  refine roundWithAccuracy_atMost (by omega) ?_ hk _ _
  have hquotient := log2_le_log2 (Nat.div_le_self (m₁ <<< (e₁ - e₂ - t).toNat) m₂)
  have hshifted := log2_shiftLeft_le m₁ (e₁ - e₂ - t).toNat
  omega

/-! ## Packing -/

/-- Bits whose exponent is not the greatest one stand for a finite number. -/
theorem unpack_atMost {k : Int} {bits : BitVec 64} (hlow : -1074 ≤ k)
    (htop : (@unpackExponent .binary64 bits).toNat ≤ 2046)
    (hk : ((@unpackExponent .binary64 bits).toNat : Int) - 1075 ≤ k) :
    AtMost k (UnpackedFloat.unpack .binary64 bits) := by
  have hbias : ((Format.binary64.exponentBias : Nat) : Int) = 1023 := rfl
  have hmantissa := (@unpackMantissa .binary64 bits).isLt
  unfold UnpackedFloat.unpack
  dsimp only
  split
  · next hall =>
    rw [hall] at htop
    exact absurd htop (by decide)
  · split
    · next hzero =>
      split
      · trivial
      · refine ⟨Nat.lt_of_lt_of_le hmantissa (by decide), ?_⟩
        rw [hzero, hbias]
        simpa using hlow
    · refine ⟨(1#1 ++ @unpackMantissa .binary64 bits).isLt, ?_⟩
      rw [hbias]
      omega

/-- A number that is packed from its parts has the exponent that these parts say. -/
theorem unpack_packComponents_atMost {k : Int} (s : Sign) {exponent : BitVec 11}
    (mantissa : BitVec 52) (hlow : -1074 ≤ k) (htop : exponent.toNat ≤ 2046)
    (hk : (exponent.toNat : Int) - 1075 ≤ k) :
    AtMost k (UnpackedFloat.unpack .binary64 (packComponents .binary64 s exponent mantissa)) := by
  refine unpack_atMost hlow ?_ ?_
  · rwa [unpackExponent_packComponents]
  · rwa [unpackExponent_packComponents]

/-- A number with few bits and a bounded exponent is packed without becoming infinite. -/
theorem unpack_pack_atMost {k : Int} {x : UnpackedFloat} (h : AtMost k x) (hlow : -1074 ≤ k)
    (hhigh : k ≤ 971) :
    AtMost k (UnpackedFloat.unpack .binary64 (UnpackedFloat.pack .binary64 x)) := by
  have hbias : ((Format.binary64.exponentBias : Nat) : Int) = 1023 := rfl
  cases x with
  | infinity | notANumber => exact h.elim
  | zero s => exact unpack_packComponents_atMost s 0 hlow (by decide) (by simp; omega)
  | finite s m e hm =>
    obtain ⟨-, he⟩ := h
    have hbiased : (e + (Format.binary64.exponentBias : Nat) + (52 : Nat)).toNat ≤ 2046 := by
      rw [hbias]
      omega
    unfold UnpackedFloat.pack
    dsimp only
    rw [if_neg (by omega)]
    split
    · refine unpack_packComponents_atMost s _ hlow ?_ ?_
      · rw [BitVec.toNat_ofNat, Nat.mod_eq_of_lt (by omega)]
        exact hbiased
      · rw [BitVec.toNat_ofNat, Nat.mod_eq_of_lt (by omega), hbias]
        omega
    · exact unpack_packComponents_atMost s _ hlow (by simp) (by simp; omega)

/-! ## Decimals -/

/-- The exponent of a finite number. -/
def exponent? : UnpackedFloat → Option Int
  | .finite _ _ exponent _ => some exponent
  | _ => none

/-- The powers of ten that are held exactly have small exponents. -/
theorem powersOfTen_exponents : ∀ i : Fin 23,
    (exponent? Float.exactlyRepresentablePowersOfTen[i].toModel.unpack).any (-52 ≤ ·) := by
  decide

/-- A number of 64 bits over a power of ten that is held exactly. -/
theorem toFloat_div_isInf (n : UInt64) {places : Nat} (hplaces : places < 23) :
    (n.toFloat / Float.exactlyRepresentablePowersOfTen[places]).isInf = false := by
  have hpower := powersOfTen_exponents ⟨places, hplaces⟩
  simp only [Fin.getElem_fin] at hpower
  generalize Float.exactlyRepresentablePowersOfTen[places] = power at hpower
  have hfirst : AtMost 12 n.toFloat.toModel.unpack :=
    unpack_pack_atMost (ofNat_atMost n.toNat_lt) (by decide) (by decide)
  have hdefinition : (n.toFloat / power).isInf =
      (UnpackedFloat.unpack .binary64 (UnpackedFloat.pack .binary64
        (UnpackedFloat.div .binary64 n.toFloat.toModel.unpack power.toModel.unpack))).isInf := rfl
  rw [hdefinition]
  generalize n.toFloat.toModel.unpack = x at hfirst
  generalize power.toModel.unpack = y at hpower
  refine (unpack_pack_atMost (k := 65) ?_ (by decide) (by decide)).isInf
  cases y with
  | infinity | notANumber | zero => cases hpower
  | finite s₂ m₂ e₂ h₂ =>
    have he₂ : -52 ≤ e₂ := of_decide_eq_true hpower
    cases x with
    | infinity | notANumber => exact hfirst.elim
    | zero => trivial
    | finite s₁ m₁ e₁ h₁ =>
      obtain ⟨hm₁, he₁⟩ := hfirst
      have hlog : m₁.log2 < 53 := (Nat.log2_lt (by omega)).mpr hm₁
      refine div_atMost (k := 64) h₁ h₂ ?_ ?_ (by decide) <;> omega

/-- The number nearest to digits behind the decimal point. -/
theorem ofScientific_negative_isInf {digits : Nat} {e : Int} (hdigits : digits.log2 < 900)
    (he : e < 0) : (Float.Model.ofScientific digits e).isInf = false := by
  have hdefinition : (Float.Model.ofScientific digits e).isInf =
      (UnpackedFloat.unpack .binary64 (UnpackedFloat.pack .binary64
        (UnpackedFloat.ofScientific .binary64 digits e))).isInf := rfl
  have hlargest : (0 : Int) < 2 ^ Format.binary64.exponentBits := by decide
  rw [hdefinition]
  refine (unpack_pack_atMost (k := 901) ?_ (by decide) (by decide)).isInf
  unfold UnpackedFloat.ofScientific
  split
  · trivial
  · next hne =>
    rw [if_neg (by omega)]
    split
    · trivial
    · rw [if_neg (by omega)]
      exact div_atMost (k := 900) (Nat.pos_of_ne_zero hne) (Nat.pow_pos (by decide)) (by decide)
        (by omega) (by decide)

/-- A decimal with places behind the point is finite. -/
theorem ofScientific_isInf {digits places : Nat} (hdigits : digits.log2 < 900)
    (hplaces : 0 < places) : (Float.ofScientific digits true places).isInf = false := by
  rw [Float.ofScientific]
  split
  · next h =>
    obtain ⟨hsmall, hexact⟩ := h
    simp only [if_true]
    exact toFloat_div_isInf digits.toUInt64 (by omega)
  · simp only [if_true]
    obtain ⟨n, rfl⟩ := Nat.exists_eq_succ_of_ne_zero (Nat.pos_iff_ne_zero.mp hplaces)
    exact ofScientific_negative_isInf hdigits (Int.negSucc_lt_zero n)

/-- The number nearest to digits behind the decimal point is finite. -/
theorem nearestFloat_isInf {digits : Nat} {exponent : Int} (hdigits : digits.log2 < 900)
    (hexponent : exponent < 0) : (Toml.nearestFloat digits exponent).isInf = false := by
  unfold Toml.nearestFloat
  split
  · decide
  · have hsmall : ¬ exponent > 400 := by omega
    rw [if_neg hsmall]
    exact ofScientific_isInf hdigits (by omega)

end ArtifactPipeline.Decimal
