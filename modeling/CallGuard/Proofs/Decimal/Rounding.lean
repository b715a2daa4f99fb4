import CallGuard.Decimal.Shortest
import Mathlib

/-!
# How floats are rounded

The product of two floats is computed as a whole number with too many digits, which is shifted
down to fifty-three of them, rounded, shifted once more if the rounding carried, and packed into
sixty-four bits. Each of these steps is followed through here for numbers that have digits enough,
and the reading of a float by its bits is shown to be that of its arithmetic.
-/

namespace CallGuard.Decimal

open Float.Model (Format totalExponent UnpackedFloat)
open Float.Model.UnpackedFloat

def Parts.ofUnpacked : UnpackedFloat → Parts
  | .notANumber => .nan
  | .infinity sign => .infinite (sign == .negative)
  | .zero sign => .finite (sign == .negative) ⟨0, -1074⟩
  | .finite sign m e _ => .finite (sign == .negative) ⟨m, e⟩

section Fields

variable (b : BitVec Format.binary64.numBits)

theorem toNat_unpackMantissa : (unpackMantissa b).toNat = b.toNat % 2 ^ 52 := by
  simp [unpackMantissa]

theorem toNat_unpackExponent : (unpackExponent b).toNat = b.toNat / 2 ^ 52 % 2 ^ 11 := by
  rw [unpackExponent_def, BitVec.extractLsb'_toNat, Nat.shiftRight_eq_div_pow]

theorem ofBitVec_unpackSign :
    (Sign.ofBitVec (unpackSign b) == .negative) = (b.toNat / 2 ^ 63 == 1) := by
  have hNat : (b.extractLsb' 63 1).toNat = b.toNat / 2 ^ 63 := by
    have hWord : b.toNat < 2 ^ 64 := b.isLt
    rw [BitVec.extractLsb'_toNat, Nat.shiftRight_eq_div_pow]
    omega
  rw [unpackSign_def, ← hNat]
  change (Sign.ofBitVec (b.extractLsb' 63 1) == .negative) = _
  generalize b.extractLsb' 63 1 = v
  revert v
  decide

/-- The leading digit of a mantissa is not stored. -/
theorem toNat_one_append (v : BitVec 52) : (1#1 ++ v).toNat = v.toNat + 2 ^ 52 := by
  rw [BitVec.toNat_append, ← Nat.shiftLeft_add_eq_or_of_lt v.isLt, Nat.add_comm]
  rfl

end Fields

theorem parts_eq (x : Float) : parts x = .ofUnpacked x.toModel.unpack := by
  let b : BitVec Format.binary64.numBits := x.toModel.toBits.toBitVec
  have hMantissa := toNat_unpackMantissa b
  have hExponent := toNat_unpackExponent b
  have hSign := ofBitVec_unpackSign b
  have hLast : unpackExponent b = -1#11 ↔ b.toNat / 2 ^ 52 % 2 ^ 11 = 2047 := by
    rw [← hExponent, ← BitVec.toNat_inj]
    rfl
  have hFirst : unpackExponent b = 0#11 ↔ b.toNat / 2 ^ 52 % 2 ^ 11 = 0 := by
    rw [← hExponent, ← BitVec.toNat_inj]
    rfl
  have hZero : unpackMantissa b = 0#52 ↔ b.toNat % 2 ^ 52 = 0 := by
    rw [← hMantissa, ← BitVec.toNat_inj]
    rfl
  have hParts : parts x =
      if b.toNat / 2 ^ 52 % 2 ^ 11 = 2047 then
        if b.toNat % 2 ^ 52 = 0 then .infinite (b.toNat / 2 ^ 63 == 1) else .nan
      else if b.toNat / 2 ^ 52 % 2 ^ 11 = 0 then
        .finite (b.toNat / 2 ^ 63 == 1) ⟨b.toNat % 2 ^ 52, -1074⟩
      else
        .finite (b.toNat / 2 ^ 63 == 1)
          ⟨b.toNat % 2 ^ 52 + 2 ^ 52, (b.toNat / 2 ^ 52 % 2 ^ 11 : Nat) - 1075⟩ := rfl
  rw [hParts]
  change _ = Parts.ofUnpacked (UnpackedFloat.unpack Format.binary64 b)
  rw [UnpackedFloat.unpack]
  by_cases hTop : b.toNat / 2 ^ 52 % 2 ^ 11 = 2047
  · rw [if_pos hTop, if_pos (hLast.mpr hTop)]
    by_cases hNone : b.toNat % 2 ^ 52 = 0
    · rw [if_pos hNone, if_pos (hZero.mpr hNone), Parts.ofUnpacked, hSign]
    · rw [if_neg hNone, if_neg (mt hZero.mp hNone), Parts.ofUnpacked]
  · rw [if_neg hTop, if_neg (mt hLast.mp hTop)]
    by_cases hBottom : b.toNat / 2 ^ 52 % 2 ^ 11 = 0
    · rw [if_pos hBottom, if_pos (hFirst.mpr hBottom)]
      by_cases hNone : b.toNat % 2 ^ 52 = 0
      · rw [dif_pos (hZero.mpr hNone), Parts.ofUnpacked, hSign, hNone]
      · rw [dif_neg (mt hZero.mp hNone), Parts.ofUnpacked, hSign, hMantissa, hExponent, hBottom]
        rfl
    · have hWhole : (1#1 ++ unpackMantissa b).toNat = b.toNat % 2 ^ 52 + 2 ^ 52 :=
        hMantissa ▸ toNat_one_append (unpackMantissa b)
      rw [if_neg hBottom, if_neg (mt hFirst.mp hBottom), Parts.ofUnpacked, hSign, hExponent, hWhole]
      rfl

structure IsFull (m : Nat) : Prop where
  low : 2 ^ 52 ≤ m
  high : m < 2 ^ 53

theorem log2_mul_two_pow {n : Nat} (hPos : 0 < n) (s : Nat) : (n * 2 ^ s).log2 = n.log2 + s := by
  have hScaled := Nat.mul_pos hPos (Nat.two_pow_pos s)
  obtain ⟨hLow, hHigh⟩ := (Nat.log2_eq_iff (Nat.ne_of_gt hPos)).mp rfl
  rw [Nat.log2_eq_iff (Nat.ne_of_gt hScaled), Nat.pow_add, Nat.add_right_comm, Nat.pow_add]
  exact ⟨Nat.mul_le_mul_right _ hLow, Nat.mul_lt_mul_of_pos_right hHigh (Nat.two_pow_pos s)⟩

namespace IsFull

variable {m : Nat}

theorem pos (hFull : IsFull m) : 0 < m := Nat.lt_of_lt_of_le (Nat.two_pow_pos 52) hFull.low

theorem log2 (hFull : IsFull m) : m.log2 = 52 :=
  (Nat.log2_eq_iff (Nat.ne_of_gt hFull.pos)).mpr ⟨hFull.low, hFull.high⟩

end IsFull

theorem isFull_two_pow : IsFull (2 ^ 52) := ⟨Nat.le_refl _, by decide⟩

/-- Of the digits that are shifted out only those that are not zero leave a trace. -/
theorem shiftRight_exact (m s : Nat) :
    ExtendedMantissa.ofMantissaAndAccuracy (m * 2 ^ s) .exact >>> s =
      .ofMantissaAndAccuracy m .exact := by
  change Nat.repeat ExtendedMantissa.shiftRightOne s _ = _
  induction s generalizing m with
  | zero => rw [Nat.pow_zero, Nat.mul_one, Nat.repeat]
  | succ s ih =>
    rw [Nat.repeat, Nat.pow_succ', ← Nat.mul_assoc, ih]
    simp [ExtendedMantissa.shiftRightOne, ExtendedMantissa.ofMantissaAndAccuracy]

theorem mantissa_shiftRight (em : ExtendedMantissa) (s : Nat) :
    (em >>> s).mantissa = em.mantissa / 2 ^ s := by
  change (Nat.repeat ExtendedMantissa.shiftRightOne s em).mantissa = _
  induction s with
  | zero => rw [Nat.pow_zero, Nat.div_one, Nat.repeat]
  | succ s ih =>
    rw [Nat.repeat, ExtendedMantissa.shiftRightOne, ih, Nat.div_div_eq_div_mul, Nat.pow_succ]

theorem roundedMantissa_bounds (em : ExtendedMantissa) :
    em.mantissa ≤ em.roundedMantissa ∧ em.roundedMantissa ≤ em.mantissa + 1 := by
  unfold ExtendedMantissa.roundedMantissa
  cases em.accuracy with
  | exact => exact ⟨Nat.le_refl _, Nat.le_succ _⟩
  | inexact side => cases side <;> simp only [Accuracy.roundToNearestEven] <;> omega

section Shifting

variable {p s : Nat} {e : Int}

theorem shiftToTargetExponent_eq (hDigits : p.log2 = 52 + s) (hLarge : -1074 ≤ e + s) :
    shiftToTargetExponent Format.binary64 p e .exact =
      (ExtendedMantissa.ofMantissaAndAccuracy p .exact >>> s, e + s) := by
  have hTarget : Format.binary64.targetExponent (totalExponent p e) = e + s := by
    simp only [Format.targetExponent, totalExponent, Format.mantissaBits, Format.minExponent,
      hDigits]
    omega
  have hShift : (e + s - e).toNat = s := by omega
  rw [shiftToTargetExponent, hTarget, shiftToExponent]
  simp only [hShift]

theorem shiftToTargetExponent_mul (hFull : IsFull p) (s : Nat) (hLarge : -1074 ≤ e + s) :
    shiftToTargetExponent Format.binary64 (p * 2 ^ s) e .exact =
      (.ofMantissaAndAccuracy p .exact, e + s) := by
  have hDigits : (p * 2 ^ s).log2 = 52 + s := by rw [log2_mul_two_pow hFull.pos, hFull.log2]
  rw [shiftToTargetExponent_eq hDigits hLarge, shiftRight_exact]

/-- The second shift takes back what the rounding has carried. -/
theorem roundWithAccuracy_of_shift {first : ExtendedMantissa} {m : Nat} (sign : Sign)
    (hFirst : shiftToTargetExponent Format.binary64 p e .exact = (first, e + s))
    (hFull : IsFull m) (t : Nat) (hRounded : first.roundedMantissa = m * 2 ^ t)
    (hLarge : -1074 ≤ e + s) :
    roundWithAccuracy Format.binary64 sign p e .exact =
      .finite sign m (e + s + t) hFull.pos := by
  have hAgain := shiftToTargetExponent_mul (e := e + s) hFull t (by omega)
  rw [roundWithAccuracy, hFirst]
  simp only [hRounded, hAgain]
  exact dif_neg (Nat.ne_of_gt hFull.pos)

/-- A number that has only zeros behind its first fifty-three digits is not rounded. -/
theorem roundWithAccuracy_exact (sign : Sign) (hFull : IsFull p) (s : Nat)
    (hLarge : -1074 ≤ e + s) :
    roundWithAccuracy Format.binary64 sign (p * 2 ^ s) e .exact =
      .finite sign p (e + s) hFull.pos := by
  have hRounded := roundWithAccuracy_of_shift sign (shiftToTargetExponent_mul hFull s hLarge)
    hFull 0 (Nat.mul_one p).symm hLarge
  rw [hRounded]
  simp

/-- Any other keeps its digits up to the last one, and only a row of ones can carry over. -/
theorem roundWithAccuracy_of_digits (sign : Sign) (hDigits : p.log2 = 52 + s)
    (hLarge : -1074 ≤ e + s) :
    ∃ m t, ∃ hFull : IsFull m, t ≤ 1 ∧ (p / 2 ^ s + 1 < 2 ^ 53 → t = 0) ∧
      roundWithAccuracy Format.binary64 sign p e .exact =
        .finite sign m (e + s + (t : Nat)) hFull.pos := by
  have hFirst := shiftToTargetExponent_eq hDigits hLarge
  have hBounds := roundedMantissa_bounds (ExtendedMantissa.ofMantissaAndAccuracy p .exact >>> s)
  rw [mantissa_shiftRight] at hBounds
  change p / 2 ^ s ≤ _ ∧ _ ≤ p / 2 ^ s + 1 at hBounds
  have hPos : p ≠ 0 := by
    rintro rfl
    rw [Nat.log2_zero] at hDigits
    omega
  obtain ⟨hLow, hHigh⟩ := (Nat.log2_eq_iff hPos).mp hDigits
  have hQuotientLow : 2 ^ 52 ≤ p / 2 ^ s := by
    rw [Nat.le_div_iff_mul_le (Nat.two_pow_pos s), ← Nat.pow_add]
    exact hLow
  have hQuotientHigh : p / 2 ^ s < 2 ^ 53 := by
    rw [Nat.div_lt_iff_lt_mul (Nat.two_pow_pos s), ← Nat.pow_add]
    rwa [Nat.add_right_comm] at hHigh
  by_cases hCarry :
      (ExtendedMantissa.ofMantissaAndAccuracy p .exact >>> s).roundedMantissa = 2 ^ 53
  · refine ⟨2 ^ 52, 1, isFull_two_pow, Nat.le_refl 1, by omega, ?_⟩
    exact roundWithAccuracy_of_shift sign hFirst isFull_two_pow 1 hCarry hLarge
  · have hFull : IsFull (ExtendedMantissa.ofMantissaAndAccuracy p .exact >>> s).roundedMantissa :=
      ⟨by omega, by omega⟩
    refine ⟨_, 0, hFull, Nat.zero_le 1, fun _ => rfl, ?_⟩
    exact roundWithAccuracy_of_shift sign hFirst hFull 0 (Nat.mul_one _).symm hLarge

end Shifting

theorem unpack_packComponents (sign : Sign) {m f : Nat} (hFull : IsFull m) (hLow : 0 < f)
    (hHigh : f < 2047) :
    UnpackedFloat.unpack Format.binary64
        (packComponents Format.binary64 sign (.ofNat 11 f) (.ofNat 52 m)) =
      .finite sign m (f - 1075) hFull.pos := by
  have hField : (BitVec.ofNat 11 f).toNat = f := by
    rw [BitVec.toNat_ofNat]
    omega
  have hLast : BitVec.ofNat 11 f ≠ -1#11 := by
    rw [Ne, ← BitVec.toNat_inj, hField]
    exact Nat.ne_of_lt hHigh
  have hFirst : BitVec.ofNat 11 f ≠ 0#11 := by
    rw [Ne, ← BitVec.toNat_inj, hField]
    exact Nat.ne_of_gt hLow
  have hMantissa : (1#1 ++ BitVec.ofNat 52 m).toNat = m := by
    have hBottom := hFull.low
    have hTop := hFull.high
    rw [toNat_one_append, BitVec.toNat_ofNat]
    omega
  simp only [UnpackedFloat.unpack, unpackExponent_packComponents, unpackMantissa_packComponents,
    unpackSign_packComponents, Sign.ofBitVec_toBitVec]
  rw [if_neg hLast, if_neg hFirst]
  simp only [hMantissa, hField]
  rfl

/-- Packing loses nothing but numbers from 2^1024 on. -/
theorem unpack_pack (sign : Sign) {m : Nat} {e : Int} (hFull : IsFull m) (hLow : -1074 ≤ e) :
    (Float.Model.pack (.finite sign m e hFull.pos)).unpack =
      if e ≤ 971 then .finite sign m e hFull.pos else .infinity sign := by
  have hBias : (e + Format.binary64.exponentBias +
      Format.binary64.mantissaBitsWithoutImplicit).toNat = (e + 1075).toNat := by
    change (e + 1023 + 52).toNat = _
    omega
  have hDigits : m.log2 + 1 = Format.binary64.mantissaBits := by
    rw [hFull.log2]
    rfl
  change UnpackedFloat.unpack _ (UnpackedFloat.pack _ _) = _
  rw [UnpackedFloat.pack, hBias]
  by_cases hHigh : e ≤ 971
  · have hRoom : ¬ 2 ^ Format.binary64.exponentBits ≤ (e + 1075).toNat + 1 := by
      change ¬ 2048 ≤ _
      omega
    rw [if_neg hRoom, if_pos hDigits, if_pos hHigh]
    refine (unpack_packComponents sign hFull (by omega) (by omega)).trans ?_
    congr 1
    omega
  · have hRoom : 2 ^ Format.binary64.exponentBits ≤ (e + 1075).toNat + 1 := by
      change 2048 ≤ _
      omega
    rw [if_pos hRoom, if_neg hHigh]
    cases sign <;> rfl

end CallGuard.Decimal
