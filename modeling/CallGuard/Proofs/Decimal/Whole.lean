import CallGuard.Proofs.Decimal.Scaled

/-!
# Floats that are natural numbers

Natural numbers that have no digits beyond the first fifty-three are converted without loss, small
ones as words and large ones as decimals without a fraction. Products of such numbers are exact as
long as they are small enough, even if a square that nobody uses is not.
-/

namespace CallGuard.Decimal

open Float.Model (Format totalExponent UnpackedFloat)
open Float.Model.UnpackedFloat

section Naturals

variable {n m k : Nat}

theorem pos_of_value (hm : IsFull m) (hValue : m * 2 ^ k = n * 2 ^ 52) : 0 < n := by
  have hPos := Nat.mul_pos hm.pos (Nat.two_pow_pos k)
  rw [hValue] at hPos
  exact Nat.pos_of_mul_pos_right hPos

theorem log2_of_value (hm : IsFull m) (hValue : m * 2 ^ k = n * 2 ^ 52) : n.log2 = k := by
  have hDigits := congrArg Nat.log2 hValue
  rw [log2_mul_two_pow hm.pos, log2_mul_two_pow (pos_of_value hm hValue), hm.log2] at hDigits
  omega

theorem exponent_le (hm : IsFull m) (hValue : m * 2 ^ k = n * 2 ^ 52) (hSmall : n ≤ 2 ^ 53) :
    k ≤ 53 := by
  have hPos := pos_of_value hm hValue
  rw [← log2_of_value hm hValue]
  exact Nat.le_of_lt_succ ((Nat.log2_lt (Nat.ne_of_gt hPos)).mpr (by omega))

theorem isScaled_toFloat (hSmall : n < 2 ^ 53) (hm : IsFull m)
    (hValue : m * 2 ^ k = n * 2 ^ 52) : IsScaled n.toUInt64.toFloat m k := by
  have hPos := pos_of_value hm hValue
  have hDigits := log2_of_value hm hValue
  have hShort : k ≤ 52 := by
    rw [← hDigits]
    exact Nat.le_of_lt_succ ((Nat.log2_lt (Nat.ne_of_gt hPos)).mpr hSmall)
  have hMantissa : n <<< (52 - k) = m := by
    rw [Nat.shiftLeft_eq]
    refine Nat.eq_of_mul_eq_mul_right (Nat.two_pow_pos k) ?_
    rw [hValue, Nat.mul_assoc, ← Nat.pow_add, Nat.sub_add_cancel hShort]
  have hTarget : Format.binary64.targetExponent (totalExponent n 0) = (k : Int) - 52 := by
    simp only [Format.targetExponent, totalExponent, Format.mantissaBits, Format.minExponent,
      hDigits]
    omega
  have hShift : (0 - ((k : Int) - 52)).toNat = 52 - k := by omega
  have hWord : n.toUInt64.toNat = n := Nat.mod_eq_of_lt (by omega)
  have hPack : n.toUInt64.toFloat.toModel =
      Float.Model.pack (UnpackedFloat.ofInt Format.binary64 n.toUInt64.toNat) := rfl
  have hExponent : 0 - ((52 - k : Nat) : Int) = k - 52 := by omega
  have hExact := roundWithAccuracy_exact .positive hm 0 (e := k - 52) (by omega)
  rw [Nat.pow_zero, Nat.mul_one, Nat.cast_zero, add_zero] at hExact
  refine .of_pack hm (hPack.trans ?_)
  rw [hWord, UnpackedFloat.ofInt, UnpackedFloat.normalize, Int.compare_eq_gt.mpr (by omega)]
  simp only [UnpackedFloat.round, Int.toNat_natCast, hTarget, decreaseExponent, hShift, hMantissa,
    hExponent, hExact]

theorem mul_finite (sign₁ sign₂ : Sign) {m₁ m₂ : Nat} (e₁ e₂ : Int) (hPos₁ : 0 < m₁)
    (hPos₂ : 0 < m₂) :
    UnpackedFloat.mul Format.binary64 (.finite sign₁ m₁ e₁ hPos₁) (.finite sign₂ m₂ e₂ hPos₂) =
      roundWithAccuracy Format.binary64 (sign₁ * sign₂) (m₁ * m₂) (e₁ + e₂) .exact := rfl

theorem isScaled_ofNat_of_lt (hSmall : n < 2 ^ 53) (hm : IsFull m)
    (hValue : m * 2 ^ k = n * 2 ^ 52) : IsScaled (Float.ofNat n) m k := by
  -- A word is converted and multiplied with one, which has these bits.
  have hProduct : Float.ofNat n = n.toUInt64.toFloat * Float.ofBits 4607182418800017408 :=
    dif_pos ⟨hSmall, by decide⟩
  have hOne : IsScaled (Float.ofBits 4607182418800017408) (2 ^ 52) 0 := ⟨isFull_two_pow, rfl⟩
  rw [hProduct]
  exact (isScaled_toFloat hSmall hm hValue).mul_exact (t := 0) hOne hm rfl

theorem isScaled_ofNat_of_le (hLarge : 2 ^ 53 ≤ n) (hm : IsFull m)
    (hValue : m * 2 ^ k = n * 2 ^ 52) : IsScaled (Float.ofNat n) m k := by
  have hPos : n ≠ 0 := Nat.ne_of_gt (pos_of_value hm hValue)
  have hModel : (Float.ofNat n).toModel =
      Float.Model.pack (UnpackedFloat.ofScientific Format.binary64 n 0) :=
    congrArg Float.toModel (dif_neg fun hBoth => Nat.not_lt.mpr hLarge hBoth.1)
  have hMantissa : n <<< Format.binary64.mantissaBits * 10 ^ (0 : Int).toNat =
      m * 2 ^ (k + 1) := by
    change n <<< 53 * 1 = _
    rw [Nat.shiftLeft_eq, Nat.pow_succ 2 k, ← Nat.mul_assoc, hValue]
    omega
  have hBits : (Format.binary64.mantissaBits : Int) = 53 := rfl
  have hRange : (0 : Int) < 2 ^ Format.binary64.exponentBits := by decide
  have hExponent : (-53 + 0 + ((k + 1 : Nat) : Int)) = k - 52 := by omega
  have hExact := roundWithAccuracy_exact .positive hm (k + 1) (e := -53 + 0) (by omega)
  simp only [hExponent] at hExact
  refine .of_pack hm (hModel.trans (congrArg Float.Model.pack ?_))
  rw [UnpackedFloat.ofScientific, dif_neg hPos, if_neg (by decide), if_neg (by omega),
    if_pos (by decide), mul_finite, hMantissa, hBits]
  exact hExact

theorem isScaled_ofNat (hm : IsFull m) (hValue : m * 2 ^ k = n * 2 ^ 52) :
    IsScaled (Float.ofNat n) m k := by
  obtain hSmall | hLarge := Nat.lt_or_ge n (2 ^ 53)
  · exact isScaled_ofNat_of_lt hSmall hm hValue
  · exact isScaled_ofNat_of_le hLarge hm hValue

theorem isScaled_two_pow (j : Nat) : IsScaled (Float.ofNat (2 ^ j)) (2 ^ 52) j :=
  isScaled_ofNat isFull_two_pow (Nat.mul_comm _ _)

/-- Up to 2^53 a natural number can be written with a full mantissa. -/
theorem exists_isFull (hPos : 0 < n) (hSmall : n ≤ 2 ^ 53) :
    ∃ m k, IsFull m ∧ m * 2 ^ k = n * 2 ^ 52 := by
  obtain rfl | hLess := Nat.eq_or_lt_of_le hSmall
  · exact ⟨2 ^ 52, 53, isFull_two_pow, Nat.mul_comm _ _⟩
  have hShort : n.log2 ≤ 52 :=
    Nat.le_of_lt_succ ((Nat.log2_lt (Nat.ne_of_gt hPos)).mpr hLess)
  obtain ⟨hLow, hHigh⟩ := (Nat.log2_eq_iff (Nat.ne_of_gt hPos)).mp rfl
  have hRest : 2 ^ (52 - n.log2) * 2 ^ n.log2 = 2 ^ 52 := by
    rw [← Nat.pow_add, Nat.sub_add_cancel hShort]
  refine ⟨n * 2 ^ (52 - n.log2), n.log2, ⟨?_, ?_⟩, ?_⟩
  · rw [← hRest, Nat.mul_comm]
    exact Nat.mul_le_mul_right _ hLow
  · rw [Nat.pow_succ, ← hRest, Nat.mul_assoc, ← Nat.pow_succ, Nat.mul_comm]
    exact Nat.mul_lt_mul_of_pos_left hHigh (Nat.two_pow_pos _)
  · rw [Nat.mul_assoc, hRest]

/-- Two full mantissas have a product with a hundred and five digits at least, so what is missing to
the digits of `q` are zeros. -/
theorem exists_carry {n q l j : Nat} (hm : IsFull m) (hn : IsFull n) (hq : IsFull q)
    (hDigits : m * n * 2 ^ (k + l) = q * 2 ^ (j + 52)) :
    ∃ t, j = k + l + t ∧ m * n = q * 2 ^ (52 + t) := by
  have hPower : 2 ^ (k + l + 104) < 2 ^ (j + 105) := by
    calc 2 ^ (k + l + 104) = 2 ^ 52 * 2 ^ 52 * 2 ^ (k + l) := by ring
      _ ≤ m * n * 2 ^ (k + l) := Nat.mul_le_mul_right _ (Nat.mul_le_mul hm.low hn.low)
      _ = q * 2 ^ (j + 52) := hDigits
      _ < 2 ^ 53 * 2 ^ (j + 52) := Nat.mul_lt_mul_of_pos_right hq.high (Nat.two_pow_pos _)
      _ = 2 ^ (j + 105) := by ring
  have hLess := (Nat.pow_lt_pow_iff_right (by decide)).mp hPower
  obtain ⟨t, rfl⟩ := Nat.exists_eq_add_of_le (show k + l ≤ j by omega)
  refine ⟨t, rfl, Nat.eq_of_mul_eq_mul_right (Nat.two_pow_pos (k + l)) ?_⟩
  rw [hDigits, Nat.mul_assoc, ← Nat.pow_add]
  congr 2
  omega

end Naturals

/-- The float is the natural number, as long as that is at most 2^53. -/
structure IsWhole (x : Float) (n : Nat) : Prop where
  pos : 0 < n
  scaled : n ≤ 2 ^ 53 → ∃ m k, m * 2 ^ k = n * 2 ^ 52 ∧ IsScaled x m k

namespace IsWhole

theorem one : IsWhole 1.0 1 :=
  ⟨Nat.one_pos, fun _ => ⟨2 ^ 52, 0, rfl, isScaled_one⟩⟩

theorem ofNat {n : Nat} (hPos : 0 < n) : IsWhole (Float.ofNat n) n where
  pos := hPos
  scaled hSmall := by
    obtain ⟨m, k, hm, hValue⟩ := exists_isFull hPos hSmall
    exact ⟨m, k, hValue, isScaled_ofNat hm hValue⟩

/-- A product that is small enough has small factors and loses none of its digits. -/
theorem mul {x y : Float} {u v : Nat} (hx : IsWhole x u) (hy : IsWhole y v) :
    IsWhole (x * y) (u * v) where
  pos := Nat.mul_pos hx.pos hy.pos
  scaled hSmall := by
    obtain ⟨m, k, hu, hm⟩ := hx.scaled ((Nat.le_mul_of_pos_right u hy.pos).trans hSmall)
    obtain ⟨n, l, hv, hn⟩ := hy.scaled ((Nat.le_mul_of_pos_left v hx.pos).trans hSmall)
    obtain ⟨q, j, hq, hValue⟩ := exists_isFull (Nat.mul_pos hx.pos hy.pos) hSmall
    have hDigits : m * n * 2 ^ (k + l) = q * 2 ^ (j + 52) := by
      calc m * n * 2 ^ (k + l) = m * 2 ^ k * (n * 2 ^ l) := by ring
        _ = u * v * 2 ^ 52 * 2 ^ 52 := by rw [hu, hv]; ring
        _ = q * 2 ^ (j + 52) := by rw [← hValue]; ring
    obtain ⟨t, rfl, hExact⟩ := exists_carry hm.full hn.full hq hDigits
    exact ⟨q, k + l + t, hValue, hm.mul_exact hn hq hExact⟩

end IsWhole

end CallGuard.Decimal
