import CallGuard.Proofs.Decimal.Rounding

/-!
# Floats from one on

A float that is at least one has fifty-three digits, the first of them worth a power of two with a
natural exponent. The exponents of two factors add up in their product, with one more if the
digits carry; past the last exponent there is infinity, which stays so. So bounds by powers of two
multiply, too.
-/

namespace CallGuard.Decimal

open Float.Model (Format totalExponent UnpackedFloat)
open Float.Model.UnpackedFloat

theorem le_iff {x y : Float} : x ≤ y ↔ x.toModel.unpack.le y.toModel.unpack = true :=
  decide_eq_true_iff

/-- Positive floats with all their digits are ordered as their exponents are, then as their
mantissas are. -/
theorem le_finite_iff {m n : Nat} {e f : Int} (hm : 0 < m) (hn : 0 < n) :
    (UnpackedFloat.finite .positive m e hm).le (.finite .positive n f hn) = true ↔
      e < f ∨ e = f ∧ m ≤ n := by
  simp only [UnpackedFloat.le, UnpackedFloat.compare, Option.any_some,
    Ordering.isLE_then_iff_or, Int.compare_eq_lt, Int.compare_eq_eq, Nat.isLE_compare]

/-- The float is `m * 2 ^ k / 2 ^ 52`, or infinity where that is too large. -/
structure IsScaled (x : Float) (m k : Nat) : Prop where
  full : IsFull m
  unpack_eq : x.toModel.unpack =
    if k ≤ 1023 then .finite .positive m (k - 52) full.pos else .infinity .positive

namespace IsScaled

variable {x y : Float} {m n k l : Nat}

theorem of_pack (hFull : IsFull m)
    (hPack : x.toModel = Float.Model.pack (.finite .positive m (k - 52) hFull.pos)) :
    IsScaled x m k where
  full := hFull
  unpack_eq := by
    rw [hPack, unpack_pack .positive hFull (by omega)]
    by_cases hFinite : k ≤ 1023
    · rw [if_pos (by omega), if_pos hFinite]
    · rw [if_neg (by omega), if_neg hFinite]

theorem isFinite_iff (hx : IsScaled x m k) : x.isFinite = true ↔ k ≤ 1023 := by
  change x.toModel.unpack.isFinite = true ↔ _
  rw [hx.unpack_eq]
  by_cases hFinite : k ≤ 1023 <;> simp [hFinite, UnpackedFloat.isFinite]

theorem mul_of_round {q t : Nat} (hx : IsScaled x m k) (hy : IsScaled y n l) (hq : IsFull q)
    (hRound : roundWithAccuracy Format.binary64 .positive (m * n) (↑k - 52 + (↑l - 52)) .exact =
      .finite .positive q (↑(k + l + t) - 52) hq.pos) :
    IsScaled (x * y) q (k + l + t) := by
  have hPack : (x * y).toModel = Float.Model.pack
      (UnpackedFloat.mul Format.binary64 x.toModel.unpack y.toModel.unpack) := rfl
  rw [hx.unpack_eq, hy.unpack_eq] at hPack
  by_cases hFinite : k ≤ 1023 ∧ l ≤ 1023
  · rw [if_pos hFinite.1, if_pos hFinite.2] at hPack
    refine of_pack hq (hPack.trans ?_)
    rw [← hRound]
    rfl
  · have hInfinite : (x * y).toModel = Float.Model.pack (.infinity .positive) := by
      rw [hPack]
      split <;> split
      · omega
      · rfl
      · rfl
      · rfl
    refine ⟨hq, ?_⟩
    rw [hInfinite, if_neg (by omega)]
    rfl

theorem mul_exact {q t : Nat} (hx : IsScaled x m k) (hy : IsScaled y n l) (hq : IsFull q)
    (hExact : m * n = q * 2 ^ (52 + t)) : IsScaled (x * y) q (k + l + t) := by
  refine mul_of_round hx hy hq ?_
  rw [hExact, roundWithAccuracy_exact .positive hq (52 + t) (by omega)]
  congr 1
  omega

theorem mul (hx : IsScaled x m k) (hy : IsScaled y n l) :
    ∃ q t, t ≤ 1 ∧ IsScaled (x * y) q (k + l + t) := by
  have hLow : 2 ^ 52 * 2 ^ 52 ≤ m * n := Nat.mul_le_mul hx.full.low hy.full.low
  have hHigh : m * n ≤ (2 ^ 53 - 1) * (2 ^ 53 - 1) :=
    Nat.mul_le_mul (Nat.le_sub_one_of_lt hx.full.high) (Nat.le_sub_one_of_lt hy.full.high)
  have hPos : m * n ≠ 0 := by omega
  by_cases hDigits : m * n < 2 ^ 105
  · obtain ⟨q, t, hq, hCarry, -, hRound⟩ := roundWithAccuracy_of_digits .positive
      (p := m * n) (s := 52) (e := k - 52 + (l - 52))
      ((Nat.log2_eq_iff hPos).mpr ⟨by omega, hDigits⟩) (by omega)
    refine ⟨q, t, hCarry, mul_of_round hx hy hq (hRound.trans ?_)⟩
    congr 1
    omega
  · obtain ⟨q, t, hq, -, hCarry, hRound⟩ := roundWithAccuracy_of_digits .positive
      (p := m * n) (s := 53) (e := k - 52 + (l - 52))
      ((Nat.log2_eq_iff hPos).mpr ⟨by omega, by omega⟩) (by omega)
    obtain rfl := hCarry (by omega)
    refine ⟨q, 1, Nat.le_refl 1, mul_of_round hx hy hq (hRound.trans ?_)⟩
    congr 1
    omega

theorem le_iff_of_finite (hx : IsScaled x m k) (hy : IsScaled y n l) (hk : k ≤ 1023)
    (hl : l ≤ 1023) : x ≤ y ↔ k < l ∨ k = l ∧ m ≤ n := by
  rw [le_iff, hx.unpack_eq, hy.unpack_eq, if_pos hk, if_pos hl, le_finite_iff]
  omega

end IsScaled

theorem isScaled_one : IsScaled 1.0 (2 ^ 52) 0 := ⟨isFull_two_pow, rfl⟩

/-- What the bits of a float can stand for. -/
theorem isFull_of_finite {x : Float} {negative : Bool} {m : Nat} {e : Int}
    (hParts : parts x = .finite negative ⟨m, e⟩) :
    m < 2 ^ 52 ∧ e = -1074 ∨ IsFull m ∧ -1074 ≤ e ∧ e ≤ 971 := by
  unfold parts at hParts
  simp only [Nat.pow_eq] at hParts
  split at hParts
  · split at hParts <;> cases hParts
  · split at hParts
    · cases hParts
      exact .inl ⟨Nat.mod_lt _ (Nat.two_pow_pos 52), rfl⟩
    · cases hParts
      refine .inr ⟨⟨?_, ?_⟩, ?_, ?_⟩ <;> omega

/-- A finite float that is not below one with all its digits has all of them too. -/
theorem IsScaled.exists_of_le {x y : Float} {n l : Nat} (hy : IsScaled y n l)
    (hFinite : x.isFinite = true) (hLe : y ≤ x) :
    ∃ m k, k ≤ 1023 ∧ (l < k ∨ l = k ∧ n ≤ m) ∧ IsScaled x m k := by
  have hPacked := hy.unpack_eq
  change x.toModel.unpack.isFinite = true at hFinite
  rw [le_iff] at hLe
  have hParts := parts_eq x
  rcases hUnpack : x.toModel.unpack with sign | _ | sign | ⟨sign, m, e, hPos⟩
  all_goals rw [hUnpack] at hFinite hLe hParts
  · cases hFinite
  · cases hFinite
  · rw [hPacked] at hLe
    split at hLe <;> cases sign <;> cases hLe
  · by_cases hShort : l ≤ 1023
    · rw [hPacked, if_pos hShort] at hLe
      cases sign with
      | negative => cases hLe
      | positive =>
        rw [le_finite_iff] at hLe
        have hDigits := hy.full.low
        obtain ⟨hLess, rfl⟩ | ⟨hFull, -, hHigh⟩ := isFull_of_finite hParts
        · omega
        refine ⟨m, (e + 52).toNat, by omega, by omega, hFull, ?_⟩
        rw [hUnpack, if_pos (by omega)]
        congr 1
        omega
    · rw [hPacked, if_neg hShort] at hLe
      cases sign <;> cases hLe

def IsAtLeast (x : Float) (j : Nat) : Prop := ∃ m k, j ≤ k ∧ IsScaled x m k

/-- The float is from one to `2 ^ j`. -/
def IsAtMost (x : Float) (j : Nat) : Prop :=
  ∃ m k, (k < j ∨ k = j ∧ m = 2 ^ 52) ∧ IsScaled x m k

section Bounds

variable {x y : Float} {i j : Nat}

namespace IsAtLeast

theorem one : IsAtLeast 1.0 0 := ⟨2 ^ 52, 0, Nat.le_refl 0, isScaled_one⟩

theorem mul (hx : IsAtLeast x i) (hy : IsAtLeast y j) : IsAtLeast (x * y) (i + j) := by
  obtain ⟨m, k, hLow, hx⟩ := hx
  obtain ⟨n, l, hLow', hy⟩ := hy
  obtain ⟨q, t, -, hProduct⟩ := hx.mul hy
  exact ⟨q, k + l + t, by omega, hProduct⟩

theorem mono (hx : IsAtLeast x j) (hLe : i ≤ j) : IsAtLeast x i := by
  obtain ⟨m, k, hLow, hx⟩ := hx
  exact ⟨m, k, Nat.le_trans hLe hLow, hx⟩

theorem infinite (hx : IsAtLeast x 1024) : x.isFinite = false := by
  obtain ⟨m, k, hLow, hx⟩ := hx
  rw [← Bool.not_eq_true, hx.isFinite_iff]
  omega

end IsAtLeast

namespace IsAtMost

theorem one : IsAtMost 1.0 0 := ⟨2 ^ 52, 0, .inr ⟨rfl, rfl⟩, isScaled_one⟩

/-- If both factors are less than their bounds a carry stays below the bound of the product; if
one is its bound there is none. -/
theorem mul (hx : IsAtMost x i) (hy : IsAtMost y j) : IsAtMost (x * y) (i + j) := by
  obtain ⟨m, k, hBelow | ⟨rfl, rfl⟩, hx⟩ := hx
  · obtain ⟨n, l, hBelow' | ⟨rfl, rfl⟩, hy⟩ := hy
    · obtain ⟨q, t, hCarry, hProduct⟩ := hx.mul hy
      exact ⟨q, k + l + t, .inl (by omega), hProduct⟩
    · exact ⟨m, k + l + 0, .inl (by omega), hx.mul_exact hy hx.full rfl⟩
  · obtain ⟨n, l, hHigh, hy⟩ := hy
    exact ⟨n, k + l + 0, by omega, hx.mul_exact hy hy.full (Nat.mul_comm _ _)⟩

theorem mono (hx : IsAtMost x i) (hLe : i ≤ j) : IsAtMost x j := by
  obtain ⟨m, k, hHigh, hx⟩ := hx
  exact ⟨m, k, by omega, hx⟩

theorem finite (hx : IsAtMost x 1023) : x.isFinite = true := by
  obtain ⟨m, k, hHigh, hx⟩ := hx
  rw [hx.isFinite_iff]
  omega

end IsAtMost

end Bounds

end CallGuard.Decimal
