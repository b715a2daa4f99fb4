import CallGuard.Proofs.Decimal.Scaled

/-!
# The order of floats

A finite float stands for a rational number; neither an infinity nor a NaN does. Floats are
compared by their exponents first and by their mantissas then. As every exponent but the least
one comes with all digits, that is the order of the numbers, both zeros being one number. A float
between two finite ones is finite.
-/

namespace CallGuard.Decimal

open Float.Model (UnpackedFloat)
open Float.Model.UnpackedFloat

def Binary.value (b : Binary) : ℚ := b.mantissa * 2 ^ b.exponent

def Parts.value? : Parts → Option ℚ
  | .nan => none
  | .infinite _ => none
  | .finite negative magnitude => some (if negative then -magnitude.value else magnitude.value)

def value? (x : Float) : Option ℚ := (parts x).value?

theorem Binary.value_pos {b : Binary} (hPos : 0 < b.mantissa) : 0 < b.value :=
  mul_pos (Nat.cast_pos.mpr hPos) (zpow_pos two_pos _)

def IsCanonical (b : Binary) : Prop :=
  b.mantissa < 2 ^ 52 ∧ b.exponent = -1074 ∨ IsFull b.mantissa ∧ -1074 ≤ b.exponent

namespace IsCanonical

variable {b c : Binary}

theorem of_parts {x : Float} {negative : Bool} (hParts : parts x = .finite negative b) :
    IsCanonical b :=
  (isFull_of_finite hParts).imp_right fun hFull => ⟨hFull.1, hFull.2.1⟩

/-- A digit more is worth more than all digits that come with a smaller exponent. -/
theorem value_lt (hb : IsCanonical b) (hc : IsCanonical c) (hLess : b.exponent < c.exponent) :
    b.value < c.value := by
  have hHigh : b.mantissa < 2 ^ 53 := by
    obtain ⟨hDigits, -⟩ | ⟨hFull, -⟩ := hb
    · omega
    · exact hFull.high
  have hLow : 2 ^ 52 ≤ c.mantissa := by
    obtain ⟨-, hLeast⟩ | ⟨hFull, -⟩ := hc
    · obtain ⟨-, hLeast'⟩ | ⟨-, hLeast'⟩ := hb <;> omega
    · exact hFull.low
  calc b.value < (2 ^ 53 : ℕ) * 2 ^ b.exponent :=
        mul_lt_mul_of_pos_right (Nat.cast_lt.mpr hHigh) (zpow_pos two_pos _)
    _ = (2 ^ 52 : ℕ) * 2 ^ (b.exponent + 1) := by
        rw [zpow_add_one₀ two_ne_zero]
        push_cast
        ring
    _ ≤ c.value :=
        mul_le_mul (Nat.cast_le.mpr hLow) (zpow_le_zpow_right₀ one_le_two (by omega))
          (zpow_nonneg zero_le_two _) (Nat.cast_nonneg _)

theorem compare_value (hb : IsCanonical b) (hc : IsCanonical c) :
    compare b.value c.value =
      (compare b.exponent c.exponent).then (compare b.mantissa c.mantissa) := by
  rcases lt_trichotomy b.exponent c.exponent with hLess | hSame | hMore
  · rw [compare_lt_iff_lt.mpr hLess, compare_lt_iff_lt.mpr (value_lt hb hc hLess)]
    rfl
  · rw [compare_eq_iff_eq.mpr hSame, Binary.value, Binary.value, hSame, ← cmp_eq_compare,
      cmp_mul_pos_right (zpow_pos two_pos _), Nat.strictMono_cast.cmp_map_eq]
    exact cmp_eq_compare _ _
  · rw [compare_gt_iff_gt.mpr hMore, compare_gt_iff_gt.mpr (value_lt hc hb hMore)]
    rfl

end IsCanonical

theorem compare_neg (a b : ℚ) : compare (-a) (-b) = (compare a b).swap := by
  rw [← cmp_eq_compare, ← cmp_eq_compare, cmp_swap]
  exact StrictAnti.cmp_map_eq (fun _ _ hLess => neg_lt_neg hLess) a b

theorem isFinite_of_between {u v w : UnpackedFloat} (hv : v.isFinite = true)
    (hw : w.isFinite = true) (hLow : v.le u = true) (hHigh : u.le w = true) :
    u.isFinite = true := by
  rcases u with sign | _ | sign | ⟨sign, m, e, hPos⟩
  · cases sign with
    | negative => rcases v with _ | _ | _ | ⟨_ | _, _, _, _⟩ <;> cases hv <;> cases hLow
    | positive => rcases w with _ | _ | _ | ⟨_ | _, _, _, _⟩ <;> cases hw <;> cases hHigh
  · rcases w with _ | _ | _ | _ <;> cases hHigh
  · rfl
  · rfl

section Values

variable {x y z : Float} {a b c : ℚ}

/-- A float that stands for a number is a zero, or it has digits and a sign. -/
theorem unpack_of_value (hx : value? x = some a) :
    (∃ sign, x.toModel.unpack = .zero sign ∧ a = 0) ∨
    (∃ m e, ∃ hPos : 0 < m, x.toModel.unpack = .finite .positive m e hPos ∧
      IsCanonical ⟨m, e⟩ ∧ a = Binary.value ⟨m, e⟩) ∨
    ∃ m e, ∃ hPos : 0 < m, x.toModel.unpack = .finite .negative m e hPos ∧
      IsCanonical ⟨m, e⟩ ∧ a = -Binary.value ⟨m, e⟩ := by
  have hParts := parts_eq x
  rw [value?, hParts] at hx
  rcases hUnpack : x.toModel.unpack with sign | _ | sign | ⟨sign, m, e, hPos⟩
  all_goals rw [hUnpack] at hx hParts
  · cases hx
  · cases hx
  · refine .inl ⟨sign, rfl, ?_⟩
    cases sign <;> simpa [Parts.ofUnpacked, Parts.value?, Binary.value] using hx.symm
  · have hCanonical := IsCanonical.of_parts hParts
    cases sign with
    | positive => exact .inr (.inl ⟨m, e, hPos, rfl, hCanonical, (Option.some.inj hx).symm⟩)
    | negative => exact .inr (.inr ⟨m, e, hPos, rfl, hCanonical, (Option.some.inj hx).symm⟩)

theorem compare_of_value (hx : value? x = some a) (hy : value? y = some b) :
    x.toModel.unpack.compare y.toModel.unpack = some (compare a b) := by
  rcases unpack_of_value hx with
    ⟨sign, hUnpack, rfl⟩ | ⟨m, e, hPos, hUnpack, hFull, rfl⟩ | ⟨m, e, hPos, hUnpack, hFull, rfl⟩ <;>
  rcases unpack_of_value hy with
    ⟨sign', hUnpack', rfl⟩ | ⟨n, f, hPos', hUnpack', hFull', rfl⟩ |
      ⟨n, f, hPos', hUnpack', hFull', rfl⟩ <;>
  rw [hUnpack, hUnpack']
  · rw [compare_eq_iff_eq.mpr rfl]
    rfl
  · rw [compare_lt_iff_lt.mpr (Binary.value_pos hPos')]
    rfl
  · rw [compare_gt_iff_gt.mpr (neg_neg_of_pos (Binary.value_pos hPos'))]
    rfl
  · rw [compare_gt_iff_gt.mpr (Binary.value_pos hPos)]
    rfl
  · rw [hFull.compare_value hFull']
    rfl
  · rw [compare_gt_iff_gt.mpr
      ((neg_neg_of_pos (Binary.value_pos hPos')).trans (Binary.value_pos hPos))]
    rfl
  · rw [compare_lt_iff_lt.mpr (neg_neg_of_pos (Binary.value_pos hPos))]
    rfl
  · rw [compare_lt_iff_lt.mpr
      ((neg_neg_of_pos (Binary.value_pos hPos)).trans (Binary.value_pos hPos'))]
    rfl
  · rw [compare_neg, hFull.compare_value hFull']
    rfl

theorem lt_iff_of_value (hx : value? x = some a) (hy : value? y = some b) : x < y ↔ a < b := by
  have hLt : x < y ↔ x.toModel.unpack.lt y.toModel.unpack = true := decide_eq_true_iff
  rw [hLt, UnpackedFloat.lt, compare_of_value hx hy, beq_iff_eq, Option.some_inj,
    compare_lt_iff_lt]

theorem le_iff_of_value (hx : value? x = some a) (hy : value? y = some b) : x ≤ y ↔ a ≤ b := by
  rw [le_iff, UnpackedFloat.le, compare_of_value hx hy, Option.any_some, Ordering.isLE_iff_ne_gt,
    compare_gt_iff_gt, not_lt]

theorem isFinite_iff : x.isFinite = true ↔ ∃ a, value? x = some a := by
  change x.toModel.unpack.isFinite = true ↔ _
  rw [value?, parts_eq]
  cases x.toModel.unpack <;> simp [UnpackedFloat.isFinite, Parts.ofUnpacked, Parts.value?]

/-- Between two numbers there is neither an infinity nor a NaN. -/
theorem exists_value_of_between (hy : value? y = some b) (hz : value? z = some c) (hLow : y ≤ x)
    (hHigh : x ≤ z) : ∃ a, value? x = some a :=
  isFinite_iff.mp (isFinite_of_between (isFinite_iff.mpr ⟨b, hy⟩) (isFinite_iff.mpr ⟨c, hz⟩)
    (le_iff.mp hLow) (le_iff.mp hHigh))

theorem not_finite_or_lt_iff (hy : value? y = some b) :
    (!x.isFinite || decide (x < y)) = true ↔ ∀ a, value? x = some a → a < b := by
  rw [Bool.or_eq_true, Bool.not_eq_true', ← Bool.not_eq_true, isFinite_iff, decide_eq_true_iff]
  constructor
  · rintro (hInfinite | hLess) a hx
    · exact absurd ⟨a, hx⟩ hInfinite
    · exact (lt_iff_of_value hx hy).mp hLess
  · intro hLess
    refine or_iff_not_imp_left.mpr fun hFinite => ?_
    obtain ⟨a, hx⟩ := not_not.mp hFinite
    exact (lt_iff_of_value hx hy).mpr (hLess a hx)

theorem between_iff (hy : value? y = some b) (hz : value? z = some c) :
    (decide (y ≤ x) && decide (x ≤ z)) = true ↔ ∃ a, value? x = some a ∧ b ≤ a ∧ a ≤ c := by
  rw [Bool.and_eq_true, decide_eq_true_iff, decide_eq_true_iff]
  constructor
  · rintro ⟨hLow, hHigh⟩
    obtain ⟨a, hx⟩ := exists_value_of_between hy hz hLow hHigh
    exact ⟨a, hx, (le_iff_of_value hy hx).mp hLow, (le_iff_of_value hx hz).mp hHigh⟩
  · rintro ⟨a, hx, hLow, hHigh⟩
    exact ⟨(le_iff_of_value hy hx).mpr hLow, (le_iff_of_value hx hz).mpr hHigh⟩

theorem value_zero : value? 0.0 = some 0 := by
  rw [value?, parts_eq]
  change some ((0 : ℕ) * 2 ^ (-1074 : ℤ) : ℚ) = _
  rw [Nat.cast_zero, zero_mul]

theorem value_one : value? 1.0 = some 1 := by
  rw [value?, parts_eq]
  change some ((2 ^ 52 : ℕ) * 2 ^ (-52 : ℤ) : ℚ) = _
  norm_num

end Values

end CallGuard.Decimal
