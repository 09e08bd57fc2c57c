import Mathlib.Data.EReal.Operations
import Mathlib.Algebra.Order.Field.Power
import Mathlib.Order.Compare

/-!
What doubles stand for.  Main statement: two doubles that are numbers compare as the numbers they
stand for.
-/
namespace RequestBinding.Double
open Float.Model Float.Model.UnpackedFloat

noncomputable def scaled (m e : Int) : ℝ := m * 2 ^ e

@[simp] theorem scaled_zero (m : Int) : scaled m 0 = m := by simp [scaled]

@[simp] theorem scaled_neg (m e : Int) : scaled (-m) e = -scaled m e := by simp [scaled]

theorem scaled_mul (m : Int) (n : Nat) (e : Int) : scaled (m * 2 ^ n) e = scaled m (e + n) := by
  rw [scaled, scaled, zpow_add₀ two_ne_zero, zpow_natCast]
  push_cast
  ring

theorem scaled_natCast_mul (m n : Nat) (e : Int) :
    scaled (m * 2 ^ n : Nat) e = scaled m (e + n) := by
  rw [← scaled_mul]
  push_cast
  rfl

@[simp] theorem scaled_le_scaled_iff {m k e : Int} : scaled m e ≤ scaled k e ↔ m ≤ k := by
  rw [scaled, scaled, mul_le_mul_iff_left₀ (by positivity), Int.cast_le]

@[simp] theorem scaled_lt_scaled_iff {m k e : Int} : scaled m e < scaled k e ↔ m < k := by
  rw [← not_le, scaled_le_scaled_iff, not_le]

@[simp] theorem scaled_pos_iff {m e : Int} : 0 < scaled m e ↔ 0 < m := by
  rw [scaled, mul_pos_iff_of_pos_right (by positivity), Int.cast_pos]

/-- A larger exponent makes up for 53 digits. -/
theorem scaled_lt_of_lt {m k e f : Int} (digits : m < 2 ^ 53) (less : e < f) (full : 2 ^ 52 ≤ k) :
    scaled m e < scaled k f := by
  obtain ⟨d, rfl⟩ : ∃ d : Nat, f = e + d := ⟨(f - e).toNat, by omega⟩
  rw [← scaled_mul, scaled_lt_scaled_iff]
  have twice : (2 : Int) ≤ 2 ^ d := by
    exact_mod_cast Nat.le_self_pow (by omega) 2
  calc m < 2 ^ 52 * 2 := digits
    _ ≤ k * 2 ^ d := mul_le_mul full twice (by decide) (by omega)

/-- Mantissa and exponent of a finite double: all 53 digits are used unless the exponent is the
least there is. -/
structure Reduced (m : Nat) (e : Int) : Prop where
  digits : m < 2 ^ 53
  least : -1074 ≤ e
  full : 2 ^ 52 ≤ m ∨ e = -1074

namespace Reduced
variable {m k : Nat} {e f : Int}

theorem scaled_lt (x : Reduced m e) (y : Reduced k f) (less : e < f) :
    scaled m e < scaled k f := by
  have digits := x.digits
  have least := x.least
  have full := y.full
  exact scaled_lt_of_lt (by omega) less (by omega)

theorem compares (x : Reduced m e) (y : Reduced k f) :
    ((compare e f).then (compare m k)).Compares (scaled m e) (scaled k f) := by
  rcases lt_trichotomy e f with less | rfl | more
  · rw [compare_lt_iff_lt.2 less]
    exact x.scaled_lt y less
  · rw [compare_eq_iff_eq.2 rfl, Ordering.eq_then]
    rcases lt_trichotomy m k with less | rfl | more
    · rw [compare_lt_iff_lt.2 less]
      exact scaled_lt_scaled_iff.2 (Int.ofNat_lt.2 less)
    · rw [compare_eq_iff_eq.2 rfl]
      exact rfl
    · rw [compare_gt_iff_gt.2 more]
      exact scaled_lt_scaled_iff.2 (Int.ofNat_lt.2 more)
  · rw [compare_gt_iff_gt.2 more]
    exact y.scaled_lt x more

end Reduced

/-- The number that is meant; for a double that is none it is not used. -/
noncomputable def number : UnpackedFloat → EReal
  | .infinity .negative => ⊥
  | .infinity .positive => ⊤
  | .notANumber => (0 : ℝ)
  | .zero _ => (0 : ℝ)
  | .finite s m e _ => scaled (s.apply m) e

/-- A number in the form in which bits are read. -/
inductive Canonical : UnpackedFloat → Prop
  | infinity (s : Sign) : Canonical (.infinity s)
  | zero (s : Sign) : Canonical (.zero s)
  | finite {s : Sign} {m : Nat} {e : Int} (pos : 0 < m) (reduced : Reduced m e) :
    Canonical (.finite s m e pos)

theorem compares_coe {o : Ordering} {x y : ℝ} :
    o.Compares (x : EReal) (y : EReal) ↔ o.Compares x y := by
  cases o with
  | lt => exact EReal.coe_lt_coe_iff
  | eq => exact EReal.coe_eq_coe_iff
  | gt => exact EReal.coe_lt_coe_iff

theorem compares_neg {o : Ordering} {x y : ℝ} (h : o.Compares x y) : o.swap.Compares (-x) (-y) := by
  cases o with
  | lt => exact neg_lt_neg h
  | eq => exact congrArg Neg.neg h
  | gt => exact neg_lt_neg h

theorem scaled_negative {m : Nat} (pos : 0 < m) (e : Int) :
    scaled (Sign.negative.apply m) e < 0 := by
  show scaled (-m) e < 0
  rw [scaled_neg, neg_lt_zero, scaled_pos_iff]
  exact Int.natCast_pos.2 pos

theorem scaled_positive {m : Nat} (pos : 0 < m) (e : Int) :
    0 < scaled (Sign.positive.apply m) e :=
  scaled_pos_iff.2 (Int.natCast_pos.2 pos)

theorem Reduced.compares_signed {m k : Nat} {e f : Int} (x : Reduced m e) (y : Reduced k f)
    (s t : Sign) (hm : 0 < m) (hk : 0 < k) :
    ∃ o, UnpackedFloat.compare (.finite s m e hm) (.finite t k f hk) = some o ∧
      o.Compares (scaled (s.apply m) e) (scaled (t.apply k) f) := by
  cases s <;> cases t
  case negative.negative =>
    refine ⟨_, rfl, ?_⟩
    show Ordering.Compares _ (scaled (-m) e) (scaled (-k) f)
    rw [scaled_neg, scaled_neg]
    exact compares_neg (x.compares y)
  case negative.positive => exact ⟨.lt, rfl, (scaled_negative hm e).trans (scaled_positive hk f)⟩
  case positive.negative => exact ⟨.gt, rfl, (scaled_negative hk f).trans (scaled_positive hm e)⟩
  case positive.positive => exact ⟨_, rfl, x.compares y⟩

/-- Numbers in canonical form compare as the numbers that are meant. -/
theorem Canonical.compares : ∀ {u v : UnpackedFloat}, Canonical u → Canonical v →
    ∃ o, u.compare v = some o ∧ o.Compares (number u) (number v)
  | _, _, .infinity .negative, .infinity .negative => ⟨.eq, rfl, rfl⟩
  | _, _, .infinity .negative, .infinity .positive => ⟨.lt, rfl, bot_lt_top⟩
  | _, _, .infinity .positive, .infinity .negative => ⟨.gt, rfl, bot_lt_top⟩
  | _, _, .infinity .positive, .infinity .positive => ⟨.eq, rfl, rfl⟩
  | _, _, .infinity .negative, .zero _ => ⟨.lt, rfl, EReal.bot_lt_coe _⟩
  | _, _, .infinity .positive, .zero _ => ⟨.gt, rfl, EReal.coe_lt_top _⟩
  | _, _, .infinity .negative, .finite .. => ⟨.lt, rfl, EReal.bot_lt_coe _⟩
  | _, _, .infinity .positive, .finite .. => ⟨.gt, rfl, EReal.coe_lt_top _⟩
  | _, _, .zero _, .infinity .negative => ⟨.gt, rfl, EReal.bot_lt_coe _⟩
  | _, _, .zero _, .infinity .positive => ⟨.lt, rfl, EReal.coe_lt_top _⟩
  | _, _, .zero _, .zero _ => ⟨.eq, rfl, rfl⟩
  | _, _, .zero _, @Canonical.finite .negative _ e pos _ =>
    ⟨.gt, rfl, EReal.coe_lt_coe_iff.2 (scaled_negative pos e)⟩
  | _, _, .zero _, @Canonical.finite .positive _ e pos _ =>
    ⟨.lt, rfl, EReal.coe_lt_coe_iff.2 (scaled_positive pos e)⟩
  | _, _, .finite .., .infinity .negative => ⟨.gt, rfl, EReal.bot_lt_coe _⟩
  | _, _, .finite .., .infinity .positive => ⟨.lt, rfl, EReal.coe_lt_top _⟩
  | _, _, @Canonical.finite .negative _ e pos _, .zero _ =>
    ⟨.lt, rfl, EReal.coe_lt_coe_iff.2 (scaled_negative pos e)⟩
  | _, _, @Canonical.finite .positive _ e pos _, .zero _ =>
    ⟨.gt, rfl, EReal.coe_lt_coe_iff.2 (scaled_positive pos e)⟩
  | _, _, .finite hm x, .finite hk y =>
    let ⟨o, compared, compares⟩ := x.compares_signed y _ _ hm hk
    ⟨o, compared, compares_coe.2 compares⟩

theorem toNat_hidden (m : BitVec 52) : (1#1 ++ m).toNat = 2 ^ 52 + m.toNat := by
  rw [BitVec.toNat_append, ← Nat.shiftLeft_add_eq_or_of_lt m.isLt]
  rfl

theorem finite_eq {s t : Sign} {m k : Nat} {e f : Int} {hm : 0 < m} {hk : 0 < k} (sign : s = t)
    (mantissa : m = k) (exponent : e = f) :
    UnpackedFloat.finite s m e hm = .finite t k f hk := by
  subst sign mantissa exponent
  rfl

theorem unpack_eq_finite {b : BitVec Format.binary64.numBits} (ones : unpackExponent b ≠ -1#11)
    (none : unpackExponent b ≠ 0#11) : UnpackedFloat.unpack Format.binary64 b =
      .finite (.ofBitVec (unpackSign b)) (2 ^ 52 + (unpackMantissa b).toNat)
        ((unpackExponent b).toNat - 1075) (by omega) := by
  unfold UnpackedFloat.unpack
  dsimp only
  rw [if_neg ones, if_neg none]
  exact finite_eq rfl (toNat_hidden _) rfl

/-- What is read from bits is canonical unless it is no number. -/
theorem canonical_unpack {b : BitVec Format.binary64.numBits}
    (h : UnpackedFloat.unpack Format.binary64 b ≠ .notANumber) :
    Canonical (UnpackedFloat.unpack Format.binary64 b) := by
  have mantissa : (unpackMantissa b).toNat < 2 ^ 52 := (unpackMantissa b).isLt
  by_cases ones : unpackExponent b = -1#11
  · unfold UnpackedFloat.unpack at h ⊢
    dsimp only at h ⊢
    rw [if_pos ones] at h ⊢
    by_cases infinite : unpackMantissa b = 0#_
    · rw [if_pos infinite]
      exact .infinity _
    · rw [if_neg infinite] at h
      exact absurd rfl h
  · by_cases none : unpackExponent b = 0#11
    · unfold UnpackedFloat.unpack
      dsimp only
      rw [if_neg ones, if_pos none]
      by_cases zero : unpackMantissa b = 0#52
      · rw [dif_pos zero]
        exact .zero _
      · rw [dif_neg zero]
        refine .finite _ ⟨by omega, ?_, .inr ?_⟩ <;> rw [none] <;> decide
    · have some : (unpackExponent b).toNat ≠ 0 := fun h => none (BitVec.eq_of_toNat_eq h)
      rw [unpack_eq_finite ones none]
      exact .finite _ ⟨by omega, by omega, .inl (by omega)⟩

noncomputable def value (x : Float) : EReal := number x.toModel.unpack

theorem canonical_of_isNaN {x : Float} (h : x.isNaN = false) : Canonical x.toModel.unpack := by
  refine canonical_unpack fun none => ?_
  have : x.toModel.unpack.isNaN = false := h
  rw [Float.Model.unpack, none] at this
  exact absurd this (by decide)

theorem lt_iff {x y : Float} (hx : x.isNaN = false) (hy : y.isNaN = false) :
    x < y ↔ value x < value y := by
  obtain ⟨o, compared, compares⟩ := (canonical_of_isNaN hx).compares (canonical_of_isNaN hy)
  have less : x < y ↔ (x.toModel.unpack.compare y.toModel.unpack == some .lt) = true :=
    decide_eq_true_iff
  rw [less, compared, value, value, ← compares.eq_lt]
  cases o <;> decide

theorem le_iff {x y : Float} (hx : x.isNaN = false) (hy : y.isNaN = false) :
    x ≤ y ↔ value x ≤ value y := by
  obtain ⟨o, compared, compares⟩ := (canonical_of_isNaN hx).compares (canonical_of_isNaN hy)
  have most : x ≤ y ↔ (x.toModel.unpack.compare y.toModel.unpack).any (·.isLE) = true :=
    decide_eq_true_iff
  rw [most, compared, value, value, ← compares.ne_gt]
  cases o <;> decide

theorem not_lt_iff {x y : Float} (hx : x.isNaN = false) (hy : y.isNaN = false) :
    ¬x < y ↔ y ≤ x := by
  rw [lt_iff hx hy, le_iff hy hx, not_lt]

end RequestBinding.Double
