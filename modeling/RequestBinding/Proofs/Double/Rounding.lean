import RequestBinding.Proofs.Double.Order

/-!
Whole numbers as doubles.  Main statement: no double that is a number lies strictly between a whole
number of 64 bits and the double it is rounded to.
-/
namespace RequestBinding.Double
open Float.Model Float.Model.UnpackedFloat

/-- No number with a mantissa of 53 digits tells `y` from `r`, but for those that are `r`. -/
structure Beside (y r : ℝ) : Prop where
  below {m e : Int} (digits : m.natAbs < 2 ^ 53) : scaled m e ≤ y → scaled m e ≤ r
  above {m e : Int} (digits : m.natAbs < 2 ^ 53) : y ≤ scaled m e → r ≤ scaled m e

namespace Beside
variable {x y z : ℝ}

theorem trans (first : Beside x y) (second : Beside y z) : Beside x z where
  below digits h := second.below digits (first.below digits h)
  above digits h := second.above digits (first.above digits h)

theorem neg (h : Beside x y) : Beside (-x) (-y) where
  below {m e} digits less := by
    have := h.above (m := -m) (e := e) (by omega)
    rw [scaled_neg] at this
    exact le_neg_of_le_neg (this (le_neg_of_le_neg less))
  above {m e} digits more := by
    have := h.below (m := -m) (e := e) (by omega)
    rw [scaled_neg] at this
    exact neg_le_of_neg_le (this (neg_le_of_neg_le more))

end Beside

theorem scaled_add_le_iff {j : Int} {n d : Nat} {e : Int} :
    scaled j (e + d) ≤ scaled n e ↔ j ≤ (n / 2 ^ d : Nat) := by
  rw [← scaled_mul, scaled_le_scaled_iff, ← Int.le_ediv_iff_mul_le (by positivity)]
  push_cast
  rfl

theorem le_scaled_add_iff {j : Int} {n d : Nat} {e : Int} :
    scaled n e ≤ scaled j (e + d) ↔ (n : Int) ≤ j * 2 ^ d := by
  rw [← scaled_mul, scaled_le_scaled_iff]

theorem exists_scaled_eq {e f : Int} (m : Int) (more : e ≤ f) : ∃ j, scaled m f = scaled j e := by
  obtain ⟨c, rfl⟩ : ∃ c : Nat, f = e + c := ⟨(f - e).toNat, by omega⟩
  exact ⟨m * 2 ^ c, (scaled_mul m c e).symm⟩

/-- Dropping digits behind the first 53, up or down and not at all if they are zeros. -/
theorem Beside.of_div {n k d : Nat} (e : Int) (full : 2 ^ 52 ≤ n / 2 ^ d) (least : n / 2 ^ d ≤ k)
    (most : k ≤ n / 2 ^ d + 1) (exact : 2 ^ d ∣ n → k = n / 2 ^ d) :
    Beside (scaled n e) (scaled k (e + d)) := by
  -- a number with digits below those that are kept is less than both
  have small {m f : Int} (digits : m.natAbs < 2 ^ 53) (less : f < e + d) :
      scaled m f < scaled (n / 2 ^ d : Nat) (e + d) :=
    scaled_lt_of_lt (by omega) less (by exact_mod_cast full)
  constructor
  · intro m f digits h
    rcases lt_or_ge f (e + d) with less | more
    · exact (small digits less).le.trans (scaled_le_scaled_iff.2 (Int.ofNat_le.2 least))
    · obtain ⟨j, eq⟩ := exists_scaled_eq m more
      rw [eq, scaled_add_le_iff] at h
      rw [eq, scaled_le_scaled_iff]
      exact h.trans (Int.ofNat_le.2 least)
  · intro m f digits h
    rcases lt_or_ge f (e + d) with less | more
    · have floor : scaled (n / 2 ^ d : Nat) (e + d) ≤ scaled n e := scaled_add_le_iff.2 le_rfl
      exact absurd ((small digits less).trans_le floor) (not_lt.2 h)
    · obtain ⟨j, eq⟩ := exists_scaled_eq m more
      rw [eq, le_scaled_add_iff] at h
      rw [eq, scaled_le_scaled_iff]
      have pos : (0 : Int) < 2 ^ d := by positivity
      by_cases whole : 2 ^ d ∣ n
      · rw [exact whole]
        push_cast
        exact Int.ediv_le_of_le_mul pos h
      · have ne : (n : Int) ≠ j * 2 ^ d := fun eq =>
          whole (Int.natCast_dvd_natCast.1 ⟨j, by rw [eq]; push_cast; ring⟩)
        have : (n : Int) / 2 ^ d < j := Int.ediv_lt_of_lt_mul pos (by omega)
        have : ((n / 2 ^ d : Nat) : Int) < j := by exact_mod_cast this
        omega

theorem mantissa_shiftRight (em : ExtendedMantissa) (d : Nat) :
    (em >>> d).mantissa = em.mantissa / 2 ^ d := by
  show (Nat.repeat ExtendedMantissa.shiftRightOne d em).mantissa = _
  induction d with
  | zero => exact (Nat.div_one _).symm
  | succ d ih =>
    show (Nat.repeat ExtendedMantissa.shiftRightOne d em).mantissa / 2 = _
    rw [ih, Nat.div_div_eq_div_mul, Nat.pow_succ]

theorem shiftRight_eq {m d : Nat} (whole : 2 ^ d ∣ m) :
    ExtendedMantissa.mk m false false >>> d = ⟨m / 2 ^ d, false, false⟩ := by
  show Nat.repeat ExtendedMantissa.shiftRightOne d _ = _
  induction d with
  | zero => simp [Nat.repeat]
  | succ d ih =>
    obtain ⟨k, rfl⟩ := whole
    have even : 2 ^ (d + 1) * k / 2 ^ d = 2 * k := by
      rw [Nat.pow_succ, Nat.mul_assoc, Nat.mul_div_cancel_left _ (by positivity)]
    show ExtendedMantissa.shiftRightOne (Nat.repeat ExtendedMantissa.shiftRightOne d _) = _
    rw [ih ((pow_dvd_pow 2 d.le_succ).mul_right k), even, Nat.mul_div_cancel_left _ (by positivity)]
    simp [ExtendedMantissa.shiftRightOne]

theorem le_roundedMantissa (em : ExtendedMantissa) : em.mantissa ≤ em.roundedMantissa := by
  unfold ExtendedMantissa.roundedMantissa Accuracy.roundToNearestEven
  split <;> omega

theorem roundedMantissa_le (em : ExtendedMantissa) : em.roundedMantissa ≤ em.mantissa + 1 := by
  unfold ExtendedMantissa.roundedMantissa Accuracy.roundToNearestEven
  split <;> omega

/-- How many digits a mantissa has too many. -/
def excess (m : Nat) : Nat := m.log2 - 52

theorem excess_le {m d : Nat} (digits : m < 2 ^ (53 + d)) : excess m ≤ d := by
  unfold excess
  rcases m.eq_zero_or_pos with rfl | pos
  · exact Nat.zero_le d
  · have := (Nat.log2_lt pos.ne').2 digits
    omega

theorem le_excess {m d : Nat} (digits : 2 ^ (52 + d) ≤ m) : d ≤ excess m := by
  have := (Nat.le_log2 ((Nat.two_pow_pos _).trans_le digits).ne').2 digits
  unfold excess
  omega

theorem shiftToTargetExponent_eq {m : Nat} {e : Int} (full : 2 ^ 52 ≤ m)
    (least : -1074 ≤ e + excess m) :
    shiftToTargetExponent Format.binary64 m e .exact =
      (ExtendedMantissa.mk m false false >>> excess m, e + excess m) := by
  have log : 52 ≤ m.log2 := (Nat.le_log2 (by omega)).2 full
  have amount : (max ((m.log2 : Int) + 1 + e - 53) (-1074) - e).toNat = excess m := by
    unfold excess at *
    omega
  show (ExtendedMantissa.mk m false false >>> (max ((m.log2 : Int) + 1 + e - 53) (-1074) - e).toNat,
    e + ((max ((m.log2 : Int) + 1 + e - 53) (-1074) - e).toNat : Int)) = _
  rw [amount]

theorem le_div_excess {m : Nat} (full : 2 ^ 52 ≤ m) : 2 ^ 52 ≤ m / 2 ^ excess m := by
  have log : 52 ≤ m.log2 := (Nat.le_log2 (by omega)).2 full
  rw [Nat.le_div_iff_mul_le (by positivity), ← Nat.pow_add, excess, Nat.add_sub_cancel' log]
  exact Nat.log2_self_le (by omega)

theorem div_excess_lt (m : Nat) : m / 2 ^ excess m < 2 ^ 53 := by
  rw [Nat.div_lt_iff_lt_mul (by positivity), ← Nat.pow_add]
  refine Nat.lt_log2_self.trans_le (Nat.pow_le_pow_right (by decide) ?_)
  unfold excess
  omega

structure Normal (m : Nat) (e : Int) : Prop where
  full : 2 ^ 52 ≤ m
  digits : m < 2 ^ 53
  least : -1074 ≤ e
  most : e ≤ 971

theorem Normal.pos {m : Nat} {e : Int} (h : Normal m e) : 0 < m :=
  (by decide : 0 < 2 ^ 52).trans_le h.full

/-- Rounding shifts twice. -/
theorem roundWithAccuracy_eq {s : Sign} {m k : Nat} {e f g : Int} {u v : ExtendedMantissa}
    (first : shiftToTargetExponent Format.binary64 m e .exact = (u, f))
    (second : shiftToTargetExponent Format.binary64 u.roundedMantissa f .exact = (v, g))
    (mantissa : v.mantissa = k) (pos : 0 < k) :
    roundWithAccuracy Format.binary64 s m e .exact = .finite s k g pos := by
  subst mantissa
  unfold roundWithAccuracy
  rw [first]
  dsimp only
  rw [second]
  exact dif_neg pos.ne'

/-- A number of 53 digits or more that is neither too small nor too large is rounded to one with
all its digits and none between. -/
theorem exists_roundWithAccuracy (s : Sign) {m : Nat} {e : Int} (full : 2 ^ 52 ≤ m)
    (least : -1074 ≤ e + excess m) (most : e + excess m ≤ 970) :
    ∃ k f, ∃ normal : Normal k f,
      roundWithAccuracy Format.binary64 s m e .exact = .finite s k f normal.pos ∧
      f ≤ e + excess m + 1 ∧ Beside (scaled m e) (scaled k f) := by
  let em := ExtendedMantissa.mk m false false >>> excess m
  let k := em.roundedMantissa
  have mantissa : em.mantissa = m / 2 ^ excess m := mantissa_shiftRight _ _
  have lower : m / 2 ^ excess m ≤ k := mantissa ▸ le_roundedMantissa em
  have upper : k ≤ m / 2 ^ excess m + 1 := mantissa ▸ roundedMantissa_le em
  have exact : 2 ^ excess m ∣ m → k = m / 2 ^ excess m := fun whole =>
    congrArg ExtendedMantissa.roundedMantissa (shiftRight_eq whole)
  have first := Beside.of_div e (le_div_excess full) lower upper exact
  have full' : 2 ^ 52 ≤ k := (le_div_excess full).trans lower
  have fits := div_excess_lt m
  have once : excess k ≤ 1 := excess_le (by omega)
  -- the rounded mantissa may have one digit more, a zero, that a second shift drops
  have second := Beside.of_div (e + excess m) (le_div_excess full') le_rfl (Nat.le_succ _)
    fun _ => rfl
  have again := shiftToTargetExponent_eq (e := e + excess m) full' (by omega)
  refine ⟨k / 2 ^ excess k, e + excess m + excess k,
    ⟨le_div_excess full', div_excess_lt k, by omega, by omega⟩, ?_, by omega, first.trans second⟩
  exact roundWithAccuracy_eq (shiftToTargetExponent_eq full least) again (mantissa_shiftRight _ _) _

@[simp] theorem ofBitVec_toBitVec (s : Sign) : Sign.ofBitVec s.toBitVec = s := by
  cases s <;> rfl

@[simp] theorem unpackSign_packComponents {spec : Format} {s : Sign}
    {e : BitVec spec.exponentBits} {m : BitVec spec.mantissaBitsWithoutImplicit} :
    unpackSign (packComponents spec s e m) = s.toBitVec := by
  refine BitVec.eq_of_getLsbD_eq fun i hi => ?_
  obtain rfl : i = 0 := by omega
  delta unpackSign
  simp [packComponents, BitVec.getLsbD_append, BitVec.getElem_append]

theorem unpack_pack (s : Sign) {m : Nat} {e : Int} (h : Normal m e) :
    (Float.Model.pack (.finite s m e h.pos)).unpack = .finite s m e h.pos := by
  have full := h.full
  have digits := h.digits
  have least := h.least
  have most := h.most
  have log : m.log2 + 1 = 53 := by
    have := (Nat.le_log2 h.pos.ne').2 full
    have := (Nat.log2_lt h.pos.ne').2 digits
    omega
  have packed : UnpackedFloat.pack Format.binary64 (.finite s m e h.pos) =
      packComponents Format.binary64 s (BitVec.ofNat 11 (e + 1023 + 52).toNat)
        (BitVec.ofNat 52 m) := by
    show (if 2 ^ 11 ≤ (e + 1023 + 52).toNat + 1 then _ else if m.log2 + 1 = 53 then _ else _) = _
    rw [if_neg (by omega), if_pos log]
    rfl
  have exponent : (BitVec.ofNat 11 (e + 1023 + 52).toNat).toNat = (e + 1075).toNat := by
    rw [BitVec.toNat_ofNat]
    omega
  have mantissa : 2 ^ 52 + (BitVec.ofNat 52 m).toNat = m := by
    rw [BitVec.toNat_ofNat]
    omega
  have ones : BitVec.ofNat 11 (e + 1023 + 52).toNat ≠ -1#11 := fun h => by
    have : (-1#11).toNat = 2047 := by decide
    rw [← h] at this
    omega
  have none : BitVec.ofNat 11 (e + 1023 + 52).toNat ≠ 0#11 := fun h => by
    have : (0#11).toNat = 0 := by decide
    rw [← h] at this
    omega
  show UnpackedFloat.unpack Format.binary64 (UnpackedFloat.pack _ _) = _
  rw [packed, unpack_eq_finite]
  · refine finite_eq ?_ ?_ ?_
    · rw [unpackSign_packComponents, ofBitVec_toBitVec]
    · rw [unpackMantissa_packComponents, mantissa]
    · rw [unpackExponent_packComponents]
      omega
  · rwa [unpackExponent_packComponents]
  · rwa [unpackExponent_packComponents]

theorem exists_round (s : Sign) {n : Nat} (pos : 0 < n) (most : n < 2 ^ 64) :
    ∃ k f, ∃ normal : Normal k f,
      UnpackedFloat.round Format.binary64 s n 0 = .finite s k f normal.pos ∧ f ≤ 200 ∧
      Beside n (scaled k f) := by
  let a := 52 - n.log2
  have amount : (0 - max ((n.log2 : Int) + 1 + 0 - 53) (-1074)).toNat = a := by omega
  have full : 2 ^ 52 ≤ n * 2 ^ a :=
    calc 2 ^ 52 ≤ 2 ^ (n.log2 + a) := Nat.pow_le_pow_right (by decide) (by omega)
      _ = 2 ^ n.log2 * 2 ^ a := Nat.pow_add ..
      _ ≤ n * 2 ^ a := Nat.mul_le_mul_right _ (Nat.log2_self_le pos.ne')
  have digits : n * 2 ^ a < 2 ^ (53 + 63) :=
    calc n * 2 ^ a < 2 ^ 64 * 2 ^ a := Nat.mul_lt_mul_of_pos_right most (by positivity)
      _ ≤ 2 ^ 64 * 2 ^ 52 :=
        Nat.mul_le_mul_left _ (Nat.pow_le_pow_right (by decide) (Nat.sub_le ..))
  have few := excess_le digits
  obtain ⟨k, f, normal, eq, exponent, beside⟩ :=
    exists_roundWithAccuracy s (e := -a) full (by omega) (by omega)
  rw [scaled_natCast_mul, neg_add_cancel, scaled_zero, Int.cast_natCast] at beside
  refine ⟨k, f, normal, ?_, by omega, beside⟩
  show roundWithAccuracy Format.binary64 s
    (n <<< (0 - max ((n.log2 : Int) + 1 + 0 - 53) (-1074)).toNat)
    (0 - ((0 - max ((n.log2 : Int) + 1 + 0 - 53) (-1074)).toNat : Int)) .exact = _
  rw [amount, Nat.shiftLeft_eq, zero_sub]
  exact eq

theorem unpack_one : (Float.exactlyRepresentablePowersOfTen[0]).toModel.unpack =
    .finite .positive (2 ^ 52) (-52) (by decide) := by
  rfl

theorem toModel_toFloat {n : Nat} (pos : 0 < n) (most : n < 2 ^ 64) :
    n.toUInt64.toFloat.toModel =
      Float.Model.pack (UnpackedFloat.round Format.binary64 .positive n 0) := by
  have fits : n.toUInt64.toNat = n := UInt64.toNat_ofNat_of_lt' most
  show Float.Model.pack (UnpackedFloat.normalize Format.binary64 n.toUInt64.toNat 0 .positive) = _
  rw [fits, UnpackedFloat.normalize, compare_gt_iff_gt.2 (Int.natCast_pos.2 pos)]
  rfl

theorem mul_positive {m k : Nat} {e f : Int} (hm : 0 < m) (hk : 0 < k) :
    UnpackedFloat.mul Format.binary64 (.finite .positive m e hm) (.finite .positive k f hk) =
      roundWithAccuracy Format.binary64 .positive (m * k) (e + f) .exact := rfl

theorem exists_ofScientific_small {n : Nat} (pos : 0 < n) (small : n < 2 ^ 53) :
    ∃ k f, ∃ normal : Normal k f,
      (Float.ofScientific n false 0).toModel.unpack = .finite .positive k f normal.pos ∧
      Beside n (scaled k f) := by
  have fast : Float.ofScientific n false 0 =
      n.toUInt64.toFloat * Float.exactlyRepresentablePowersOfTen[0] := dif_pos ⟨small, by decide⟩
  obtain ⟨k, f, normal, rounded, exponent, first⟩ := exists_round .positive pos (by omega)
  have full := normal.full
  have digits := normal.digits
  have least := normal.least
  have zeros : excess (k * 2 ^ 52) = 52 := (excess_le (by omega)).antisymm (le_excess (by omega))
  obtain ⟨k', f', normal', again, -, second⟩ :=
    exists_roundWithAccuracy .positive (m := k * 2 ^ 52) (e := f + -52) (by omega) (by omega)
      (by omega)
  rw [scaled_natCast_mul, Nat.cast_ofNat, neg_add_cancel_right] at second
  refine ⟨k', f', normal', ?_, first.trans second⟩
  have product : (Float.ofScientific n false 0).toModel =
      Float.Model.pack (.finite .positive k' f' normal'.pos) := by
    rw [fast, ← again, ← mul_positive normal.pos (by decide), ← unpack_pack .positive normal,
      ← rounded, ← toModel_toFloat pos (by omega), ← unpack_one]
    rfl
  rw [product, unpack_pack _ normal']

theorem exists_ofScientific_large {n : Nat} (large : 2 ^ 53 ≤ n) (most : n < 2 ^ 64) :
    ∃ k f, ∃ normal : Normal k f,
      (Float.ofScientific n false 0).toModel.unpack = .finite .positive k f normal.pos ∧
      Beside n (scaled k f) := by
  have slow : Float.ofScientific n false 0 =
      ⟨Float.Model.pack (UnpackedFloat.ofScientific Format.binary64 n 0)⟩ := dif_neg (by omega)
  have low : ¬(0 : Int) < -(2 ^ Format.binary64.exponentBits + (n.log2 : Int)) := by
    have bits : (2 : Int) ^ Format.binary64.exponentBits = 2048 := rfl
    omega
  have size : n <<< Format.binary64.mantissaBits * 10 ^ Int.toNat 0 = n * 2 ^ 53 := by
    rw [Nat.shiftLeft_eq]
    exact Nat.mul_one _
  have few : excess (n * 2 ^ 53) ≤ 64 := excess_le (by omega)
  obtain ⟨k, f, normal, rounded, -, beside⟩ :=
    exists_roundWithAccuracy .positive (m := n * 2 ^ 53) (e := -53) (by omega) (by omega)
      (by omega)
  rw [scaled_natCast_mul, Nat.cast_ofNat, neg_add_cancel, scaled_zero, Int.cast_natCast] at beside
  refine ⟨k, f, normal, ?_, beside⟩
  have product : UnpackedFloat.ofScientific Format.binary64 n 0 =
      .finite .positive k f normal.pos := by
    unfold UnpackedFloat.ofScientific
    rw [dif_neg (by omega), if_neg (by decide), if_neg low, if_pos (Int.le_refl 0), mul_positive,
      size]
    exact rounded
  rw [slow, product, unpack_pack _ normal]

theorem exists_ofNat {n : Nat} (pos : 0 < n) (most : n < 2 ^ 64) :
    ∃ k f, ∃ normal : Normal k f,
      (Float.ofNat n).toModel.unpack = .finite .positive k f normal.pos ∧
      Beside n (scaled k f) := by
  rcases lt_or_ge n (2 ^ 53) with small | large
  · exact exists_ofScientific_small pos small
  · exact exists_ofScientific_large large most

theorem Beside.refl (y : ℝ) : Beside y y := ⟨fun _ h => h, fun _ h => h⟩

/-- A whole number of 64 bits is rounded to a finite double with nothing between. -/
theorem exists_ofInt {i : Int} (bits : i.natAbs < 2 ^ 64) :
    ∃ r : ℝ, value (Float.ofInt i) = r ∧ (Float.ofInt i).isFinite = true ∧ Beside i r := by
  cases i with
  | ofNat n =>
    show ∃ r : ℝ, number (Float.ofNat n).toModel.unpack = r ∧
      (Float.ofNat n).toModel.unpack.isFinite = true ∧ Beside ((n : Int) : ℝ) r
    rw [Int.cast_natCast]
    rcases n.eq_zero_or_pos with rfl | pos
    · refine ⟨0, ?_, rfl, ?_⟩
      · rfl
      · rw [Nat.cast_zero]
        exact .refl 0
    · obtain ⟨k, f, normal, eq, beside⟩ := exists_ofNat pos bits
      rw [eq]
      exact ⟨_, rfl, rfl, beside⟩
  | negSucc n =>
    show ∃ r : ℝ, number (Float.Model.pack (Float.ofNat n.succ).toModel.unpack.neg).unpack = r ∧
      (Float.Model.pack (Float.ofNat n.succ).toModel.unpack.neg).unpack.isFinite = true ∧ _
    obtain ⟨k, f, normal, eq, beside⟩ := exists_ofNat n.succ_pos bits
    have negated : (Float.Model.pack (Float.ofNat n.succ).toModel.unpack.neg).unpack =
        .finite .negative k f normal.pos := by
      rw [eq]
      exact unpack_pack .negative normal
    rw [negated]
    refine ⟨_, rfl, rfl, ?_⟩
    show Beside _ (scaled (-k) f)
    rw [scaled_neg, Int.cast_negSucc]
    exact beside.neg

theorem isFinite_ofInt {i : Int} (bits : i.natAbs < 2 ^ 64) : (Float.ofInt i).isFinite = true := by
  obtain ⟨r, -, finite, -⟩ := exists_ofInt bits
  exact finite

theorem Canonical.number_eq {u : UnpackedFloat} (h : Canonical u) :
    number u = ⊥ ∨ number u = ⊤ ∨
      ∃ m e : Int, m.natAbs < 2 ^ 53 ∧ number u = (scaled m e : ℝ) := by
  cases h with
  | infinity s =>
    cases s
    case negative => exact .inl rfl
    case positive => exact .inr (.inl rfl)
  | zero =>
    refine .inr (.inr ⟨0, 0, by decide, ?_⟩)
    rw [scaled_zero, Int.cast_zero]
    rfl
  | @finite s m e pos reduced =>
    refine .inr (.inr ⟨s.apply m, e, ?_, rfl⟩)
    have digits := reduced.digits
    cases s
    case negative => exact (Int.natAbs_neg _).trans_lt digits
    case positive => exact digits

theorem isNaN_of_isFinite {x : Float} (h : x.isFinite = true) : x.isNaN = false := by
  show x.toModel.unpack.isNaN = false
  have finite : x.toModel.unpack.isFinite = true := h
  revert finite
  cases x.toModel.unpack with
  | notANumber => exact fun h => h.symm
  | _ => exact fun _ => rfl

section
variable {x : Float} {i : Int}

theorem value_eq (hx : x.isNaN = false) : value x = ⊥ ∨ value x = ⊤ ∨
    ∃ m e : Int, m.natAbs < 2 ^ 53 ∧ value x = (scaled m e : ℝ) :=
  (canonical_of_isNaN hx).number_eq

/-- A double that is at most a whole number is at most the double of that number. -/
theorem le_ofInt (hx : x.isNaN = false) (bits : i.natAbs < 2 ^ 64) (h : value x ≤ (i : ℝ)) :
    x ≤ Float.ofInt i := by
  obtain ⟨r, eq, finite, beside⟩ := exists_ofInt bits
  rw [le_iff hx (isNaN_of_isFinite finite), eq]
  rcases value_eq hx with none | all | ⟨m, e, digits, scaled⟩
  · exact none.trans_le bot_le
  · exact absurd (all.symm.trans_le h) (not_le.2 (EReal.coe_lt_top _))
  · rw [scaled, EReal.coe_le_coe_iff] at h ⊢
    exact beside.below digits h

theorem ofInt_le (hx : x.isNaN = false) (bits : i.natAbs < 2 ^ 64) (h : (i : ℝ) ≤ value x) :
    Float.ofInt i ≤ x := by
  obtain ⟨r, eq, finite, beside⟩ := exists_ofInt bits
  rw [le_iff (isNaN_of_isFinite finite) hx, eq]
  rcases value_eq hx with none | all | ⟨m, e, digits, scaled⟩
  · exact absurd (h.trans_eq none) (not_le.2 (EReal.bot_lt_coe _))
  · exact le_top.trans_eq all.symm
  · rw [scaled, EReal.coe_le_coe_iff] at h ⊢
    exact beside.above digits h

end

end RequestBinding.Double
