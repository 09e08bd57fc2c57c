import RequestBinding.Proofs.Double.Rounding
import RequestBinding.Proofs.Schema.Conformance
import RequestBinding.Schema.Coercion

/-!
Numbers within their bounds.  Main statement: a whole number passes the bounds of a double exactly if
it keeps each of them or is rounded onto it, and a double that is a number exactly if it keeps them.
-/
namespace RequestBinding
open Double (value)

def Value.isNaN : Value → Bool
  | .float x => x.isNaN
  | _ => false

namespace Bounds
variable {bounds : Bounds Float}

/-- Each bound that there is is a number. -/
structure Numbers (bounds : Bounds Float) : Prop where
  least : ∀ m, bounds.minimum = some m → m.isNaN = false
  most : ∀ m, bounds.maximum = some m → m.isNaN = false

@[mk_iff]
structure Encloses (bounds : Bounds Float) (x : Float) : Prop where
  least : ∀ m, bounds.minimum = some m → m ≤ x
  most : ∀ m, bounds.maximum = some m → x ≤ m

/-- A whole number keeps each bound or is rounded onto it. -/
@[mk_iff]
structure Catches (bounds : Bounds Float) (i : Int64) : Prop where
  least : ∀ m, bounds.minimum = some m →
    value m ≤ (i.toInt : ℝ) ∨ value m = value (Schema.widen i)
  most : ∀ m, bounds.maximum = some m →
    (i.toInt : ℝ) ≤ value m ∨ value (Schema.widen i) = value m

/-- A number that the bounds of a double let pass: a whole number as the double it is rounded to. -/
inductive Within (bounds : Bounds Float) : Value → Prop
  | double {x : Float} (enclosed : bounds.Encloses x) : Within bounds (.float x)
  | whole {i : Int64} (enclosed : bounds.Encloses (Schema.widen i)) (caught : bounds.Catches i) :
    Within bounds (.int i)

theorem Numbers.allows_iff (numbers : bounds.Numbers) {x : Float} (hx : x.isNaN = false) :
    bounds.Allows x ↔ bounds.Encloses x := by
  rw [Bounds.allows_iff, encloses_iff]
  refine and_congr ?_ ?_
  · exact forall₂_congr fun m hm => Double.not_lt_iff hx (numbers.least m hm)
  · exact forall₂_congr fun m hm => Double.not_lt_iff (numbers.most m hm) hx

end Bounds

namespace Schema

theorem natAbs_toInt_lt (i : Int64) : i.toInt.natAbs < 2 ^ 64 := by
  have := i.le_toInt
  have := i.toInt_lt
  omega

theorem isNaN_widen (i : Int64) : (widen i).isNaN = false :=
  Double.isNaN_of_isFinite (Double.isFinite_ofInt (natAbs_toInt_lt i))

section
variable {m : Float} {i : Int64}

/-- A bound from below is kept by a whole number, but for rounding, if it is kept by its double. -/
theorem le_widen_iff (hm : m.isNaN = false) :
    m ≤ widen i ↔ value m ≤ (i.toInt : ℝ) ∨ value m = value (widen i) := by
  have order := Double.le_iff hm (isNaN_widen i)
  constructor
  · intro kept
    rcases le_total (value m) ((i.toInt : ℝ) : EReal) with below | above
    · exact .inl below
    · have rounded : widen i ≤ m := Double.ofInt_le hm (natAbs_toInt_lt i) above
      exact .inr ((order.1 kept).antisymm ((Double.le_iff (isNaN_widen i) hm).1 rounded))
  · rintro (below | same)
    · exact Double.le_ofInt hm (natAbs_toInt_lt i) below
    · exact order.2 same.le

theorem widen_le_iff (hm : m.isNaN = false) :
    widen i ≤ m ↔ (i.toInt : ℝ) ≤ value m ∨ value (widen i) = value m := by
  have order := Double.le_iff (isNaN_widen i) hm
  constructor
  · intro kept
    rcases le_total ((i.toInt : ℝ) : EReal) (value m) with above | below
    · exact .inl above
    · have rounded : m ≤ widen i := Double.le_ofInt hm (natAbs_toInt_lt i) below
      exact .inr ((order.1 kept).antisymm ((Double.le_iff hm (isNaN_widen i)).1 rounded))
  · rintro (above | same)
    · exact Double.ofInt_le hm (natAbs_toInt_lt i) above
    · exact order.2 same.le

end

variable {bounds : Bounds Float}

theorem encloses_widen_iff (numbers : bounds.Numbers) (i : Int64) :
    bounds.Encloses (widen i) ↔ bounds.Catches i := by
  rw [Bounds.encloses_iff, Bounds.catches_iff]
  refine and_congr ?_ ?_
  · exact forall₂_congr fun m hm => le_widen_iff (numbers.least m hm)
  · exact forall₂_congr fun m hm => widen_le_iff (numbers.most m hm)

theorem matches_number_iff (numbers : bounds.Numbers) {v : Value} (hv : v.isNaN = false) :
    (number bounds).Matches v ↔ bounds.Within v := by
  constructor
  · intro matched
    cases matched with
    | number allowed => exact .double ((numbers.allows_iff hv).1 allowed)
    | @whole _ i allowed =>
      have enclosed := (numbers.allows_iff (isNaN_widen i)).1 allowed
      exact .whole enclosed ((encloses_widen_iff numbers i).1 enclosed)
  · intro within
    cases within with
    | double enclosed => exact .number ((numbers.allows_iff hv).2 enclosed)
    | @whole i enclosed => exact .whole ((numbers.allows_iff (isNaN_widen i)).2 enclosed)

theorem within_coerceText_iff {raw : String} : bounds.Within (coerceText (.number bounds) raw) ↔
    ∃ x, Decimal.readFloat? (Text.trim raw).toList = some x ∧ bounds.Encloses x := by
  show bounds.Within (((Decimal.readFloat? (Text.trim raw).toList).map Value.float).getD _) ↔ _
  cases Decimal.readFloat? (Text.trim raw).toList with
  | none =>
    constructor
    · rintro ⟨⟩
    · rintro ⟨_, ⟨⟩, _⟩
  | some x =>
    constructor
    · rintro ⟨enclosed⟩
      exact ⟨x, rfl, enclosed⟩
    · rintro ⟨_, ⟨⟩, enclosed⟩
      exact .double enclosed

theorem run_check_eq_iff {s : Schema} {ctx : Context} {v : Value} {es : List Violation} :
    ((s.check ctx v).run es).2 = es ↔ s.Matches v := by
  rw [s.adds_check ctx v es, ← findings_eq_nil_iff]
  simp

/-- Where numbers are declared with bounds that are numbers, a value that is given and a text are
accepted exactly if they are a double within the bounds, or a whole number that keeps each bound or
is rounded onto it. -/
theorem number_accepts_iff (numbers : bounds.Numbers) (ctx : Context) (es : List Violation) :
    (∀ v, v.isNaN = false →
      ((((number bounds).check ctx v).run es).2 = es ↔ bounds.Within v)) ∧
    ∀ raw, (coerceText (.number bounds) raw).isNaN = false →
      ((((number bounds).check ctx (coerceText (.number bounds) raw)).run es).2 = es ↔
        ∃ x, Decimal.readFloat? (Text.trim raw).toList = some x ∧ bounds.Encloses x) := by
  constructor
  · intro v hv
    rw [run_check_eq_iff, matches_number_iff numbers hv]
  · intro raw hv
    rw [run_check_eq_iff, matches_number_iff numbers hv, within_coerceText_iff]

theorem number_accepts_limits :
    let bounds : Bounds Float := ⟨some 0, some 9007199254740992⟩
    bounds.Numbers ∧ bounds.Within (.int 9007199254740993) ∧
      ¬∃ x, Decimal.readFloat? (Text.trim " -0.5").toList = some x ∧ bounds.Encloses x := by
  intro bounds
  have numbers : bounds.Numbers := by
    constructor
    · intro m hm
      rw [← Option.some.inj hm]
      decide
    · intro m hm
      rw [← Option.some.inj hm]
      decide
  have accepts := number_accepts_iff numbers ⟨"query", []⟩ []
  refine ⟨numbers, ?_, ?_⟩
  · exact (accepts.1 _ rfl).1 (by decide +kernel)
  · rw [← accepts.2 " -0.5" (by decide +kernel)]
    decide +kernel

/-- One above the bound is accepted as the bound. -/
theorem number_accepts_above :
    ((number ⟨none, some 9007199254740992⟩).check ⟨"query", []⟩ (.int 9007199254740993)).run [] =
      (.float 9007199254740992, []) ∧
    value 9007199254740992 < ((9007199254740993 : Int64).toInt : ℝ) := by
  constructor
  · rfl
  · have meant : value 9007199254740992 = (Double.scaled (2 ^ 52) 1 : ℝ) := rfl
    have whole : (9007199254740993 : Int64).toInt = 9007199254740993 := rfl
    rw [meant, whole, EReal.coe_lt_coe_iff, Double.scaled]
    norm_num

end Schema

end RequestBinding
