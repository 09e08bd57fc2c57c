import RequestBinding.Decimal.Reader
import RequestBinding.Decimal.Style
import RequestBinding.Proofs.Text.Pieces

/-!
Integers as text.  Main statements: a text is read as an integer of 64 bits exactly if it is an
optional sign and decimal digits for it; the decimal text of every integer is one, and is found
again among blanks.
-/
namespace RequestBinding
open Text

namespace Decimal

/-- The characters are an optional sign and decimal digits, at least one, for the integer. -/
inductive Denotes : List Char → Int → Prop
  | unsigned {digits : List Char} (some : digits ≠ []) (all : ∀ c ∈ digits, c.isDigit = true) :
    Denotes digits (Nat.ofDigitChars 10 digits 0)
  | plus {digits : List Char} (some : digits ≠ []) (all : ∀ c ∈ digits, c.isDigit = true) :
    Denotes ('+' :: digits) (Nat.ofDigitChars 10 digits 0)
  | minus {digits : List Char} (some : digits ≠ []) (all : ∀ c ∈ digits, c.isDigit = true) :
    Denotes ('-' :: digits) (-(Nat.ofDigitChars 10 digits 0 : Int))

theorem asciiDigit?_eq (c : Char) :
    asciiDigit? c = if c.isDigit then some (c.toNat - '0'.toNat) else none := by
  have same : ('0' ≤ c ∧ c ≤ '9') ↔ c.isDigit = true := by
    simp [Char.isDigit, Char.le_def]
  simp only [asciiDigit?, same]

/-- Digits are read from left to right, on top of what was read before. -/
theorem foldlM_asciiDigit?_eq_some_iff {cs : List Char} {k n : Nat} :
    cs.foldlM (fun n c => (asciiDigit? c).map (10 * n + ·)) k = some n ↔
      (∀ c ∈ cs, c.isDigit = true) ∧ Nat.ofDigitChars 10 cs k = n := by
  induction cs generalizing k with
  | nil => simp [Nat.ofDigitChars]
  | cons c cs ih =>
    rw [List.foldlM_cons, asciiDigit?_eq, List.forall_mem_cons, Nat.ofDigitChars_cons]
    cases digit : c.isDigit with
    | false => simp
    | true => simpa using ih

theorem digitsValue?_eq_some_iff {cs : List Char} {n : Nat} :
    digitsValue? cs = some n ↔ (∀ c ∈ cs, c.isDigit = true) ∧ Nat.ofDigitChars 10 cs 0 = n :=
  foldlM_asciiDigit?_eq_some_iff

theorem ne_sign_of_isDigit {c : Char} (h : c.isDigit = true) : c ≠ '-' ∧ c ≠ '+' := by
  constructor <;> rintro rfl <;> exact absurd h (by decide)

theorem splitSign_cons {c : Char} (other : c ≠ '-' ∧ c ≠ '+') (cs : List Char) :
    splitSign (c :: cs) = (false, c :: cs) := by
  unfold splitSign
  split <;> simp_all

theorem denotes_iff {cs : List Char} {i : Int} : Denotes cs i ↔
    (splitSign cs).2 ≠ [] ∧ (∀ c ∈ (splitSign cs).2, c.isDigit = true) ∧
      (if (splitSign cs).1 then -(Nat.ofDigitChars 10 (splitSign cs).2 0 : Int)
        else Nat.ofDigitChars 10 (splitSign cs).2 0) = i := by
  constructor
  · intro h
    cases h with
    | unsigned some all =>
      obtain ⟨c, rest, rfl⟩ := List.exists_cons_of_ne_nil some
      have other := ne_sign_of_isDigit (all c (by simp))
      rw [splitSign_cons other]
      exact ⟨some, all, rfl⟩
    | plus some all => exact ⟨some, all, rfl⟩
    | minus some all => exact ⟨some, all, rfl⟩
  · rintro ⟨some, all, rfl⟩
    match cs with
    | [] => exact absurd rfl some
    | '-' :: digits => exact .minus some all
    | '+' :: digits => exact .plus some all
    | c :: rest =>
      by_cases minus : c = '-'
      · subst minus
        exact .minus some all
      · by_cases plus : c = '+'
        · subst plus
          exact .plus some all
        · rw [splitSign_cons ⟨minus, plus⟩] at some all ⊢
          exact .unsigned some all

theorem narrow_eq_some_iff {i : Int} {k : Int64} :
    (if Int64.minValue.toInt ≤ i ∧ i ≤ Int64.maxValue.toInt then some (Int64.ofInt i) else none) =
      some k ↔ i = k.toInt := by
  constructor
  · intro h
    split at h
    · next fits =>
      rw [Int64.toInt_minValue, Int64.toInt_maxValue] at fits
      obtain rfl := Option.some.inj h
      exact (Int64.toInt_ofInt_of_le fits.1 (by omega)).symm
    · cases h
  · rintro rfl
    rw [if_pos ⟨k.minValue_le_toInt, k.toInt_le⟩, Int64.ofInt_toInt]

/-- A text is read as an integer of 64 bits exactly if it denotes it. -/
theorem readInt64?_eq_some_iff {cs : List Char} {k : Int64} :
    readInt64? cs = some k ↔ Denotes cs k.toInt := by
  rw [denotes_iff]
  unfold readInt64?
  rcases splitSign cs with ⟨negative, digits⟩
  cases digits with
  | nil => simp
  | cons c digits =>
    simp only [List.isEmpty_cons, Bool.false_eq_true, if_false, bind, Option.bind_eq_some_iff,
      digitsValue?_eq_some_iff, narrow_eq_some_iff, and_assoc, exists_and_left, exists_eq_left',
      ne_eq, reduceCtorEq, not_false_eq_true, true_and]

theorem isDigit_toDigits (n : Nat) : ∀ c ∈ Nat.toDigits 10 n, c.isDigit = true := fun _ hc =>
  Nat.isDigit_of_mem_toDigits (by decide) (by decide) hc

theorem denotes_intText (i : Int) : Denotes (intText i).toList i := by
  have digits := isDigit_toDigits i.natAbs
  unfold intText natText
  by_cases negative : i < 0
  · have h := Denotes.minus Nat.toDigits_ne_nil digits
    rw [Nat.ofDigitChars_ten_toDigits, Int.ofNat_natAbs_of_nonpos (by omega), Int.neg_neg] at h
    simpa [negative] using h
  · have h := Denotes.unsigned Nat.toDigits_ne_nil digits
    rw [Nat.ofDigitChars_ten_toDigits, Int.natAbs_of_nonneg (by omega)] at h
    simpa [negative] using h

end Decimal

namespace Text

theorem isBlank_of_isDigit {c : Char} (h : c.isDigit = true) : isBlank c = false := by
  have digit : 48 ≤ c.toNat ∧ c.toNat ≤ 57 := by
    simpa [Char.isDigit, UInt32.le_iff_toNat_le] using h
  have apart : ∀ r ∈ blankRanges, r.2 < 48 ∨ 57 < r.1 := by decide
  refine Bool.eq_false_iff.2 fun blank => ?_
  obtain ⟨r, hr, low, high⟩ := inRanges_iff.1 blank
  have outside := apart r hr
  omega

end Text

namespace Decimal.Denotes
variable {before cs after : List Char} {i : Int}

theorem isBlank_eq_false (h : Denotes cs i) : ∀ c ∈ cs, isBlank c = false := by
  cases h with
  | unsigned some all => exact fun c hc => isBlank_of_isDigit (all c hc)
  | plus some all =>
    exact List.forall_mem_cons.2 ⟨by decide, fun c hc => isBlank_of_isDigit (all c hc)⟩
  | minus some all =>
    exact List.forall_mem_cons.2 ⟨by decide, fun c hc => isBlank_of_isDigit (all c hc)⟩

/-- A text that denotes an integer is found among blanks. -/
theorem trimWhere_eq (h : Denotes cs i) (blank : ∀ c ∈ before ++ after, isBlank c = true) :
    trimWhere isBlank (before ++ cs ++ after) = cs := by
  obtain ⟨left, right⟩ := List.forall_mem_append.1 blank
  have trimmed : Trimmed isBlank cs :=
    ⟨fun c hc => h.isBlank_eq_false c (List.mem_of_head? hc),
      fun c hc => h.isBlank_eq_false c (List.mem_of_getLast? hc)⟩
  exact trimmed.trimWhere_margins left right

end Decimal.Denotes

end RequestBinding
