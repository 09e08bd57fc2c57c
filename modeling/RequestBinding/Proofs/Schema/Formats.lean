import RequestBinding.Proofs.Pattern.Sequences
import RequestBinding.Proofs.Schema.Findings
import RequestBinding.Proofs.Text.Capitals

/-!
Texts with a format.  Main statements: dates and times are recognized by their digits and marks,
where the digits may be those of any script; identifiers and addresses are recognized by their
grammar.
-/
namespace RequestBinding

namespace Format
open Regex

theorem search_whole_iff {rs : List Regex} {text : String} :
    (whole rs).search text = true ↔ (seqAll rs).Matches none text.toList [] := by
  have anchored : whole rs = seqAll ([.assert .textStart] ++ (rs ++ [.assert .textEnd])) := rfl
  simp only [search_eq_true_iff, anchored, matches_seqAll_append_iff]
  constructor
  · rintro ⟨u, _, v, split, _, _, rfl, ⟨rfl, start⟩, w, _, rfl, matched, rfl, finish⟩
    obtain rfl : u = [] := by simpa [Assertion.holds] using start
    obtain rfl : v = [] := by simpa [Assertion.holds] using finish
    simpa [split] using matched
  · intro matched
    exact ⟨[], _, [], by simp, [], _, rfl, ⟨rfl, rfl⟩, _, [], (List.append_nil _).symm,
      matched, rfl, rfl⟩

structure Digits (digit : Char → Prop) (n : Nat) (w : List Char) : Prop where
  length : w.length = n
  all : ∀ c ∈ w, digit c

/-- Groups of so many digits with the mark between them. -/
inductive Grouped (digit : Char → Prop) (mark : Char) : List Nat → List Char → Prop
  | last {n : Nat} {w : List Char} : Digits digit n w → Grouped digit mark [n] w
  | more {n : Nat} {ns : List Nat} {u v : List Char} : Digits digit n u → Grouped digit mark ns v →
    Grouped digit mark (n :: ns) (u ++ mark :: v)

def IsDate (digit : Char → Prop) : List Char → Prop := Grouped digit '-' [4, 2, 2]

def IsClock (digit : Char → Prop) : List Char → Prop := Grouped digit ':' [2, 2]

inductive IsFraction (digit : Char → Prop) : List Char → Prop
  | whole : IsFraction digit []
  | point {n : Nat} {ds : List Char} : 1 ≤ n → n ≤ 9 → Digits digit n ds →
    IsFraction digit ('.' :: ds)

inductive IsZone (digit : Char → Prop) : List Char → Prop
  | anywhere : IsZone digit []
  | zero : IsZone digit ['Z']
  | offset {sign : Char} {clock : List Char} : sign = '+' ∨ sign = '-' → IsClock digit clock →
    IsZone digit (sign :: clock)

inductive IsMoment (digit : Char → Prop) : List Char → Prop
  | intro {date clock second fraction zone : List Char} : IsDate digit date →
    IsClock digit clock → Digits digit 2 second → IsFraction digit fraction →
    IsZone digit zone →
    IsMoment digit (date ++ 'T' :: (clock ++ ':' :: (second ++ (fraction ++ zone))))

/-- A decimal digit of any script. -/
def IsDecimal (c : Char) : Prop := Text.inRanges Text.digitRanges c = true

section
variable {before : Option Char} {w after : List Char}

theorem matches_times_iff {digits : CharSet} {p : Char → Prop} {n : Nat}
    (held : ∀ c, digits.contains c = true ↔ p c) :
    ((Regex.set digits).times n).Matches before w after ↔ Digits p n w := by
  simp only [times, matches_rep_set_iff, held]
  constructor
  · rintro ⟨least, most, all⟩
    have := most n rfl
    exact ⟨by omega, all⟩
  · rintro ⟨rfl, all⟩
    exact ⟨Nat.le_refl _, by simp, all⟩

theorem matches_grouped_iff {digits : CharSet} {p : Char → Prop} (mark : Char) (n : Nat)
    (ns : List Nat) (held : ∀ c, digits.contains c = true ↔ p c) :
    (seqAll (((n :: ns).map (Regex.set digits).times).intersperse (.char mark))).Matches
        before w after ↔ Grouped p mark (n :: ns) w := by
  induction ns generalizing n before w after with
  | nil =>
    refine (matches_times_iff held).trans ⟨.last, ?_⟩
    rintro (digits | ⟨_, _ | _⟩)
    exact digits
  | cons m ns ih =>
    have first : ((n :: m :: ns).map (Regex.set digits).times).intersperse (.char mark) =
        [(Regex.set digits).times n] ++ ([.char mark] ++
          ((m :: ns).map (Regex.set digits).times).intersperse (.char mark)) := rfl
    simp only [first, matches_seqAll_append_iff, seqAll_singleton, matches_times_iff held,
      matches_char_iff, ih]
    constructor
    · rintro ⟨_, _, rfl, digits, _, _, rfl, rfl, rest⟩
      exact .more digits rest
    · rintro (_ | ⟨digits, rest⟩)
      exact ⟨_, _, rfl, digits, [mark], _, rfl, rfl, rest⟩

theorem contains_digitRanges_iff {c : Char} :
    CharSet.contains ⟨Text.digitRanges⟩ c = true ↔ IsDecimal c := Iff.rfl

theorem matches_datePart_iff :
    (seqAll datePart).Matches before w after ↔ IsDate IsDecimal w :=
  matches_grouped_iff '-' 4 [2, 2] fun _ => contains_digitRanges_iff

theorem matches_clockPart_iff :
    (seqAll clockPart).Matches before w after ↔ IsClock IsDecimal w :=
  matches_grouped_iff ':' 2 [2] fun _ => contains_digitRanges_iff

theorem matches_digits_iff {n : Nat} :
    (digit.times n).Matches before w after ↔ Digits IsDecimal n w :=
  matches_times_iff fun _ => contains_digitRanges_iff

theorem matches_fraction_iff :
    (Regex.optional (.seq (.char '.') (.rep digit 1 (some 9)))).Matches before w after ↔
      IsFraction IsDecimal w := by
  rw [matches_optional_iff]
  constructor
  · rintro (rfl | ⟨_, ds, rfl, point, rest⟩)
    · exact .whole
    · obtain rfl := matches_char_iff.1 point
      obtain ⟨least, most, all⟩ := matches_rep_set_iff.1 rest
      exact .point least (most 9 rfl) ⟨rfl, all⟩
  · rintro (_ | ⟨least, most, rfl, all⟩)
    · exact .inl rfl
    · refine .inr ⟨['.'], _, rfl, matches_char_iff.2 rfl,
        matches_rep_set_iff.2 ⟨least, ?_, all⟩⟩
      rintro _ ⟨⟩
      omega

theorem matches_zone_iff :
    (Regex.optional (.alt (.char 'Z')
        (.seqAll (.set (.union (.single '+') (.single '-')) :: clockPart)))).Matches
          before w after ↔ IsZone IsDecimal w := by
  rw [matches_optional_iff]
  have sign (c : Char) : (CharSet.union (.single '+') (.single '-')).contains c = true ↔
      c = '+' ∨ c = '-' := by
    simp only [CharSet.contains_union, CharSet.contains_single, Bool.or_eq_true, beq_iff_eq]
    exact or_congr eq_comm eq_comm
  constructor
  · rintro (rfl | zero | ⟨_, clock, rfl, ⟨c, held, rfl⟩, rest⟩)
    · exact .anywhere
    · exact matches_char_iff.1 zero ▸ .zero
    · exact .offset ((sign c).1 held) (matches_clockPart_iff.1 rest)
  · rintro (_ | _ | ⟨signed, clock⟩)
    · exact .inl rfl
    · exact .inr (.inl (matches_char_iff.2 rfl))
    · exact .inr (.inr ⟨[_], _, rfl, ⟨_, (sign _).2 signed, rfl⟩, matches_clockPart_iff.2 clock⟩)

theorem accepts_date_iff {s : String} :
    accepts .date s = true ↔ IsDate IsDecimal s.toList :=
  search_whole_iff.trans matches_datePart_iff

theorem accepts_dateTime_iff {s : String} :
    accepts .dateTime s = true ↔ IsMoment IsDecimal s.toList := by
  refine search_whole_iff.trans ?_
  simp only [matches_seqAll_append_iff, matches_seqAll_cons_iff, seqAll_singleton,
    matches_datePart_iff, matches_clockPart_iff, matches_digits_iff, matches_char_iff,
    matches_fraction_iff, matches_zone_iff]
  generalize s.toList = w
  constructor
  · rintro ⟨_, _, rfl, ⟨_, _, rfl, ⟨_, _, rfl, date, rfl⟩, clock⟩, _, _, rfl, rfl, _, _, rfl,
      second, _, _, rfl, fraction, zone⟩
    simpa using IsMoment.intro date clock second fraction zone
  · rintro ⟨date, clock, second, fraction, zone⟩
    refine ⟨_, _, ?_, ⟨_, _, rfl, ⟨_, ['T'], rfl, date, rfl⟩, clock⟩, [':'], _, rfl, rfl, _, _, rfl,
      second, _, _, rfl, fraction, zone⟩
    simp

def IsHexDigit (c : Char) : Prop :=
  '0' ≤ c ∧ c ≤ '9' ∨ 'a' ≤ c ∧ c ≤ 'f' ∨ 'A' ≤ c ∧ c ≤ 'F'

/-- Five groups of hexadecimal digits with hyphens between them. -/
def IsUuid : List Char → Prop := Grouped IsHexDigit '-' [8, 4, 4, 4, 12]

theorem contains_hexDigits_iff {c : Char} :
    (CharSet.unionAll [.range '0' '9', .range 'a' 'f', .range 'A' 'F']).contains c = true ↔
      IsHexDigit c := by
  simp only [CharSet.contains_unionAll, List.any_cons, List.any_nil, CharSet.contains_range,
    Bool.or_false, Bool.or_eq_true, Bool.and_eq_true, decide_eq_true_eq]
  exact Iff.rfl

theorem accepts_uuid_iff {s : String} : accepts .uuid s = true ↔ IsUuid s.toList :=
  search_whole_iff.trans (matches_grouped_iff '-' 8 [4, 4, 4, 12] fun _ => contains_hexDigits_iff)

/-- One `@`, and on its sides. -/
def IsEmail (w : List Char) : Prop :=
  w.count '@' = 1 ∧ ∃ user domain, w = user ++ '@' :: domain ∧
    user ≠ [] ∧ (∀ c ∈ user, c.isAlphanum = true ∨ c ∈ ['.', '_', '%', '+', '-']) ∧
    (∀ c ∈ domain, c.isAlphanum = true ∨ c ∈ ['.', '-']) ∧
    ∃ front last, domain = front ++ '.' :: last ∧ '.' ∉ last ∧ front ≠ [] ∧
      2 ≤ last.length ∧ ∀ c ∈ last, c.isAlpha = true

theorem contains_letters (c : Char) : letters.contains c = c.isAlpha := by
  have alpha : c.isAlpha = (c.isUpper || c.isLower) := rfl
  rw [Bool.eq_iff_iff, alpha, Bool.or_eq_true, Text.isUpper_iff, Text.isLower_iff]
  simp only [letters, CharSet.contains_union, CharSet.contains_range, Bool.or_eq_true,
    Bool.and_eq_true, decide_eq_true_eq]
  exact or_comm

theorem contains_digits (c : Char) : (CharSet.range '0' '9').contains c = c.isDigit := by
  simp only [CharSet.contains_range, Char.isDigit, ge_iff_le, UInt32.le_iff_toNat_le]
  rfl

theorem contains_lettersDigitsAnd_iff {cs : List Char} {c : Char} :
    (lettersDigitsAnd cs).contains c = true ↔ c.isAlphanum = true ∨ c ∈ cs := by
  simp only [lettersDigitsAnd, CharSet.contains_unionAll, List.any_append, List.any_cons,
    List.any_nil, contains_letters, contains_digits, List.any_map, Char.isAlphanum,
    Bool.or_eq_true, List.any_eq_true, Function.comp_apply, CharSet.contains_single, beq_iff_eq,
    exists_eq_right, Bool.false_eq_true, or_false]

theorem accepts_email_iff {s : String} : accepts .email s = true ↔ IsEmail s.toList := by
  refine search_whole_iff.trans ?_
  simp only [matches_seqAll_cons_iff, seqAll_singleton, atLeast, matches_rep_set_iff,
    matches_char_iff, contains_lettersDigitsAnd_iff, contains_letters]
  generalize s.toList = w
  constructor
  · rintro ⟨user, _, rfl, ⟨someone, _, inUser⟩, _, _, rfl, rfl, front, _, rfl,
      ⟨somewhere, _, inFront⟩, _, last, rfl, rfl, two, _, inLast⟩
    have inDomain : ∀ c ∈ front ++ '.' :: last, c.isAlphanum = true ∨ c ∈ ['.', '-'] := by
      refine List.forall_mem_append.2 ⟨inFront, List.forall_mem_cons.2 ⟨by simp, fun c hc => ?_⟩⟩
      simp [Char.isAlphanum, inLast c hc]
    have noSign {cs marks : List Char} (other : '@' ∉ marks)
        (all : ∀ c ∈ cs, c.isAlphanum = true ∨ c ∈ marks) : cs.count '@' = 0 :=
      List.count_eq_zero.2 fun mem => (all '@' mem).elim (by decide) other
    refine ⟨?_, user, front ++ '.' :: last, rfl, List.length_pos_iff.1 someone, inUser, inDomain,
      front, last, rfl, fun dot => absurd (inLast '.' dot) (by decide),
      List.length_pos_iff.1 somewhere, two, inLast⟩
    show (user ++ '@' :: (front ++ '.' :: last)).count '@' = 1
    rw [List.count_append, List.count_cons_self, noSign (by decide) inUser,
      noSign (by decide) inDomain]
  · rintro ⟨_, user, _, rfl, someone, inUser, inDomain, front, last, rfl, _, somewhere, two, inLast⟩
    obtain ⟨inFront, -⟩ := List.forall_mem_append.1 inDomain
    exact ⟨user, _, rfl, ⟨List.length_pos_iff.2 someone, nofun, inUser⟩, ['@'], _, rfl, rfl,
      front, _, rfl, ⟨List.length_pos_iff.2 somewhere, nofun, inFront⟩, ['.'], last, rfl, rfl, two,
      nofun, inLast⟩

end

def IsAsciiDigit (c : Char) : Prop := c.isDigit = true

def AsciiDigits (w : List Char) : Prop := ∀ c ∈ w, IsDecimal c → IsAsciiDigit c

def marks : List Char := ['-', ':', '.', '+', 'T', 'Z']

theorem isDecimal_of_isAsciiDigit {c : Char} (h : IsAsciiDigit c) : IsDecimal c := by
  refine Text.inRanges_iff.2 ⟨(0x30, 0x39), by decide, ?_⟩
  simpa [IsAsciiDigit, Char.isDigit, UInt32.le_iff_toNat_le] using h

theorem not_isDecimal_of_mem_marks : ∀ c ∈ marks, ¬IsDecimal c := by
  have none : marks.all (fun c => !Text.inRanges Text.digitRanges c) = true := by decide
  simpa [IsDecimal] using none

variable {p q : Char → Prop} {n : Nat} {w : List Char} {c : Char}

theorem Digits.imp (h : Digits p n w) (sub : ∀ c ∈ w, p c → q c) : Digits q n w :=
  ⟨h.length, fun c hc => sub c hc (h.all c hc)⟩

theorem Grouped.imp {mark : Char} {ns : List Nat} (h : Grouped p mark ns w)
    (sub : ∀ c ∈ w, p c → q c) : Grouped q mark ns w := by
  induction h with
  | last digits => exact .last (digits.imp sub)
  | more digits _ ih =>
    exact .more (digits.imp fun c hc => sub c (by simp [hc]))
      (ih fun c hc => sub c (by simp [hc]))

theorem IsFraction.imp (h : IsFraction p w) (sub : ∀ c ∈ w, p c → q c) : IsFraction q w := by
  cases h with
  | whole => exact .whole
  | point least most digits => exact .point least most (digits.imp fun c hc => sub c (by simp [hc]))

theorem IsZone.imp (h : IsZone p w) (sub : ∀ c ∈ w, p c → q c) : IsZone q w := by
  cases h with
  | anywhere => exact .anywhere
  | zero => exact .zero
  | offset signed clock => exact .offset signed (Grouped.imp clock fun c hc => sub c (by simp [hc]))

theorem IsMoment.imp (h : IsMoment p w) (sub : ∀ c ∈ w, p c → q c) : IsMoment q w := by
  obtain ⟨date, clock, second, fraction, zone⟩ := h
  exact .intro (Grouped.imp date fun c hc => sub c (by simp [hc]))
    (Grouped.imp clock fun c hc => sub c (by simp [hc]))
    (second.imp fun c hc => sub c (by simp [hc])) (fraction.imp fun c hc => sub c (by simp [hc]))
    (zone.imp fun c hc => sub c (by simp [hc]))

theorem Grouped.digit_or_mark {mark : Char} {ns : List Nat} (h : Grouped p mark ns w)
    (known : mark ∈ marks) (hc : c ∈ w) : p c ∨ c ∈ marks := by
  induction h with
  | last digits => exact .inl (digits.all c hc)
  | more digits _ ih =>
    obtain first | rfl | rest : c ∈ _ ∨ c = mark ∨ c ∈ _ := by simpa using hc
    · exact .inl (digits.all c first)
    · exact .inr known
    · exact ih rest

theorem IsDate.digit_or_mark (h : IsDate p w) (hc : c ∈ w) : p c ∨ c ∈ marks :=
  Grouped.digit_or_mark h (by decide) hc

theorem IsClock.digit_or_mark (h : IsClock p w) (hc : c ∈ w) : p c ∨ c ∈ marks :=
  Grouped.digit_or_mark h (by decide) hc

theorem IsFraction.digit_or_mark (h : IsFraction p w) (hc : c ∈ w) : p c ∨ c ∈ marks := by
  cases h <;> grind [marks, Digits]

theorem IsZone.digit_or_mark (h : IsZone p w) (hc : c ∈ w) : p c ∨ c ∈ marks := by
  cases h <;> grind [marks, IsClock.digit_or_mark]

theorem IsMoment.digit_or_mark (h : IsMoment p w) (hc : c ∈ w) : p c ∨ c ∈ marks := by
  obtain ⟨date, clock, second, fraction, zone⟩ := h
  grind [marks, Digits, IsDate.digit_or_mark, IsClock.digit_or_mark, IsFraction.digit_or_mark,
    IsZone.digit_or_mark]

/-- A grammar of digits and marks holds of digits in ASCII exactly if it holds of digits of any
script and all of them are ASCII. -/
theorem ascii_iff {grammar : (Char → Prop) → List Char → Prop}
    (imp : ∀ p q, grammar p w → (∀ c ∈ w, p c → q c) → grammar q w)
    (digit_or_mark : ∀ p, grammar p w → ∀ c ∈ w, p c ∨ c ∈ marks) :
    grammar IsAsciiDigit w ↔ grammar IsDecimal w ∧ AsciiDigits w := by
  constructor
  · intro h
    refine ⟨imp _ _ h fun c _ => isDecimal_of_isAsciiDigit, fun c hc decimal => ?_⟩
    exact (digit_or_mark _ h c hc).resolve_right fun mark =>
      not_isDecimal_of_mem_marks c mark decimal
  · rintro ⟨h, ascii⟩
    exact imp _ _ h ascii

/-- A text that needs the format and nothing else is accepted as it is under the condition, and
otherwise there is one violation, about its format. -/
structure Decides (f : Format) (s : String) (p : Prop) : Prop where
  accepted : p → ∀ ctx es,
    ((Schema.text { format := some f }).check ctx (.string s)).run es = (.string s, es)
  refused : ¬p → ∀ ctx es, ((Schema.text { format := some f }).check ctx (.string s)).run es =
    (.string s, es ++ [ctx.violation (.wrongFormat f)])

theorem decides_of_accepts_iff {f : Format} {s : String} {p : Prop}
    (h : f.accepts s = true ↔ p) : f.Decides s p := by
  have run (ctx : Context) (es : List Violation) :
      ((Schema.text { format := some f }).check ctx (.string s)).run es = (.string s,
        es ++ ((Cause.wrongFormat f).ifNot (f.accepts s)).map ctx.violation) := by
    rw [Schema.adds_check _ ctx (.string s) es]
    simp [Schema.settle, Schema.findings, TextLimits.causes, Function.comp_def]
  constructor
  · intro hp ctx es
    rw [run, h.2 hp]
    simp [Cause.ifNot]
  · intro hp ctx es
    rw [run, Bool.eq_false_iff.2 fun accepted => hp (h.1 accepted)]
    rfl

/-- A date is four digits, two and two with hyphens between them; a time of day follows in the other
format, with parts of a second and a zone if it has them.  The digits may be of any script, and the
text is written as the standard has it exactly if all of them are ASCII. -/
theorem decides_dates (s : String) :
    (date.Decides s (IsDate IsDecimal s.toList) ∧
      (IsDate IsAsciiDigit s.toList ↔ IsDate IsDecimal s.toList ∧ AsciiDigits s.toList)) ∧
    dateTime.Decides s (IsMoment IsDecimal s.toList) ∧
      (IsMoment IsAsciiDigit s.toList ↔ IsMoment IsDecimal s.toList ∧ AsciiDigits s.toList) :=
  ⟨⟨decides_of_accepts_iff accepts_date_iff,
      ascii_iff (fun _ _ => Grouped.imp) fun _ h _ => h.digit_or_mark⟩,
    decides_of_accepts_iff accepts_dateTime_iff,
      ascii_iff (fun _ _ => .imp) fun _ h _ => h.digit_or_mark⟩

/-- A date in wide digits is accepted. -/
theorem decides_date_wide :
    ((Schema.text { format := some .date }).check ⟨"query", ["on"]⟩
        (.string "２０２４-０１-０１")).run [] = (.string "２０２４-０１-０１", []) ∧
      ¬IsDate IsAsciiDigit "２０２４-０１-０１".toList ∧
      ¬∀ s, date.Decides s (IsDate IsAsciiDigit s.toList) := by
  have accepted : ((Schema.text { format := some .date }).check ⟨"query", ["on"]⟩
      (.string "２０２４-０１-０１")).run [] = (.string "２０２４-０１-０１", []) := by
    rfl
  have wide : ¬IsDate IsAsciiDigit "２０２４-０１-０１".toList := by
    intro h
    have digit : IsAsciiDigit '２' ∨ '２' ∈ marks := h.digit_or_mark (by decide)
    revert digit
    unfold IsAsciiDigit
    decide
  refine ⟨accepted, wide, fun decides => ?_⟩
  have refused := (decides "２０２４-０１-０１").refused wide ⟨"query", ["on"]⟩ []
  rw [accepted] at refused
  cases refused

/-- An address has one sign, in front of it a name and behind it a domain whose last part is
letters; an identifier is five groups of hexadecimal digits. -/
theorem decides_addresses (s : String) :
    email.Decides s (IsEmail s.toList) ∧ uuid.Decides s (IsUuid s.toList) :=
  ⟨decides_of_accepts_iff accepts_email_iff, decides_of_accepts_iff accepts_uuid_iff⟩

end Format

end RequestBinding
