import RequestBinding.Text.LetterCase
import RequestBinding.Unicode.CharSet
import RequestBinding.Unicode.Newest

/-!
Characters that differ in case alone, and sets that are closed under it.
-/
namespace RequestBinding
open Text Unicode

def Text.CaseRun.source? (r : CaseRun) (t : Nat) : Option Nat :=
  if r.image ≤ t ∧ t ≤ r.image + (r.last - r.first) ∧ (t - r.image) % r.step = 0 then
    some (r.first + (t - r.image))
  else none

def Text.CaseRun.points (r : CaseRun) : List Nat :=
  (List.range ((r.last - r.first) / r.step + 1)).flatMap fun i =>
    [r.first + i * r.step, r.image + i * r.step]

namespace Unicode

def withSmall (c : Char) : List Char :=
  (if 'a' ≤ c ∧ c ≤ 'z' then [Char.ofNat (c.toNat - 32)] else [])
    ++ (smallRuns.filterMap (·.source? c.toNat)).map Char.ofNat

def withCapital (c : Char) : List Char :=
  (if 'A' ≤ c ∧ c ≤ 'Z' then [Char.ofNat (c.toNat + 32)] else [])
    ++ (capitalRuns.filterMap (·.source? c.toNat)).map Char.ofNat

/-- Letters that meet in a common form without a capital of one letter. -/
def irregular : List Char := ['\u0390', '\u1fd3', '\u03b0', '\u1fe3', '\ufb05', '\ufb06']

/-- The characters that differ from `c` in case at most. -/
def caseVariants (c : Char) : List Char :=
  if isNewest c then [c]
  else
    let small := Text.folded c
    let capitals := capitalLetter small :: withSmall small
    (c :: small :: capitals ++ capitals.flatMap withCapital ++ irregular).filter
      fun d => Text.folded d = small && !isNewest d

def caseLetters (_ : Unit) : List Nat :=
  let ascii := (List.range 26).flatMap fun i => ['A'.toNat + i, 'a'.toNat + i]
  ascii ++ smallRuns.flatMap CaseRun.points ++ capitalRuns.flatMap CaseRun.points
    ++ irregular.map Char.toNat

end Unicode

namespace CharSet

/-- The set of the characters of a list in any order. -/
def ofChars (cs : List Char) : CharSet :=
  ofRanges ((cs.map fun c => (c.toNat, c.toNat)).mergeSort fun r s => r.1 ≤ s.1)

def foldCase (s : CharSet) : CharSet :=
  let letters := ((caseLetters ()).map Char.ofNat).filter s.contains
  s.union (ofChars (letters.flatMap caseVariants))

def foldAsciiCase (s : CharSet) : CharSet :=
  let letters := ((List.range 128).map Char.ofNat).filter s.contains
  s.union (ofChars (letters.flatMap fun c => [c.toUpper, c.toLower]))

@[simp] theorem contains_ofChars (cs : List Char) (c : Char) :
    (ofChars cs).contains c = cs.contains c := by
  rw [ofChars, contains_ofRanges, Bool.eq_iff_iff, inRanges_iff]
  simp only [List.mem_mergeSort, List.mem_map, List.contains_iff_mem]
  constructor
  · rintro ⟨_, ⟨d, hd, rfl⟩, h⟩
    rwa [← Char.toNat_inj.1 (Nat.le_antisymm h.1 h.2)]
  · exact fun h => ⟨_, ⟨c, h, rfl⟩, Nat.le_refl _, Nat.le_refl _⟩

end CharSet

end RequestBinding
