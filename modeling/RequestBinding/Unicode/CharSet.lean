import RequestBinding.Text.Ranges

/-!
Sets of characters, written as ranges of code points.  Ranges are kept in ascending order, and two
that touch are one.  Main statements: what belongs to a union, to the characters two sets have in
common, and to a difference.
-/
namespace RequestBinding
open Text

/-- A set of characters as ranges of code points, both ends included. -/
structure CharSet where
  ranges : List (Nat × Nat)
  deriving DecidableEq, Repr

namespace CharSet

def contains (s : CharSet) (c : Char) : Bool := inRanges s.ranges c

def none : CharSet := ⟨[]⟩

def lastPoint : Nat := 0x10ffff

def all : CharSet := ⟨[(0, lastPoint)]⟩

def range (low high : Char) : CharSet := ⟨[(low.toNat, high.toNat)]⟩

def single (c : Char) : CharSet := range c c

/-- Put a range in front of others that do not begin before it. -/
def place (r : Nat × Nat) : List (Nat × Nat) → List (Nat × Nat)
  | [] => [r]
  | t :: ts =>
    if r.2 + 1 < t.1 then r :: t :: ts
    else if t.2 + 1 < r.1 then t :: place r ts
    else place (min r.1 t.1, max r.2 t.2) ts

/-- The set of the given ranges, which stand in ascending order of their first code points. -/
def ofRanges (rs : List (Nat × Nat)) : CharSet := ⟨rs.foldr place []⟩

def union (a b : CharSet) : CharSet := ofRanges (a.ranges.merge b.ranges fun r s => r.1 ≤ s.1)

def unionAll (sets : List CharSet) : CharSet := sets.foldl union none

def ofList (cs : List Char) : CharSet := unionAll (cs.map single)

def overlap? (r s : Nat × Nat) : Option (Nat × Nat) :=
  let both := (max r.1 s.1, min r.2 s.2)
  if both.1 ≤ both.2 then some both else Option.none

def common (a b : CharSet) : CharSet :=
  ⟨a.ranges.flatMap fun r => b.ranges.filterMap (overlap? r)⟩

/-- The code point of the character before; surrogates are passed over. -/
def before (n : Nat) : Nat := if n = 0xe000 then 0xd7ff else n - 1

def after (n : Nat) : Nat := if n = 0xd7ff then 0xe000 else n + 1

def cut (s r : Nat × Nat) : List (Nat × Nat) :=
  if r.2 < s.1 ∨ s.2 < r.1 then [r]
  else
    (if r.1 < s.1 then [(r.1, before s.1)] else [])
      ++ (if s.2 < r.2 then [(after s.2, r.2)] else [])

def without (a b : CharSet) : CharSet :=
  ⟨a.ranges.flatMap fun r => b.ranges.foldl (fun parts s => parts.flatMap (cut s)) [r]⟩

def oneOf (a b : CharSet) : CharSet := (union a b).without (common a b)

/-- What lies between ranges, from the code point `start` on.  Where nothing but surrogates lies
between two ranges, the characters beside them stand for the gap. -/
def gaps (start : Nat) : List (Nat × Nat) → List (Nat × Nat)
  | [] => if start ≤ lastPoint then [(start, lastPoint)] else []
  | r :: rs =>
    (if start < r.1 then [(start, before r.1)]
      else if start = 0xe000 ∧ r.1 = 0xe000 then [(0xd7ff, 0xe000)]
      else [])
      ++ gaps (after r.2) rs

def complement (s : CharSet) : CharSet := ⟨gaps 0 s.ranges⟩

def isEmpty (s : CharSet) : Bool := s.ranges.isEmpty

def single? (s : CharSet) : Option Char :=
  match s.ranges with
  | [(low, high)] => if low = high then some (Char.ofNat low) else Option.none
  | _ => Option.none

def isAscii (s : CharSet) : Bool := s.ranges.all (·.2 < 0x80)

@[simp] theorem contains_none (c : Char) : none.contains c = false := rfl

@[simp] theorem contains_mk (rs : List (Nat × Nat)) (c : Char) :
    CharSet.contains ⟨rs⟩ c = inRanges rs c := rfl

@[simp] theorem contains_range (low high c : Char) :
    (range low high).contains c
      = (decide (low.toNat ≤ c.toNat) && decide (c.toNat ≤ high.toNat)) := by
  simp [range, inRanges]

@[simp] theorem contains_single (d c : Char) : (single d).contains c = (d == c) := by
  rw [Bool.eq_iff_iff]
  simp only [single, contains_range, Bool.and_eq_true, decide_eq_true_eq, beq_iff_eq]
  constructor
  · intro h
    exact Char.toNat_inj.1 (Nat.le_antisymm h.1 h.2)
  · rintro rfl
    exact ⟨Nat.le_refl _, Nat.le_refl _⟩

theorem single?_single (c : Char) : (single c).single? = some c := by
  simp [single?, single, range]

@[simp] theorem contains_all (c : Char) : all.contains c = true := by
  have : c.toNat < 0x110000 := by
    have valid := c.valid
    simp only [UInt32.isValidChar, Nat.isValidChar] at valid
    show c.val.toNat < _
    omega
  simp only [all, lastPoint, contains_mk, inRanges, List.any_cons, List.any_nil, Bool.or_false,
    Bool.and_eq_true, decide_eq_true_eq]
  omega

theorem inRanges_cons (r : Nat × Nat) (rs : List (Nat × Nat)) (c : Char) :
    inRanges (r :: rs) c = (inRanges [r] c || inRanges rs c) := by
  simp [inRanges]

theorem inRanges_place (r : Nat × Nat) (rs : List (Nat × Nat)) (c : Char) :
    inRanges (place r rs) c = (inRanges [r] c || inRanges rs c) := by
  induction rs generalizing r with
  | nil => simp [place]
  | cons t ts ih =>
    unfold place
    split
    · rw [inRanges_cons]
    · split
      · rw [inRanges_cons, ih, inRanges_cons t ts]
        cases inRanges [t] c <;> cases inRanges [r] c <;> simp
      · rw [ih, inRanges_cons t ts, ← Bool.or_assoc]
        congr 1
        rw [Bool.eq_iff_iff]
        simp only [inRanges, List.any_cons, List.any_nil, Bool.or_false, Bool.and_eq_true,
          decide_eq_true_eq, Bool.or_eq_true]
        omega

@[simp] theorem contains_ofRanges (rs : List (Nat × Nat)) (c : Char) :
    (ofRanges rs).contains c = inRanges rs c := by
  induction rs with
  | nil => rfl
  | cons r rs ih =>
    rw [inRanges_cons, ← ih]
    exact inRanges_place r _ c

@[simp] theorem contains_union (a b : CharSet) (c : Char) :
    (union a b).contains c = (a.contains c || b.contains c) := by
  rw [union, contains_ofRanges, Bool.eq_iff_iff]
  simp only [inRanges_iff, List.mem_merge, contains, Bool.or_eq_true]
  constructor
  · rintro ⟨r, h | h, hr⟩
    · exact .inl ⟨r, h, hr⟩
    · exact .inr ⟨r, h, hr⟩
  · rintro (⟨r, h, hr⟩ | ⟨r, h, hr⟩)
    · exact ⟨r, .inl h, hr⟩
    · exact ⟨r, .inr h, hr⟩

@[simp] theorem contains_unionAll (sets : List CharSet) (c : Char) :
    (unionAll sets).contains c = sets.any (·.contains c) := by
  suffices ∀ s : CharSet,
      (sets.foldl union s).contains c = (s.contains c || sets.any (·.contains c)) by
    simpa [unionAll] using this none
  induction sets with
  | nil => simp
  | cons t ts ih => intro s; simp [ih, Bool.or_assoc]

@[simp] theorem contains_common (a b : CharSet) (c : Char) :
    (common a b).contains c = (a.contains c && b.contains c) := by
  rw [Bool.eq_iff_iff]
  simp only [common, inRanges_iff, List.mem_flatMap, List.mem_filterMap, overlap?,
    Option.ite_none_right_eq_some, Option.some.injEq, contains, Bool.and_eq_true]
  constructor
  · rintro ⟨_, ⟨r, hr, s, hs, _, rfl⟩, h⟩
    exact ⟨⟨r, hr, by omega⟩, ⟨s, hs, by omega⟩⟩
  · rintro ⟨⟨r, hr, h⟩, ⟨s, hs, h'⟩⟩
    exact ⟨_, ⟨r, hr, s, hs, by omega, rfl⟩, by omega⟩

end CharSet

end RequestBinding
