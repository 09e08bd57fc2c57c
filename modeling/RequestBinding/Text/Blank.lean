import RequestBinding.Text.Ranges

/-!
Blank characters and trimming.  Text is trimmed of every blank of Unicode; payload bytes are only
tested for the five ASCII ones.
-/
namespace RequestBinding.Text

/-- White space in the sense of Unicode. -/
def blankRanges : List (Nat × Nat) :=
  [(0x9, 0xd), (0x20, 0x20), (0x85, 0x85), (0xa0, 0xa0), (0x1680, 0x1680), (0x2000, 0x200a),
    (0x2028, 0x2029), (0x202f, 0x202f), (0x205f, 0x205f), (0x3000, 0x3000)]

def isBlank (c : Char) : Bool := inRanges blankRanges c

/-- Tab, line feed, form feed, carriage return and space. -/
def isBlankByte (b : UInt8) : Bool :=
  b == 9 || b == 10 || b == 12 || b == 13 || b == 32

def trimWhere (p : Char → Bool) (cs : List Char) : List Char :=
  ((cs.dropWhile p).reverse.dropWhile p).reverse

def trim (s : String) : String := String.ofList (trimWhere isBlank s.toList)

theorem trimWhere_eq_self {p : Char → Bool} {cs : List Char}
    (head : ∀ c ∈ cs.head?, p c = false) (last : ∀ c ∈ cs.getLast?, p c = false) :
    trimWhere p cs = cs := by
  have drop : ∀ l : List Char, (∀ c ∈ l.head?, p c = false) → l.dropWhile p = l := by
    intro l hl
    cases l with
    | nil => rfl
    | cons c r => simp [List.dropWhile, hl c (by simp)]
  unfold trimWhere
  rw [drop cs head, drop cs.reverse (by simpa using last), List.reverse_reverse]

end RequestBinding.Text
