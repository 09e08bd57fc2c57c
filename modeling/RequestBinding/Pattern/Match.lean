import RequestBinding.Pattern.Regex
import RequestBinding.Text.Word

/-!
Matching.  An expression leads from places in a text to the places where a match can end; a text
matches when its places lead anywhere.
-/
namespace RequestBinding

def Alphabet.isWord : Alphabet → Char → Bool
  | .unicode, c => Text.isWord c
  | .ascii, c => c.isAlphanum || c == '_'

/-- A place in a text: how many characters are before it, the one just before it, and the rest. -/
structure Place where
  index : Nat
  before : Option Char
  after : List Char

namespace Place

def start (cs : List Char) : Place := ⟨0, none, cs⟩

/-- The place after the next character, which the set must hold. -/
def step? (p : Place) (s : CharSet) : Option Place :=
  match p.after with
  | [] => none
  | c :: r => if s.contains c then some ⟨p.index + 1, some c, r⟩ else none

def upward (index : Nat) (before : Option Char) : List Char → List Place
  | [] => [⟨index, before, []⟩]
  | c :: r => ⟨index, before, c :: r⟩ :: upward (index + 1) (some c) r

def next? (p : Place) : Option Char := p.after.head?

def wordBefore (words : Alphabet) (p : Place) : Bool := p.before.any words.isWord

def wordAfter (words : Alphabet) (p : Place) : Bool := p.next?.any words.isWord

/-- The place stands inside a line end of two characters. -/
def isInReturn (p : Place) : Bool := p.before == some '\r' && p.next? == some '\n'

end Place

def Assertion.holds (a : Assertion) (p : Place) : Bool :=
  match a with
  | .textStart => p.before.isNone
  | .textEnd => p.after.isEmpty
  | .lineStart => p.before.isNone || p.before == some '\n'
  | .lineEnd => p.after.isEmpty || p.next? == some '\n'
  | .lineStartReturn =>
    p.before.isNone || p.before == some '\n' || (p.before == some '\r' && !p.isInReturn)
  | .lineEndReturn =>
    p.after.isEmpty || p.next? == some '\r' || (p.next? == some '\n' && !p.isInReturn)
  | .wordBoundary words => p.wordBefore words != p.wordAfter words
  | .noWordBoundary words => p.wordBefore words == p.wordAfter words
  | .wordStart words => !p.wordBefore words && p.wordAfter words
  | .wordEnd words => p.wordBefore words && !p.wordAfter words
  | .wordStartHalf words => !p.wordBefore words
  | .wordEndHalf words => !p.wordAfter words

def fresh (seen new : List Place) : List Place :=
  new.filter fun p => !seen.any (·.index == p.index)

def exactly (f : List Place → List Place) : Nat → List Place → List Place
  | 0, ps => ps
  | n + 1, ps => if ps.isEmpty then [] else exactly f n (f ps)

/-- At most `n` steps: `seen` are the places reached so far, `frontier` those reached last. -/
def within (f : List Place → List Place) : Nat → List Place → List Place → List Place
  | 0, seen, _ => seen
  | n + 1, seen, frontier =>
    match fresh seen (f frontier) with
    | [] => seen
    | p :: r => within f n (seen ++ p :: r) (p :: r)

/-- The number of characters after the earliest of the places. -/
def longest (ps : List Place) : Nat := ps.foldr (fun p n => max p.after.length n) 0

namespace Regex

/-- The places where the matches that start at one of `ps` can end. -/
def ends : Regex → List Place → List Place
  | .empty, ps => ps
  | .set s, ps => ps.filterMap (·.step? s)
  | .assert a, ps => ps.filter a.holds
  | .seq a b, ps => b.ends (a.ends ps)
  | .alt a b, ps =>
    let left := a.ends ps
    left ++ fresh left (b.ends ps)
  | .rep a least most, ps =>
    let first := exactly a.ends least ps
    within a.ends (match most with
      | none => longest first + 1
      | some n => n - least) first first
  | .group _ a, ps => a.ends ps

def search (r : Regex) (text : String) : Bool :=
  !(r.ends (Place.upward 0 none text.toList)).isEmpty

end Regex

end RequestBinding
