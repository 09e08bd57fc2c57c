import RequestBinding.Unicode.CharSet

/-!
Regular expressions: sets of characters, conditions on a place between two characters, and their
combinations.  Beside the plain combinations there are some that bring an expression into a simple
form, in which sequences and alternatives lean to the right and are as short as possible.
-/
namespace RequestBinding

inductive Alphabet where
  | unicode
  | ascii
  deriving DecidableEq, Repr

inductive Assertion where
  | textStart
  | textEnd
  | lineStart
  | lineEnd
  /-- The start of a line where a carriage return is part of a line end. -/
  | lineStartReturn
  | lineEndReturn
  | wordBoundary (words : Alphabet)
  | noWordBoundary (words : Alphabet)
  | wordStart (words : Alphabet)
  | wordEnd (words : Alphabet)
  /-- No character of a word stands before. -/
  | wordStartHalf (words : Alphabet)
  /-- No character of a word stands after. -/
  | wordEndHalf (words : Alphabet)
  deriving DecidableEq, Repr

inductive Regex where
  | empty
  | set (s : CharSet)
  | assert (a : Assertion)
  | seq (a b : Regex)
  | alt (a b : Regex)
  /-- From `least` to `most` times, without limit when `most` is absent. -/
  | rep (a : Regex) (least : Nat) (most : Option Nat)
  /-- The part of the expression that has the given number. -/
  | group (index : Nat) (a : Regex)
  deriving DecidableEq, Repr

namespace Regex

def char (c : Char) : Regex := .set (.single c)

def seqAll (rs : List Regex) : Regex :=
  match rs with
  | [] => .empty
  | [r] => r
  | r :: s => .seq r (seqAll s)

def altAll (rs : List Regex) : Regex :=
  match rs with
  | [] => .set .none
  | [r] => r
  | r :: s => .alt r (altAll s)

def times (r : Regex) (n : Nat) : Regex := .rep r n (some n)

def optional (r : Regex) : Regex := .rep r 0 (some 1)

def atLeast (r : Regex) (n : Nat) : Regex := .rep r n none

/-- It matches without reading a character, if it matches at all. -/
def readsNothing : Regex → Bool
  | .empty => true
  | .set _ => false
  | .assert _ => true
  | .seq a b => a.readsNothing && b.readsNothing
  | .alt a b => a.readsNothing && b.readsNothing
  | .rep a _ most => a.readsNothing && most.isSome
  | .group _ a => a.readsNothing

/-- The least number of characters that a match reads; none if some part can never match. -/
def shortest? : Regex → Option Nat
  | .empty => some 0
  | .set s => if s.isEmpty then none else some 1
  | .assert _ => some 0
  | .seq a b => a.shortest?.bind fun m => b.shortest?.map (m + ·)
  | .alt a b => a.shortest?.bind fun m => b.shortest?.map (min m)
  | .rep a least _ => a.shortest?.map (· * least)
  | .group _ a => a.shortest?

/-- The only character that it reads, if it reads exactly one that is given. -/
def char? : Regex → Option Char
  | .set s => s.single?
  | _ => none

def set? : Regex → Option CharSet
  | .set s => some s
  | _ => none

def literal? : Regex → Option (List Char)
  | .set s => s.single?.map ([·])
  | .seq a b => a.char?.bind fun c => b.literal?.map (c :: ·)
  | _ => none

def parts : Regex → List Regex
  | .empty => []
  | .seq a b => a :: b.parts
  | r => [r]

def branches : Regex → List Regex
  | .alt a b => a :: b.branches
  | r => [r]

def pieces : List Regex → List Regex
  | [] => []
  | r :: rs =>
    match pieces rs with
    | [] => [r]
    | p :: ps =>
      if r.char?.isSome ∧ p.literal?.isSome then .seq r p :: ps else r :: p :: ps

/-- One after another, where sequences in the sequence are dissolved. -/
def concat (rs : List Regex) : Regex := seqAll (rs.flatMap parts)

/-- The number of places where two lists agree from the start. -/
def agreement : List Regex → List Regex → Nat
  | a :: as, b :: bs => if a = b then agreement as bs + 1 else 0
  | _, _ => 0

/-- The pieces that all branches begin with, and the rest of each branch.  Every branch has at least
two pieces. -/
def commonStart? (branches : List Regex) : Option (List Regex × List (List Regex)) :=
  let all := branches.map fun b => pieces b.parts
  match all with
  | [] => none
  | first :: others =>
    let n := others.foldl (fun n ps => min n (agreement first ps)) first.length
    if n = 0 ∨ all.any (·.length < 2) then none
    else some (first.take n, all.map (·.drop n))

def size : Regex → Nat
  | .seq a b => a.size + b.size + 1
  | .alt a b => a.size + b.size + 1
  | .rep a _ _ => a.size + 1
  | .group _ a => a.size + 1
  | _ => 1

/-- One of several.  Characters and sets that are alternatives become one set, and what all branches
begin with is taken out. -/
def eitherWithin : Nat → List Regex → Regex
  | 0, rs => altAll rs
  | fuel + 1, rs =>
    match rs.flatMap branches with
    | [] => altAll []
    | [r] => r
    | rs =>
      match rs.mapM set? with
      | some sets =>
        -- characters stay apart from sets of several
        if rs.any (·.char?.isSome) ∧ !rs.all (·.char?.isSome) then altAll rs
        else .set (.unionAll sets)
      | none =>
        match commonStart? rs with
        | some (start, rest) => concat (start ++ [eitherWithin fuel (rest.map concat)])
        | none => altAll rs

def either (rs : List Regex) : Regex := eitherWithin (rs.foldl (fun n r => n + r.size) 1) rs

/-- A repetition in simple form: what reads nothing is not repeated. -/
def iterate (r : Regex) (least : Nat) (most : Option Nat) : Regex :=
  let (least, most) :=
    if r.readsNothing then (min least 1, some (min (most.getD 1) 1)) else (least, most)
  if most = some 0 ∧ least = 0 then .empty
  else if least = 1 ∧ most = some 1 then r
  else .rep r least most

end Regex

end RequestBinding
