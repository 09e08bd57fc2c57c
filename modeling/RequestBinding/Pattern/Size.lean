import RequestBinding.Pattern.Regex
import Std.Data.HashMap

/-!
How much memory the automata of an expression take.  An expression is turned into two automata over
bytes, one that reads texts forward and one that reads them backward; an expression whose automata
are too large is refused.
-/
namespace RequestBinding

abbrev ByteRange := Nat × Nat

def cutAfter (last : Nat) (r : Nat × Nat) : List (Nat × Nat) :=
  if r.1 ≤ last ∧ last < r.2 then [(r.1, last), (last + 1, r.2)] else [r]

/-- Cut a range of numbers so that each part lies in one block of the given length or is made of
whole blocks. -/
def cutAtBlocks (length : Nat) (r : Nat × Nat) : List (Nat × Nat) :=
  if r.1 / length = r.2 / length then [r]
  else
    let first := (r.1 + length - 1) / length * length
    let past := (r.2 + 1) / length * length
    (if r.1 < first then [(r.1, first - 1)] else [])
      ++ (if first < past then [(first, past - 1)] else [])
      ++ (if past ≤ r.2 then [(past, r.2)] else [])

/-- The characters of a range of code points that has no surrogates inside, cut where the number of
bytes changes. -/
def cutByLength (r : Nat × Nat) : List (Nat × Nat) :=
  ((cutAfter 0x7f r).flatMap (cutAfter 0x7ff)).flatMap (cutAfter 0xffff)

def byteSequences (r : Nat × Nat) : List (List ByteRange) :=
  let halves :=
    if r.1 < 0xe000 ∧ 0xd7ff < r.2 then [(r.1, 0xd7ff), (0xe000, r.2)] else [r]
  (halves.flatMap cutByLength).flatMap fun r =>
    let blocks :=
      if r.2 < 0x80 then [r]
      else [64, 4096, 262144].foldl (fun rs length => rs.flatMap (cutAtBlocks length)) [r]
    blocks.map fun b =>
      ((String.utf8EncodeChar (Char.ofNat b.1)).map UInt8.toNat).zip
        ((String.utf8EncodeChar (Char.ofNat b.2)).map UInt8.toNat)

namespace Automaton

/-- An automaton that is being built: its states, and the bytes that they hold beyond their own
size. -/
structure Extent where
  states : Nat
  extra : Nat

def Extent.bytes (e : Extent) : Nat := 32 * e.states + e.extra

def sizeLimit : Nat := 10 * 1024 * 1024

/-- Building; it ends when the automaton is too large. -/
abbrev Building := StateT Extent Option

def grow (states extra : Nat) : Building Unit := fun e =>
  let e := ⟨e.states + states, e.extra + extra⟩
  if sizeLimit < Extent.bytes e then none else some ((), e)

def addState (extra : Nat) : Building Nat := do
  let id := (← get).states
  grow 1 extra
  return id

def edge : Nat := 4

def rangeEdge : Nat := 8

/-- Whether an automaton that is a part of another ends in a branching state, which can be given
further edges. -/
abbrev EndsInBranching := Bool

def link (branching : EndsInBranching) : Building Unit := grow 0 (if branching then edge else 0)

inductive Direction where
  | forward
  | backward
  deriving DecidableEq, Repr

def mix (h : UInt64) (n : Nat) : UInt64 := (h ^^^ n.toUInt64) * 1099511628211

def hashOf (ns : List Nat) : UInt64 := ns.foldl mix 14695981039346656037

/-- States that were made before, to be used again.  There is one place for each remainder of the
hash; a newer state takes the place of an older one. -/
abbrev Memory := Std.HashMap UInt64 (List Nat × Nat)

def shared (places : UInt64) (key : List Nat) (make : Building Nat) :
    StateT Memory Building Nat := do
  let place := hashOf key % places
  match (← get)[place]? with
  | some (known, id) =>
    if known = key then return id
  | none => pure ()
  let id ← make
  modify (·.insert place (key, id))
  return id

def byFirst : List (List ByteRange) → List (ByteRange × List (List ByteRange))
  | [] => []
  | [] :: rest => byFirst rest
  | (r :: tail) :: rest =>
    match byFirst rest with
    | (q, tails) :: groups =>
      if q = r then (r, tail :: tails) :: groups else (r, [tail]) :: (q, tails) :: groups
    | [] => [(r, [tail])]

/-- A state from which the sequences lead to `target`; equal states are shared. -/
def prefixTree (target : Nat) : Nat → List (List ByteRange) → StateT Memory Building Nat
  | 0, _ => return target
  | fuel + 1, sequences => do
    match byFirst sequences with
    | [] => return target
    | groups =>
      let edges ← groups.mapM fun (r, tails) => do
        return [r.1, r.2, ← prefixTree target fuel tails]
      shared 10000 edges.flatten (addState (rangeEdge * edges.length))

/-- States that read the sequence backward to `target`; equal states are shared. -/
def suffixChain (target : Nat) : List ByteRange → StateT Memory Building Nat
  | [] => return target
  | r :: rs => do
    let next ← shared 1000 [target, r.1, r.2] (addState 0)
    suffixChain next rs

def addSet (d : Direction) (s : CharSet) : Building EndsInBranching := do
  match s.single? with
  | some c => grow (String.utf8EncodeChar c).length 0
  | none =>
    if s.isAscii then grow 2 (rangeEdge * s.ranges.length)
    else
      let sequences := s.ranges.flatMap byteSequences
      match d with
      | .forward =>
        let target ← addState 0
        discard ((prefixTree target 4 sequences).run {})
      | .backward =>
        let target := (← get).states + 1
        grow 2 0
        discard ((sequences.forM fun q => do
          discard (suffixChain target q)
          grow 0 edge).run {})
  return false

/-- Texts up to the next one that is empty; each empty one begins a new piece. -/
def untilEmpty : List (List UInt8) → List (List (List UInt8))
  | [] => [[]]
  | [] :: rest => [] :: untilEmpty rest
  | t :: rest =>
    match untilEmpty rest with
    | [] => [[t]]
    | piece :: pieces => (t :: piece) :: pieces

/-- Only the first of several empty texts at the start counts. -/
def dropDoubled : List (List UInt8) → List (List UInt8)
  | [] :: [] :: rest => dropDoubled ([] :: rest)
  | ts => ts

def tailsAfter (b : UInt8) (ts : List (List UInt8)) : List (List UInt8) :=
  ts.filterMap fun
    | c :: t => if c = b then some t else none
    | [] => none

def textTree : Nat → List (List UInt8) → Building Unit
  | 0, _ => return
  | fuel + 1, ts => do
    let pieces := untilEmpty (dropDoubled ts)
    for piece in pieces do
      let bytes := (piece.filterMap List.head?).eraseDups
      for b in bytes do
        let tails := tailsAfter b piece
        if !tails.all List.isEmpty then textTree fuel tails
      if !bytes.isEmpty then grow 1 (if bytes.length = 1 then 0 else rangeEdge * bytes.length)
    let full := pieces.filter (!·.isEmpty)
    grow 1 (edge * (full.length + pieces.length - 1))

def addTexts (d : Direction) (ts : List (List Char)) : Building EndsInBranching := do
  let bytes := ts.map fun t =>
    let octets := t.flatMap String.utf8EncodeChar
    match d with
    | .forward => octets
    | .backward => octets.reverse
  grow 1 0
  textTree (bytes.foldl (fun n t => max n t.length) 0 + 1) bytes
  return false

def copies (part : Building EndsInBranching) : Nat → Building EndsInBranching
  | 0 => part
  | n + 1 => do
    link (← part)
    copies part n

def exactly (part : Building EndsInBranching) : Nat → Building EndsInBranching
  | 0 => do
    grow 1 0
    return false
  | n + 1 => copies part n

def nested (part : Building EndsInBranching) :
    Nat → EndsInBranching → Building EndsInBranching
  | 0, last => return last
  | n + 1, last => do
    grow 1 (2 * edge)
    let next ← part
    link last
    nested part n next

def addRepetition (consumes : Bool) (part : Building EndsInBranching) :
    Nat → Option Nat → Building EndsInBranching
  | 0, some 1 => do
    grow 1 (2 * edge)
    link (← part)
    grow 1 0
    return false
  | 0, none => do
    if consumes then
      grow 1 edge
      link (← part)
      return true
    else
      link (← part)
      grow 3 (4 * edge)
      return false
  | 1, none => do
    link (← part)
    grow 1 edge
    return true
  | n + 2, none => do
    link (← copies part n)
    link (← part)
    grow 1 edge
    return true
  | least, some most => do
    let first ← exactly part least
    if least = most then return first
    else
      grow 1 0
      link (← nested part (most - least) first)
      return false

/-- Take a part into alternatives, as the branch with the given number. -/
def asBranch (number : Option Nat) (part : Building EndsInBranching) :
    Building EndsInBranching := do
  match number with
  | none => part
  | some n =>
    link (← part)
    grow (if n = 1 then 2 else 0) edge
    return false

/-- An expression; `number` says which branch of alternatives it is, if it is one. -/
def add (d : Direction) : Regex → Option Nat → Building EndsInBranching
  | .empty, number => asBranch number do
    grow 1 0
    return false
  | .set s, number => asBranch number (addSet d s)
  | .assert _, number => asBranch number do
    grow 1 0
    return false
  | .seq a b, number => asBranch number do
    match d with
    | .forward =>
      link (← add d a none)
      add d b none
    | .backward =>
      link (← add d b none)
      add d a none
  | .alt a b, number => do
    match number, (Regex.alt a b).branches.mapM Regex.literal? with
    | none, some texts => addTexts d texts
    | _, _ =>
      let n := number.getD 0
      discard (asBranch (some n) (add d a none))
      add d b (some (n + 1))
  | .rep a least most, number => asBranch number do
    addRepetition (a.shortest?.any (0 < ·)) (add d a none) least most
  | .group _ a, number => asBranch number do
    match d with
    | .forward =>
      grow 1 0
      link (← add d a none)
      grow 1 0
      return false
    | .backward => add d a none

end Automaton

namespace Regex
open Automaton

def startsAtStart : Regex → Bool
  | .assert .textStart => true
  | .seq a b => a.startsAtStart || (a.readsNothing && b.startsAtStart)
  | .alt a b => a.startsAtStart && b.startsAtStart
  | .rep a least _ => 0 < least && a.startsAtStart
  | .group _ a => a.startsAtStart
  | _ => false

def endsAtEnd : Regex → Bool
  | .assert .textEnd => true
  | .seq a b => b.endsAtEnd || (b.readsNothing && a.endsAtEnd)
  | .alt a b => a.endsAtEnd && b.endsAtEnd
  | .rep a least _ => 0 < least && a.endsAtEnd
  | .group _ a => a.endsAtEnd
  | _ => false

def automaton (d : Direction) (r : Regex) : Building Unit := do
  let anchored := match d with
    | .forward => r.startsAtStart
    | .backward => r.endsAtEnd
  if anchored then grow 1 0 else grow 3 (rangeEdge + 2 * edge)
  link (← add d (match d with
    | .forward => .group 0 r
    | .backward => r) none)
  grow 1 0

/-- Alternatives that are so many given texts are searched for without an automaton. -/
def isTextList (r : Regex) : Bool :=
  3000 ≤ r.branches.length && r.branches.all (·.literal?.isSome)

def fits (r : Regex) : Bool :=
  r.isTextList
    || ((r.automaton .forward).run ⟨0, 0⟩).isSome && ((r.automaton .backward).run ⟨0, 0⟩).isSome

end Regex

end RequestBinding
