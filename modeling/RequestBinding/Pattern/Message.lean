import RequestBinding.Pattern.Fault

/-!
Messages for faulty patterns.  The pattern is shown with marks under the part that is at fault; a
pattern of several lines is shown with line numbers, and a part that runs over several lines is
described in words.
-/
namespace RequestBinding.Pattern

/-- A line number and a column, both counted from one. -/
structure LinePlace where
  line : Nat
  column : Nat
  deriving DecidableEq, Repr

def LinePlace.after (cs : List Char) : LinePlace :=
  cs.foldl (fun p c => if c = '\n' then ⟨p.line + 1, 1⟩ else ⟨p.line, p.column + 1⟩) ⟨1, 1⟩

structure Extent where
  first : LinePlace
  past : LinePlace

def Span.extent (pattern : List Char) (s : Span) : Extent :=
  ⟨.after (pattern.take s.start), .after (pattern.take s.stop)⟩

def Extent.isInLine (e : Extent) : Bool := e.first.line == e.past.line

def dropReturn (line : List Char) : List Char :=
  if line.getLast? = some '\r' then line.dropLast else line

def linesFrom (line : List Char) : List Char → List (List Char)
  | [] => if line.isEmpty then [] else [line]
  | c :: r => if c = '\n' then dropReturn line :: linesFrom [] r else linesFrom (line ++ [c]) r

def linesOf (text : List Char) : List (List Char) := linesFrom [] text

def repeated (n : Nat) (c : Char) : String := String.ofList (List.replicate n c)

def marks (extents : List Extent) : String :=
  extents.foldl (fun (line : String) e =>
    line ++ repeated (e.first.column - 1 - line.length) ' '
      ++ repeated (max 1 (e.past.column - e.first.column)) '^') ""

/-- A line of the pattern after its head, with marks under the parts that it holds. -/
def annotated (extents : List Extent) (head : String) (number : Nat) (line : List Char) : String :=
  let here := extents.filter fun e => e.isInLine && e.first.line == number
  head ++ String.ofList line ++ "\n"
    ++ (if here.isEmpty then "" else repeated head.length ' ' ++ marks here ++ "\n")

/-- A line number before its line; all numbers are as wide as the last one. -/
def numberHead (last number : Nat) : String :=
  let digits := toString number
  repeated ((toString last).length - digits.length) ' ' ++ digits ++ ": "

/-- A part that runs over several lines, in words. -/
def Extent.describe (e : Extent) : String :=
  s!"on line {e.first.line} (column {e.first.column}) through line {e.past.line} "
    ++ s!"(column {e.past.column - 1})\n"

def divider : String := repeated 79 '~' ++ "\n"

def Flaw.message (flaw : Flaw) (pattern : String) : String :=
  let cs := pattern.toList
  let spans := flaw.related.toList ++ [flaw.span]
  let extents := spans.map (·.extent cs)
  let lines := linesOf cs
  let last := lines.length + if cs.getLast? = some '\n' then 1 else 0
  let shown := String.join (lines.zipIdx.map fun (line, i) =>
    annotated extents (if last ≤ 1 then "    " else numberHead last (i + 1)) (i + 1) line)
  "regex parse error:\n"
    ++ (if cs.contains '\n' then
        divider ++ shown ++ divider
          ++ String.join ((extents.filter (!·.isInLine)).map Extent.describe)
      else shown)
    ++ "error: " ++ flaw.fault.text

end RequestBinding.Pattern
