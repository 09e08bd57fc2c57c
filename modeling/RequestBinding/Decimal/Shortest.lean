/-!
The shortest decimal that reads back as a given binary number.  A finite number is `m · 2 ^ q`; the
reals that round to it form an interval around it, and the widest decimal grid with a point in that
interval gives the digits.  All arithmetic is exact.
-/
namespace RequestBinding.Decimal

/-- The positive number `coefficient · 10 ^ exponent`. -/
structure Digits where
  coefficient : Nat
  exponent : Int
  deriving DecidableEq, Repr

/-- Which of two equally near decimals is written. -/
inductive Tie where
  | even
  | up
  deriving DecidableEq, Repr

inductive Parts where
  | nan
  | infinite (negative : Bool)
  /-- The number `± m · 2 ^ q`; `narrow` when the number below is nearer than the number above. -/
  | finite (negative : Bool) (m : Nat) (q : Int) (narrow : Bool)
  deriving DecidableEq, Repr

def partsOfBits (bits : Nat) : Parts :=
  let negative := decide (Nat.pow 2 63 ≤ bits)
  let e : Nat := bits / Nat.pow 2 52 % Nat.pow 2 11
  let f : Nat := bits % Nat.pow 2 52
  if e = 2047 then if f = 0 then .infinite negative else .nan
  else if e = 0 then .finite negative f (-1074) false
  else .finite negative (Nat.pow 2 52 + f) ((e : Int) - 1075) (f == 0 && 1 < e)

def parts (x : Float) : Parts := partsOfBits x.toBits.toNat

/-- The number `a · 2 ^ q / 10 ^ e` as a quotient of two naturals. -/
def scaled (a : Nat) (q e : Int) : Nat × Nat :=
  (a * Nat.pow 2 q.toNat * Nat.pow 10 (-e).toNat, Nat.pow 2 (-q).toNat * Nat.pow 10 e.toNat)

/-- The point of the grid `10 ^ e` that lies in the interval around `m · 2 ^ q`, if there is one: of
the two neighbours of the number the one inside, of two inside the nearer. -/
def gridPoint? (tie : Tie) (m : Nat) (q : Int) (narrow : Bool) (e : Int) : Option Nat :=
  let (value, unit) := scaled (4 * m) (q - 2) e
  let low := (scaled (4 * m - if narrow then 1 else 2) (q - 2) e).1
  let high := (scaled (4 * m + 2) (q - 2) e).1
  let closed := m % 2 == 0
  let inside (d : Nat) : Bool :=
    if closed then low ≤ d * unit && d * unit ≤ high else low < d * unit && d * unit < high
  let below := value / unit
  let rest := value % unit
  if inside below && inside (below + 1) then
    if 2 * rest < unit then some below
    else if unit < 2 * rest then some (below + 1)
    else match tie with
      | .up => some (below + 1)
      | .even => some (if below % 2 = 0 then below else below + 1)
  else if inside below then some below
  else if inside (below + 1) then some (below + 1)
  else none

/-- Try the grids `10 ^ e`, `10 ^ (e - 1)`, … until one has a point. -/
def searchGrids (tie : Tie) (m : Nat) (q : Int) (narrow : Bool) : Nat → Int → Digits
  | 0, e => ⟨let (value, unit) := scaled m q e; value / unit, e⟩
  | fuel + 1, e =>
    match gridPoint? tie m q narrow e with
    | some d => ⟨d, e⟩
    | none => searchGrids tie m q narrow fuel (e - 1)

/-- The fewest digits that read back as `m · 2 ^ q`, for `m` above zero.  A double needs at most
seventeen, and the first grid tried is at most two places too wide. -/
def shortest (tie : Tie) (m : Nat) (q : Int) (narrow : Bool) : Digits :=
  searchGrids tie m q narrow 22 ((m.log2 + q) * 30103 / 100000 + 2)

end RequestBinding.Decimal
