import RequestBinding.Json.Basic
import RequestBinding.Position
import RequestBinding.Text.Word

/-!
Reading JSON from bytes.  A reader takes the bytes that are left and answers with what it read and
the bytes left after it, or stops with the cause and the bytes left at that point.  A payload may
nest 127 arrays and objects.
-/
namespace RequestBinding.Json

inductive Problem where
  | endInValue
  | endInList
  | endInObject
  | endInString
  | expectedValue
  | expectedIdent
  | expectedColon
  | expectedCommaOrBrace
  | expectedCommaOrBracket
  | keyNotString
  | trailingComma
  | trailingCharacters
  | invalidNumber
  | numberOutOfRange
  | invalidEscape
  | controlCharacter
  | invalidCodePoint
  | loneSurrogate
  | endOfHexEscape
  | tooDeep
  deriving DecidableEq, Repr

def Problem.text : Problem → String
  | .endInValue => "EOF while parsing a value"
  | .endInList => "EOF while parsing a list"
  | .endInObject => "EOF while parsing an object"
  | .endInString => "EOF while parsing a string"
  | .expectedValue => "expected value"
  | .expectedIdent => "expected ident"
  | .expectedColon => "expected \x60:\x60"
  | .expectedCommaOrBrace => "expected \x60,\x60 or \x60\x7d\x60"
  | .expectedCommaOrBracket => "expected \x60,\x60 or \x60]\x60"
  | .keyNotString => "key must be a string"
  | .trailingComma => "trailing comma"
  | .trailingCharacters => "trailing characters"
  | .invalidNumber => "invalid number"
  | .numberOutOfRange => "number out of range"
  | .invalidEscape => "invalid escape"
  | .controlCharacter => "control character (\\u0000-\\u001F) found while parsing a string"
  | .invalidCodePoint => "invalid unicode code point"
  | .loneSurrogate => "lone leading surrogate in hex escape"
  | .endOfHexEscape => "unexpected end of hex escape"
  | .tooDeep => "recursion limit exceeded"

/-- The cause of a stop and the bytes that were not read. -/
structure Stop where
  problem : Problem
  unread : Bytes

def stopAt {α : Type} (problem : Problem) (unread : Bytes) : Except Stop (α × Bytes) :=
  .error ⟨problem, unread⟩

/-- Stop at the first of the bytes, which counts as read. -/
def stopOn {α : Type} (problem : Problem) (bs : Bytes) : Except Stop (α × Bytes) :=
  .error ⟨problem, bs.drop 1⟩

def byte (c : Char) : UInt8 := c.toNat.toUInt8

/-- Space, line feed, tab and carriage return. -/
def isSpace (b : UInt8) : Bool := b == 32 || b == 10 || b == 9 || b == 13

def skipSpace (bs : Bytes) : Bytes := bs.dropWhile isSpace

/-- The rest of a name whose first letter has been read. -/
def ident (expected : List UInt8) (bs : Bytes) : Except Stop (Unit × Bytes) :=
  match expected, bs with
  | [], bs => .ok ((), bs)
  | _ :: _, [] => stopAt .endInValue []
  | e :: es, b :: r => if b = e then ident es r else stopAt .expectedIdent r

/-- Four hexadecimal digits; fewer than four bytes are the end of the string. -/
def hexEscape : Bytes → Except Stop (Nat × Bytes)
  | a :: b :: c :: d :: r =>
    match [a, b, c, d].mapM fun x => Text.hexDigit? (Char.ofNat x.toNat) with
    | some ds => .ok (ds.foldl (fun n x => n * 16 + x) 0, r)
    | none => stopAt .invalidEscape r
  | _ => stopAt .endInString []

def lowSurrogate (high : Nat) (bs : Bytes) : Except Stop (Char × Bytes) :=
  match bs with
  | [] => stopAt .endInString []
  | b :: r =>
    if b ≠ byte '\\' then stopAt .endOfHexEscape r
    else match r with
      | [] => stopAt .endInString []
      | u :: r =>
        if u ≠ byte 'u' then stopAt .endOfHexEscape r
        else do
          let (low, r) ← hexEscape r
          if low < 0xdc00 ∨ 0xdfff < low then stopAt .loneSurrogate r
          else .ok (Char.ofNat ((high - 0xd800) * 0x400 + (low - 0xdc00) + 0x10000), r)

def escape : Bytes → Except Stop (Char × Bytes)
  | [] => stopAt .endInString []
  | b :: r =>
    if b = byte '"' then .ok ('"', r)
    else if b = byte '\\' then .ok ('\\', r)
    else if b = byte '/' then .ok ('/', r)
    else if b = byte 'b' then .ok ('\x08', r)
    else if b = byte 'f' then .ok ('\x0c', r)
    else if b = byte 'n' then .ok ('\n', r)
    else if b = byte 'r' then .ok ('\r', r)
    else if b = byte 't' then .ok ('\t', r)
    else if b = byte 'u' then do
      let (n, r) ← hexEscape r
      if 0xdc00 ≤ n ∧ n ≤ 0xdfff then stopAt .loneSurrogate r
      else if 0xd800 ≤ n ∧ n ≤ 0xdbff then lowSurrogate n r
      else .ok (Char.ofNat n, r)
    else stopAt .invalidEscape r

def isPlain (b : UInt8) : Bool := b != byte '"' && b != byte '\\' && 32 ≤ b

/-- The string with this content, which `rest` follows.  Content that is no UTF-8 is reported when
the closing quote has been found: as many bytes before the quote as the content has from its first
broken character on, where an escape counts as the bytes it stands for. -/
def closeString (body content rest : Bytes) : Except Stop (String × Bytes) :=
  match Text.Utf8.decode? content with
  | some s => .ok (s, rest)
  | none =>
    let broken := content.length - Text.Utf8.validUpTo content
    stopAt .invalidCodePoint (body.drop (body.length - (rest.length + broken)))

/-- The rest of a string with this `body`; `content` is what has been read of it, last byte
first. -/
def stringRest (body : Bytes) : Nat → Bytes → Bytes → Except Stop (String × Bytes)
  | 0, _, _ => stopAt .endInString []
  | fuel + 1, content, bs =>
    let content := (bs.takeWhile isPlain).reverse ++ content
    match bs.dropWhile isPlain with
    | [] => stopAt .endInString []
    | b :: r =>
      if b = byte '"' then closeString body content.reverse r
      else if b = byte '\\' then do
        let (c, r) ← escape r
        stringRest body fuel ((String.utf8EncodeChar c).reverse ++ content) r
      else stopAt .controlCharacter r

def stringBody (bs : Bytes) : Except Stop (String × Bytes) := stringRest bs (bs.length + 1) [] bs

def digit? (b : UInt8) : Option Nat := Text.asciiDigit? (Char.ofNat b.toNat)

/-- The largest number that is collected exactly. -/
def maxSignificand : Nat := UInt64.size - 1

/-- Collect digits while the number fits; answers with the digits that were taken and the rest. -/
def significand (acc : Nat) : Bytes → Nat × Nat × Bytes
  | [] => (acc, 0, [])
  | b :: r =>
    match digit? b with
    | none => (acc, 0, b :: r)
    | some d =>
      if maxSignificand < acc * 10 + d then (acc, 0, b :: r)
      else
        let (n, taken, rest) := significand (acc * 10 + d) r
        (n, taken + 1, rest)

/-- The digits at the front: how many, and what follows. -/
def skipDigits (bs : Bytes) : Nat × Bytes :=
  ((bs.takeWhile fun b => (digit? b).isSome).length, bs.dropWhile fun b => (digit? b).isSome)

def powerOfTen (n : Nat) : Float := Float.ofScientific 1 false n

/-- Multiply or divide by powers of ten, at most 308 places at a time; none when the number grows
beyond every double. -/
def scale : Nat → Float → Int → Option Float
  | 0, x, _ => some x
  | fuel + 1, x, e =>
    if e.natAbs ≤ 308 then
      if 0 ≤ e then
        let y := x * powerOfTen e.natAbs
        if y.isInf then none else some y
      else some (x / powerOfTen e.natAbs)
    else if x == 0.0 then some x
    else if 0 ≤ e then none
    else scale fuel (x / powerOfTen 308) (e + 308)

def assemble (negative : Bool) (m : Nat) (e : Int) (rest : Bytes) : Except Stop (Number × Bytes) :=
  match scale (e.natAbs / 308 + 2) m.toUInt64.toFloat e with
  | some x => .ok (.double (if negative then -x else x), rest)
  | none => stopAt .numberOutOfRange rest

def maxExponent : Nat := UInt32.size / 2 - 1

/-- The digits of an exponent.  One that grows beyond `maxExponent` is zero or out of range. -/
def exponentDigits (negative : Bool) (m : Nat) (start : Int) (below : Bool) (acc : Nat) :
    Bytes → Except Stop (Number × Bytes)
  | [] => assemble negative m (if below then start - acc else start + acc) []
  | b :: r =>
    match digit? b with
    | none => assemble negative m (if below then start - acc else start + acc) (b :: r)
    | some d =>
      if maxExponent < acc * 10 + d then
        if m ≠ 0 ∧ !below then stopAt .numberOutOfRange r
        else .ok (.double (if negative then -0.0 else 0.0), (skipDigits r).2)
      else exponentDigits negative m start below (acc * 10 + d) r

def exponent (negative : Bool) (m : Nat) (start : Int) (bs : Bytes) :
    Except Stop (Number × Bytes) :=
  let (below, bs) := match bs with
    | b :: r => if b = byte '+' then (false, r) else if b = byte '-' then (true, r) else (false, bs)
    | [] => (false, [])
  match bs with
  | [] => stopAt .endInValue []
  | b :: r =>
    match digit? b with
    | none => stopAt .invalidNumber r
    | some d => exponentDigits negative m start below d r

def exponentOr (negative : Bool) (m : Nat) (e : Int) (bs : Bytes) : Except Stop (Number × Bytes) :=
  match bs with
  | b :: r =>
    if b = byte 'e' ∨ b = byte 'E' then exponent negative m e r else assemble negative m e bs
  | [] => assemble negative m e []

/-- A fraction whose point has been read.  Digits beyond the exact significand are dropped. -/
def fraction (negative : Bool) (m : Nat) (start : Int) (bs : Bytes) :
    Except Stop (Number × Bytes) :=
  let (n, taken, rest) := significand m bs
  match rest with
  | b :: _ =>
    if (digit? b).isSome then exponentOr negative n (start - taken) (skipDigits rest).2
    else if taken = 0 then stopOn .invalidNumber rest
    else exponentOr negative n (start - taken) rest
  | [] => if taken = 0 then stopAt .endInValue [] else assemble negative n (start - taken) []

def afterWhole (negative : Bool) (m : Nat) (places : Nat) (whole : Except Stop (Number × Bytes))
    (bs : Bytes) : Except Stop (Number × Bytes) :=
  match bs with
  | b :: r =>
    if b = byte '.' then fraction negative m places r
    else if b = byte 'e' ∨ b = byte 'E' then exponent negative m places r
    else whole
  | [] => whole

/-- A whole number; a negative one that is zero or too small for 64 bits becomes a double. -/
def wholeNumber (negative : Bool) (m : Nat) (rest : Bytes) : Except Stop (Number × Bytes) :=
  if !negative then .ok (.whole m, rest)
  else if m = 0 ∨ UInt64.size / 2 < m then .ok (.double (-m.toUInt64.toFloat), rest)
  else .ok (.whole (-m), rest)

def unsigned (negative : Bool) : Bytes → Except Stop (Number × Bytes)
  | [] => stopAt .endInValue []
  | b :: r =>
    match digit? b with
    | none => stopAt .invalidNumber r
    | some 0 =>
      match r with
      | c :: _ =>
        if (digit? c).isSome then stopOn .invalidNumber r
        else afterWhole negative 0 0 (wholeNumber negative 0 r) r
      | [] => wholeNumber negative 0 []
    | some d =>
      let (m, _, rest) := significand d r
      let (dropped, rest') := skipDigits rest
      if dropped = 0 then afterWhole negative m 0 (wholeNumber negative m rest) rest
      else afterWhole negative m dropped (assemble negative m dropped rest') rest'

def scalar (b : UInt8) (r : Bytes) : Except Stop (Json × Bytes) :=
  if b = byte 'n' then do
    let ((), r) ← ident ("ull".toList.map byte) r
    return (.null, r)
  else if b = byte 't' then do
    let ((), r) ← ident ("rue".toList.map byte) r
    return (.bool true, r)
  else if b = byte 'f' then do
    let ((), r) ← ident ("alse".toList.map byte) r
    return (.bool false, r)
  else if b = byte '"' then do
    let (s, r) ← stringBody r
    return (.string s, r)
  else if b = byte '-' then do
    let (n, r) ← unsigned true r
    return (.number n, r)
  else if (digit? b).isSome then do
    let (n, r) ← unsigned false (b :: r)
    return (.number n, r)
  else stopAt .expectedValue r

/-- The items of an array after its bracket; `first` until one has been read.  `acc` are those read
already, the last one first. -/
def items (value : Bytes → Except Stop (Json × Bytes)) :
    Nat → Bool → List Json → Bytes → Except Stop (List Json × Bytes)
  | 0, _, _, bs => stopAt .endInList bs
  | fuel + 1, first, acc, bs =>
    match skipSpace bs with
    | [] => stopAt .endInList []
    | b :: r =>
      if b = byte ']' then .ok (acc.reverse, r)
      else if first then do
        let (j, rest) ← value (b :: r)
        items value fuel false (j :: acc) rest
      else if b = byte ',' then
        match skipSpace r with
        | [] => stopAt .endInValue []
        | c :: r' =>
          if c = byte ']' then stopAt .trailingComma r'
          else do
            let (j, rest) ← value (c :: r')
            items value fuel false (j :: acc) rest
      else stopAt .expectedCommaOrBracket r

def member (value : Bytes → Except Stop (Json × Bytes)) (bs : Bytes) :
    Except Stop ((String × Json) × Bytes) := do
  let (key, rest) ← stringBody bs
  match skipSpace rest with
  | [] => stopAt .endInObject []
  | c :: r =>
    if c = byte ':' then do
      let (j, rest) ← value r
      return ((key, j), rest)
    else stopAt .expectedColon r

/-- The members of an object after its brace; `first` until one has been read. -/
def members (value : Bytes → Except Stop (Json × Bytes)) :
    Nat → Bool → List (String × Json) → Bytes → Except Stop (List (String × Json) × Bytes)
  | 0, _, _, bs => stopAt .endInObject bs
  | fuel + 1, first, acc, bs =>
    match skipSpace bs with
    | [] => stopAt .endInObject []
    | b :: r =>
      if b = byte '}' then .ok (acc, r)
      else if first then
        if b = byte '"' then do
          let ((k, j), rest) ← member value r
          members value fuel false (insertMember k j acc) rest
        else stopAt .keyNotString r
      else if b = byte ',' then
        match skipSpace r with
        | [] => stopAt .endInValue []
        | c :: r' =>
          if c = byte '"' then do
            let ((k, j), rest) ← member value r'
            members value fuel false (insertMember k j acc) rest
          else if c = byte '}' then stopAt .trailingComma r'
          else stopAt .keyNotString r'
      else stopAt .expectedCommaOrBrace r

/-- A value that may open `depth` more arrays and objects inside each other. -/
def value (depth : Nat) (bs : Bytes) : Except Stop (Json × Bytes) :=
  match skipSpace bs with
  | [] => stopAt .endInValue []
  | b :: r =>
    if b = byte '[' then
      match depth with
      | 0 => stopAt .tooDeep r
      | depth + 1 => do
        let (js, rest) ← items (value depth) (r.length + 1) true [] r
        return (.array js, rest)
    else if b = byte '{' then
      match depth with
      | 0 => stopAt .tooDeep r
      | depth + 1 => do
        let (ms, rest) ← members (value depth) (r.length + 1) true [] r
        return (.object ms, rest)
    else scalar b r

def maxDepth : Nat := 127

/-- Why a body is no JSON, and how many of its bytes had been read. -/
structure ParseError where
  problem : Problem
  consumed : Nat
  deriving DecidableEq, Repr

def parse (body : Bytes) : Except ParseError Json :=
  let document : Except Stop (Json × Bytes) := do
    let (j, rest) ← value maxDepth body
    match skipSpace rest with
    | [] => .ok (j, [])
    | _ :: r => stopAt .trailingCharacters r
  match document with
  | .ok (j, _) => .ok j
  | .error stop => .error ⟨stop.problem, body.length - stop.unread.length⟩

end RequestBinding.Json
