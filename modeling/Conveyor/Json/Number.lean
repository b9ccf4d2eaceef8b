import Conveyor.Json.Fault

/-!
# Numbers

The syntax of numbers, and the classes that they fall into: integers of 64 bits, and everything
else, which counts as floating point. A number beyond the range of floating point is refused.
-/

namespace Conveyor.Json

/-- The parts of a written number. -/
structure Number where
  negative : Bool
  whole : List Char
  /-- The digits after the point, if there is one. -/
  fraction : Option (List Char)
  /-- The sign and the digits of the exponent, if there is one. -/
  exponent : Option (Bool × List Char)
deriving DecidableEq, Inhabited

namespace Number

/-! ### Syntax -/

def digits (s : List Char) : List Char × List Char := s.span Char.isDigit

/-- The fault at a place where a digit is missing; `atEnd` is the fault when the document ends. -/
def noDigit (atEnd : Fault) : List Char → Fault
  | []     => atEnd
  | _ :: _ => .invalidNumber

/-- Scan the digits before the point: a single zero, or digits that do not begin with one. -/
def scanWhole (atEnd : Fault) (s : List Char) : Except Fault (List Char × List Char) :=
  match digits s with
  | ([], rest)         => .error (noDigit atEnd rest)
  | ('0' :: _ :: _, _) => .error .invalidNumber
  | (whole, rest)      => .ok (whole, rest)

def scanFraction (atEnd : Fault) : List Char → Except Fault (Option (List Char) × List Char)
  | '.' :: s =>
    match digits s with
    | ([], rest)       => .error (noDigit atEnd rest)
    | (fraction, rest) => .ok (some fraction, rest)
  | s => .ok (none, s)

/-- Scan the exponent, if there is one. The flag says that it is negative. -/
def scanExponent (atEnd : Fault) (s : List Char) :
    Except Fault (Option (Bool × List Char) × List Char) :=
  let unsigned (negative : Bool) (s : List Char) :
      Except Fault (Option (Bool × List Char) × List Char) :=
    match digits s with
    | ([], rest)     => .error (noDigit atEnd rest)
    | (digits, rest) => .ok (some (negative, digits), rest)
  let signed : List Char → Except Fault (Option (Bool × List Char) × List Char)
    | '+' :: s => unsigned false s
    | '-' :: s => unsigned true s
    | s        => unsigned false s
  match s with
  | 'e' :: s => signed s
  | 'E' :: s => signed s
  | s        => .ok (none, s)

def scanUnsigned (atEnd : Fault) (negative : Bool) (s : List Char) :
    Except Fault (Number × List Char) := do
  let (whole, s) ← scanWhole atEnd s
  let (fraction, s) ← scanFraction atEnd s
  let (exponent, s) ← scanExponent atEnd s
  return ({ negative, whole, fraction, exponent }, s)

def scan (atEnd : Fault) : List Char → Except Fault (Number × List Char)
  | '-' :: s => scanUnsigned atEnd true s
  | s        => scanUnsigned atEnd false s

/-! ### Classes -/

def largest : Nat := UInt64.size - 1

/-- The largest magnitude of a negative integer of 64 bits. -/
def largestNegative : Nat := UInt64.size / 2

def value (digits : List Char) : Nat := Nat.ofDigitChars 10 digits 0

/-- Take digits into a significand as long as it stays within 64 bits. Gives the significand and the
digits that were left out. -/
def significand : (start : Nat) → List Char → Nat × List Char
  | n, []      => (n, [])
  | n, c :: cs =>
    let next := n * 10 + (c.toNat - '0'.toNat)
    if next ≤ largest then significand next cs else (n, c :: cs)

/-- The largest exponent for which there is a power of ten in floating point. -/
def largestPower : Nat := 308

def largestExponent : Nat := 2147483647

/-- Whether `n * 10 ^ e` is beyond the range of floating point, where the product is rounded. -/
def exceeds (n : Nat) (e : Int) : Bool :=
  if n = 0 ∨ e < 0 then false
  else if largestPower < e.toNat then true
  else (n.toUInt64.toFloat * Float.ofScientific 1 false e.toNat).isInf

/-- Whether a number is beyond the range of floating point. -/
def outOfRange (n : Number) : Bool :=
  let (whole, beyond) := significand 0 n.whole
  let fraction := n.fraction.getD []
  let (all, unused) := significand whole fraction
  let shift : Int := (beyond.length : Int) - ((fraction.length - unused.length : Nat) : Int)
  match n.exponent with
  | none => exceeds all shift
  | some (negative, digits) =>
    let e := value digits
    if largestExponent < e then all ≠ 0 && !negative
    else exceeds all (if negative then shift - e else shift + e)

def classify (n : Number) : Except Fault Found :=
  let magnitude := value n.whole
  if n.fraction = none ∧ n.exponent = none ∧ magnitude ≤ largest ∧
      (n.negative → 0 < magnitude ∧ magnitude ≤ largestNegative) then
    .ok (.integer (if n.negative then -(magnitude : Int) else magnitude))
  else if n.outOfRange then .error .numberOutOfRange
  else .ok .fraction

end Number

end Conveyor.Json
