import CommandLine.Number.Integer
import CommandLine.Number.Binary

/-! Reading a decimal number at a binary format. -/

namespace CommandLine

inductive FloatError
  | empty
  | invalid
  deriving DecidableEq, Repr

namespace FloatError

def message : FloatError → String
  | empty => "cannot parse float from empty string"
  | invalid => "invalid float literal"

end FloatError

structure Decimal where
  digits : Nat
  exponent : Int
  deriving DecidableEq, Repr

namespace Decimal

def digitsValue (cs : List Char) : Nat :=
  cs.foldl (fun n c => 10 * n + (c.toNat - '0'.toNat)) 0

def isDigit (c : Char) : Bool :=
  (decimalDigit? c).isSome

def spanDigits (cs : List Char) : List Char × List Char :=
  (cs.takeWhile isDigit, cs.dropWhile isDigit)

def readExponentDigits (cs : List Char) : Option Nat :=
  if cs.isEmpty ∨ !cs.all isDigit then none else some (digitsValue cs)

def readExponent : List Char → Option Int
  | [] => some 0
  | c :: cs =>
    if c = 'e' ∨ c = 'E' then
      match cs with
      | '-' :: ds => (readExponentDigits ds).map fun n => -(n : Int)
      | '+' :: ds => (readExponentDigits ds).map fun n => (n : Int)
      | ds => (readExponentDigits ds).map fun n => (n : Int)
    else
      none

def spanFraction : List Char → List Char × List Char
  | '.' :: cs => spanDigits cs
  | cs => ([], cs)

def read (cs : List Char) : Option Decimal :=
  let (whole, afterWhole) := spanDigits cs
  let (fraction, rest) := spanFraction afterWhole
  if whole.isEmpty ∧ fraction.isEmpty then
    none
  else
    (readExponent rest).map fun e =>
      { digits := digitsValue (whole ++ fraction), exponent := e - fraction.length }

end Decimal

namespace FloatWidth

/-- The value nearest to a decimal number. A number with an exponent far outside the format is decided by its size,
before any power of ten is taken: a positive number of exponent above 400 is beyond the largest value, and one below
`10 ^ (-400)` is nearer to zero than to the smallest. -/
def roundDecimal (w : FloatWidth) (negative : Bool) (d : Decimal) : FloatValue :=
  if d.digits = 0 then
    .finite negative 0 w.leastExponent
  else if 400 < d.exponent then
    .infinite negative
  else if d.exponent < -(d.digits.log2 + 400) then
    .finite negative 0 w.leastExponent
  else
    w.round negative (d.digits * Nat.pow 10 d.exponent.toNat) (Nat.pow 10 (-d.exponent).toNat)

def lowerAscii (cs : List Char) : List Char :=
  cs.map Char.toLower

def readMagnitude (w : FloatWidth) (negative : Bool) (cs : List Char) :
    Except FloatError FloatValue :=
  if lowerAscii cs = "inf".toList ∨ lowerAscii cs = "infinity".toList then
    .ok (.infinite negative)
  else if lowerAscii cs = "nan".toList then
    .ok (.nan negative)
  else
    match Decimal.read cs with
    | some d => .ok (w.roundDecimal negative d)
    | none => .error .invalid

def readChars (w : FloatWidth) : List Char → Except FloatError FloatValue
  | [] => .error .empty
  | '+' :: cs => w.readMagnitude false cs
  | '-' :: cs => w.readMagnitude true cs
  | c :: cs => w.readMagnitude false (c :: cs)

def read (w : FloatWidth) (s : String) : Except FloatError FloatValue :=
  w.readChars s.toList

end FloatWidth

end CommandLine
