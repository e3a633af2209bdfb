import CommandLine.Number.IntegerType

/-! Reading a decimal integer at a fixed type. -/

namespace CommandLine

inductive IntegerError
  | empty
  | invalidDigit
  | positiveOverflow
  | negativeOverflow
  deriving DecidableEq, Repr

namespace IntegerError

def message : IntegerError → String
  | empty => "cannot parse integer from empty string"
  | invalidDigit => "invalid digit found in string"
  | positiveOverflow => "number too large to fit in target type"
  | negativeOverflow => "number too small to fit in target type"

end IntegerError

def decimalDigit? (c : Char) : Option Nat :=
  if '0' ≤ c ∧ c ≤ '9' then some (c.toNat - '0'.toNat) else none

namespace IntegerType

def readDigits (t : IntegerType) (negative : Bool) : Int → List Char → Except IntegerError Int
  | n, [] => .ok n
  | n, c :: cs =>
    match decimalDigit? c with
    | none => .error .invalidDigit
    | some d =>
      let next := if negative then 10 * n - d else 10 * n + d
      if t.Holds next then
        t.readDigits negative next cs
      else
        .error (if negative then .negativeOverflow else .positiveOverflow)

def readUnsigned (t : IntegerType) (negative : Bool) : List Char → Except IntegerError Int
  | [] => .error .invalidDigit
  | c :: cs => t.readDigits negative 0 (c :: cs)

def readChars (t : IntegerType) : List Char → Except IntegerError Int
  | [] => .error .empty
  | '+' :: cs => t.readUnsigned false cs
  | '-' :: cs => if t.isSigned then t.readUnsigned true cs else .error .invalidDigit
  | c :: cs => t.readDigits false 0 (c :: cs)

def read (t : IntegerType) (s : String) : Except IntegerError Int :=
  t.readChars s.toList

end IntegerType

end CommandLine
