/-! The two binary floating-point formats, and the rounding of a quotient of natural numbers to them. -/

namespace CommandLine

inductive FloatWidth
  | single
  | double
  deriving DecidableEq, Repr

inductive FloatValue
  | nan (negative : Bool)
  | infinite (negative : Bool)
  | finite (negative : Bool) (significand : Nat) (exponent : Int)
  deriving DecidableEq, Repr

namespace FloatValue

def isFinite : FloatValue → Bool
  | finite .. => true
  | _ => false

end FloatValue

def roundQuotient (num den : Nat) : Nat :=
  let q := num / den
  let r := num % den
  if den < 2 * r ∨ (den = 2 * r ∧ q % 2 = 1) then q + 1 else q

namespace FloatWidth

def all : List FloatWidth := [single, double]

def name : FloatWidth → String
  | single => "f32"
  | double => "f64"

def ofName? (s : String) : Option FloatWidth :=
  all.find? fun w => w.name = s

def precision : FloatWidth → Nat
  | single => 24
  | double => 53

def exponentBits : FloatWidth → Nat
  | single => 8
  | double => 11

def bits (w : FloatWidth) : Nat :=
  w.exponentBits + w.precision

def leastExponent : FloatWidth → Int
  | single => -149
  | double => -1074

def greatestExponent : FloatWidth → Int
  | single => 104
  | double => 971

def zero (w : FloatWidth) : FloatValue :=
  .finite false 0 w.leastExponent

/-- The exponent at which the quotient has a full significand, or the least exponent. -/
def quantum (w : FloatWidth) (num den : Nat) : Int :=
  let k : Int := num.log2 - den.log2
  let full := if den * Nat.pow 2 k.toNat ≤ num * Nat.pow 2 (-k).toNat then k else k - 1
  max (full - (w.precision - 1)) w.leastExponent

def round (w : FloatWidth) (negative : Bool) (num den : Nat) : FloatValue :=
  if num = 0 then
    .finite negative 0 w.leastExponent
  else
    let e := w.quantum num den
    let m := roundQuotient (num * Nat.pow 2 (-e).toNat) (den * Nat.pow 2 e.toNat)
    let (m, e) := if m = Nat.pow 2 w.precision then (Nat.pow 2 (w.precision - 1), e + 1) else (m, e)
    if w.greatestExponent < e then .infinite negative else .finite negative m e

def signBit (w : FloatWidth) (negative : Bool) : Nat :=
  if negative then Nat.pow 2 (w.bits - 1) else 0

/-- The bit pattern of a value. A full significand adds its leading bit to the exponent field. -/
def pattern (w : FloatWidth) : FloatValue → Nat
  | .nan negative =>
    w.signBit negative + (Nat.pow 2 w.exponentBits - 1) * Nat.pow 2 (w.precision - 1) +
      Nat.pow 2 (w.precision - 2)
  | .infinite negative =>
    w.signBit negative + (Nat.pow 2 w.exponentBits - 1) * Nat.pow 2 (w.precision - 1)
  | .finite negative m e =>
    w.signBit negative + (e - w.leastExponent).toNat * Nat.pow 2 (w.precision - 1) + m

end FloatWidth

end CommandLine
