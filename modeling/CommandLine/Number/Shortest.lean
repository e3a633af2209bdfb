import CommandLine.Number.Decimal

/-! The shortest decimal that reads back. Grids of powers of ten are tried from coarse to fine, and the first one with
a point inside the rounding interval gives the digits. -/

namespace CommandLine

/-- The numbers that round to a value, counted in one unit. The ends belong to it when `closed`. -/
structure RoundingInterval where
  low : Nat
  value : Nat
  high : Nat
  closed : Bool
  deriving DecidableEq, Repr

namespace RoundingInterval

def Contains (i : RoundingInterval) (x : Nat) : Prop :=
  if i.closed then i.low ≤ x ∧ x ≤ i.high else i.low < x ∧ x < i.high

instance (i : RoundingInterval) (x : Nat) : Decidable (i.Contains x) := by
  unfold Contains
  split <;> infer_instance

def scale (i : RoundingInterval) (k : Nat) : RoundingInterval where
  low := i.low * k
  value := i.value * k
  high := i.high * k
  closed := i.closed

def gridPoint? (i : RoundingInterval) (unit : Nat) : Option Nat :=
  let d := i.value / unit
  if i.Contains (d * unit) then
    if i.Contains ((d + 1) * unit) ∧ (2 * d + 1) * unit ≤ 2 * i.value then some (d + 1) else some d
  else if i.Contains ((d + 1) * unit) then
    some (d + 1)
  else
    none

end RoundingInterval

namespace FloatWidth

/-- The interval of a positive finite value in units of a quarter of its last bit. The neighbour below a power of two
is half as far, unless the exponent is already the least. -/
def interval (w : FloatWidth) (m : Nat) (e : Int) : RoundingInterval where
  low := if m = Nat.pow 2 (w.precision - 1) ∧ w.leastExponent < e then 4 * m - 1 else 4 * m - 2
  value := 4 * m
  high := 4 * m + 2
  closed := m % 2 = 0

def gridScale (s t : Int) : Nat :=
  Nat.pow 2 s.toNat * Nat.pow 10 (-t).toNat

def gridUnit (s t : Int) : Nat :=
  Nat.pow 2 (-s).toNat * Nat.pow 10 t.toNat

def searchGrid (i : RoundingInterval) (s : Int) : Nat → Int → Decimal
  | 0, t => ⟨i.value * gridScale s t / gridUnit s t, t⟩
  | fuel + 1, t =>
    match (i.scale (gridScale s t)).gridPoint? (gridUnit s t) with
    | some d => ⟨d, t⟩
    | none => searchGrid i s fuel (t - 1)

def coarsestGrid (m : Nat) (e : Int) : Int :=
  let b := m.log2 + 1 + e
  if 0 ≤ b then b / 3 + 1 else b * 3 / 10 + 1

/-- A power of ten no larger than a quarter of the last bit: its grid has a point inside every interval. -/
def finestGrid (e : Int) : Int :=
  min 0 (e - 2)

def shortest (w : FloatWidth) (m : Nat) (e : Int) : Decimal :=
  if m = 0 then
    ⟨0, 0⟩
  else
    let t := coarsestGrid m e
    searchGrid (w.interval m e) (e - 2) (t - finestGrid e + 1).toNat t

end FloatWidth

namespace Decimal

def positional (d : Decimal) : String :=
  let ds := Nat.toDigits 10 d.digits
  if 0 ≤ d.exponent then
    String.ofList (if d.digits = 0 then ds else ds ++ List.replicate d.exponent.toNat '0')
  else
    let places := (-d.exponent).toNat
    let padded := List.replicate (places + 1 - ds.length) '0' ++ ds
    String.ofList
      (padded.take (padded.length - places) ++ '.' :: padded.drop (padded.length - places))

end Decimal

end CommandLine
