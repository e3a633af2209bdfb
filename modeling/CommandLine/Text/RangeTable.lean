/-! Sets of code points as sorted tables of ranges, searched by halving. -/

namespace CommandLine.Text

/-- Disjoint ranges of code points in ascending order, both ends included. -/
abbrev RangeTable := Array (Nat × Nat)

namespace RangeTable

def containsWithin (t : RangeTable) (n : Nat) (low high : Nat) : Bool :=
  if _h : low < high then
    let mid := (low + high) / 2
    match t[mid]? with
    | none => false
    | some (first, last) =>
      if n < first then t.containsWithin n low mid
      else if last < n then t.containsWithin n (mid + 1) high
      else true
  else
    false
termination_by high - low

def contains (t : RangeTable) (c : Char) : Bool :=
  t.containsWithin c.toNat 0 t.size

end RangeTable

/-- Ranges of code points taken in steps: first, last and step. -/
abbrev StridedTable := Array (Nat × Nat × Nat)

namespace StridedTable

def contains (t : StridedTable) (c : Char) : Bool :=
  t.any fun (first, last, stride) =>
    first ≤ c.toNat && c.toNat ≤ last && (c.toNat - first) % stride = 0

end StridedTable

end CommandLine.Text
