/-! How alike two names are: the share of their letters that match, with a bonus for a common beginning. -/

namespace CommandLine.Similarity

/-- Takes the first free letter equal to `c` among those of an index from `low` up to but not including `high`, the
first letter having index `j`. -/
def takeMatch (c : Char) (low high : Nat) : Nat → List (Char × Bool) → Option (List (Char × Bool))
  | _, [] => none
  | j, (d, taken) :: rest =>
    if low ≤ j && j < high && !taken && c = d then
      some ((d, true) :: rest)
    else
      (takeMatch c low high (j + 1) rest).map ((d, taken) :: ·)

def matchFrom (range : Nat) : Nat → List Char → List (Char × Bool) →
    List Char × List (Char × Bool)
  | _, [], other => ([], other)
  | i, c :: cs, other =>
    match takeMatch c (i - range) (i + range + 1) 0 other with
    | some other' =>
      let (found, last) := matchFrom range (i + 1) cs other'
      (c :: found, last)
    | none => matchFrom range (i + 1) cs other

def matchingShare (a b : List Char) : Float :=
  if a.isEmpty && b.isEmpty then
    1
  else
    let range := max a.length b.length / 2 - 1
    let (found, other) := matchFrom range 0 a (b.map (·, false))
    let met := (other.filter (·.2)).map (·.1)
    let count := found.length
    if count = 0 then
      0
    else
      let swapped := ((found.zip met).countP fun (c, d) => c ≠ d) / 2
      (count.toFloat / a.length.toFloat + count.toFloat / b.length.toFloat +
        (count - swapped).toFloat / count.toFloat) / 3

def commonStart (a b : List Char) : Nat :=
  (((a.take 4).zip b).takeWhile fun (c, d) => c = d).length

def likeness (a b : List Char) : Float :=
  let s := matchingShare a b
  if s > 0.7 then s + 0.1 * (commonStart a b).toFloat * (1 - s) else s

def closest? (name : String) (candidates : List String) : Option String :=
  let best := candidates.foldl (fun best c =>
    let s := likeness name.toList c.toList
    match best with
    | some (t, _) => if s > 0.8 && t < s then some (s, c) else best
    | none => if s > 0.8 then some (s, c) else none) (none : Option (Float × String))
  best.map (·.2)

end CommandLine.Similarity
