import CommandLine.Text.Case
import CommandLine.Text.Cluster

/-! Words within a name, and the names put together from them. -/

namespace CommandLine

abbrev Cluster := List Char

namespace Cluster

def isDigit (x : Cluster) : Bool :=
  x.all fun c => c.isDigit

def isUpper (x : Cluster) : Bool :=
  x.all Text.isUpperFixed && x.any fun c => !Text.isLowerFixed c

def isLower (x : Cluster) : Bool :=
  x.all Text.isLowerFixed && x.any fun c => !Text.isUpperFixed c

end Cluster

inductive Boundary
  | separator (c : Char)
  | lowerUpper | lowerDigit | upperDigit | digitLower | digitUpper
  -- before the last capital of a run, if a small letter follows it
  | acronym
  deriving DecidableEq, Repr

namespace Boundary

def drops (b : Boundary) (x : Cluster) : Bool :=
  match b with
  | separator c => x = [c]
  | _ => false

def cuts (b : Boundary) (x y : Cluster) (after : List Cluster) : Bool :=
  match b with
  | separator _ => false
  | lowerUpper => x.isLower && y.isUpper
  | lowerDigit => x.isLower && y.isDigit
  | upperDigit => x.isUpper && y.isDigit
  | digitLower => x.isDigit && y.isLower
  | digitUpper => x.isDigit && y.isUpper
  | acronym => x.isUpper && y.isUpper && after.head?.any Cluster.isLower

end Boundary

namespace Words

def endsBefore (bs : List Boundary) (x : Cluster) : List Cluster → Bool
  | [] => false
  | y :: after => bs.any fun b => b.cuts x y after

def extendFirst (x : Cluster) : List (List Cluster) → List (List Cluster)
  | [] => [[x]]
  | w :: ws => (x :: w) :: ws

def split (bs : List Boundary) : List Cluster → List (List Cluster)
  | [] => [[]]
  | x :: after =>
    if bs.any fun b => b.drops x then [] :: split bs after
    else if endsBefore bs x after then [x] :: split bs after
    else extendFirst x (split bs after)

def join (bs : List Boundary) (sign : Char) (name : String) : String :=
  let words := (split bs (Text.clusters name.toList)).map fun w => Text.lower w.flatten
  String.ofList ([sign].intercalate words)

end Words

namespace Label

/-- A capital starts a word behind a small letter or a digit. Runs of capitals stay together, and digits stay with the
letters before them. -/
def boundaries : List Boundary :=
  [.separator '_', .separator '-', .separator ' ', .lowerUpper, .digitUpper]

def long (name : String) : String :=
  Words.join boundaries '-' name

end Label

namespace Words

def allBoundaries : List Boundary :=
  [.separator '_', .separator '-', .separator ' ', .lowerUpper, .lowerDigit, .upperDigit,
    .digitLower, .digitUpper, .acronym]

def snake (name : String) : String :=
  join allBoundaries '_' name

end Words

end CommandLine
