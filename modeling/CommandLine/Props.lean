/-! Properties decoded from a metadata text. A later value replaces the earlier one in place. -/

namespace CommandLine

structure Props where
  entries : List (String × String) := []
  deriving DecidableEq, Repr

namespace Props

def insertEntry (key value : String) : List (String × String) → List (String × String)
  | [] => [(key, value)]
  | (k, v) :: rest =>
    if k = key then (k, value) :: rest else (k, v) :: insertEntry key value rest

def insert (p : Props) (key value : String) : Props :=
  ⟨insertEntry key value p.entries⟩

def insertAll (p : Props) (pairs : List (String × String)) : Props :=
  pairs.foldl (fun q e => q.insert e.1 e.2) p

def get? (p : Props) (key : String) : Option String :=
  p.entries.lookup key

def keys (p : Props) : List String :=
  p.entries.map Prod.fst

end Props

end CommandLine
