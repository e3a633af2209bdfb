import CommandLine.Props

/-! Scanning a metadata text into properties. -/

namespace CommandLine.Metadata

structure UnterminatedQuote where
  quote : Char
  offset : Nat
  deriving DecidableEq, Repr

namespace UnterminatedQuote

def message (e : UnterminatedQuote) : String :=
  s!"unterminated quote {e.quote} opened at offset {e.offset}"

end UnterminatedQuote

def isQuote (c : Char) : Bool :=
  c = '\'' || c = '"' || c = '`'

/-- The pair in progress. Quotes alone collect nothing, so an empty quoted span is no pair. -/
structure Pair where
  key : String := ""
  value : String := ""
  inValue : Bool := false
  collected : Bool := false
  deriving DecidableEq, Repr

namespace Pair

def push (p : Pair) (c : Char) : Pair :=
  if p.inValue then
    { p with value := p.value.push c, collected := true }
  else
    { p with key := p.key.push c, collected := true }

end Pair

structure Scan where
  props : Props := {}
  pair : Pair := {}
  openQuote : Option UnterminatedQuote := none
  offset : Nat := 0
  deriving DecidableEq, Repr

namespace Scan

/-- Moves a collected pair to the properties. A pair with nothing collected stays as it is, even when a colon was
seen. -/
def flush (s : Scan) : Scan :=
  if s.pair.collected then
    { s with props := s.props.insert s.pair.key s.pair.value, pair := {} }
  else
    s

def visit (s : Scan) (c : Char) : Scan :=
  match s.openQuote with
  | some q =>
    if c = q.quote then { s with openQuote := none }
    else if isQuote c then s
    else { s with pair := s.pair.push c }
  | none =>
    if c = ':' then { s with pair := { s.pair with inValue := true } }
    else if c = ' ' then s.flush
    else if isQuote c then { s with openQuote := some ⟨c, s.offset⟩ }
    else { s with pair := s.pair.push c }

def step (s : Scan) (c : Char) : Scan :=
  { s.visit c with offset := s.offset + c.utf8Size }

def run (s : Scan) (cs : List Char) : Scan :=
  cs.foldl step s

def finish (s : Scan) : Except UnterminatedQuote Props :=
  match s.openQuote with
  | some q => .error q
  | none => .ok (if s.pair.key = "" then s.props else s.flush.props)

end Scan

def parse (s : String) : Except UnterminatedQuote Props :=
  (Scan.run {} s.toList).finish

end CommandLine.Metadata
