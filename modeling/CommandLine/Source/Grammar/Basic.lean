import CommandLine.Source.Reader

/-! What the grammar of the source language tells apart, and the readers that its rules share. -/

namespace CommandLine.Source

inductive Precedence
  | jump | assign | range | disjunction | conjunction | binding | compare | bitOr | bitXor | bitAnd
  | shift | sum | product | cast
  deriving DecidableEq, Repr

namespace Precedence

def rank : Precedence → Nat
  | jump => 0
  | assign => 1
  | range => 2
  | disjunction => 3
  | conjunction => 4
  | binding => 5
  | compare => 6
  | bitOr => 7
  | bitXor => 8
  | bitAnd => 9
  | shift => 10
  | sum => 11
  | product => 12
  | cast => 13

end Precedence

inductive Form
  | literal (l : Literal) | truth | array | assign | asyncBlock | await | binary (p : Precedence)
  | block | breaking | call | cast | closure | constBlock | continuing | field | forLoop
  | conditional | index | infer | binding | loop | invocation | selection | methodCall | paren
  | path | range | reference | rawReference | repetition | returning | record | trying | tryBlock
  | tuple | unary | uncheckedBlock | verbatim | whileLoop | yielding
  deriving DecidableEq, Repr

namespace Form

def name : Form → String
  | literal _ => "lit"
  | truth => "bool"
  | array => "array"
  | assign => "assign"
  | asyncBlock => "async"
  | await => "await"
  | binary _ => "binary"
  | block => "block"
  | breaking => "break"
  | call => "call"
  | cast => "cast"
  | closure => "closure"
  | constBlock => "const"
  | continuing => "continue"
  | field => "field"
  | forLoop => "for_loop"
  | conditional => "if"
  | index => "index"
  | infer => "infer"
  | binding => "let"
  | loop => "loop"
  | invocation => "macro"
  | selection => "match"
  | methodCall => "method_call"
  | paren => "paren"
  | path => "path"
  | range => "range"
  | reference => "reference"
  | rawReference => "unknown"
  | repetition => "repeat"
  | returning => "return"
  | record => "struct"
  | trying => "try"
  | tryBlock => "try_block"
  | tuple => "tuple"
  | unary => "unary"
  | uncheckedBlock => "unsafe"
  | verbatim => "verbatim"
  | whileLoop => "while"
  | yielding => "yield"

def isBlockLike : Form → Bool
  | conditional | selection | block | uncheckedBlock | whileLoop | loop | forLoop | tryBlock
  | constBlock => true
  | _ => false

end Form

structure Expression where
  form : Form
  row : Row
  -- the form of the operand that attributes in front belong to
  lead : Form := form

namespace Expression

def endsInBrace (e : Expression) : Bool :=
  match e.row.getLast? with
  | some (.group .brace _) => true
  | _ => false

def withAttributes (attributes : Row) (e : Expression) : Expression :=
  { e with row := attributes ++ e.row }

def withStatementAttributes (attributes : Row) (e : Expression) : Expression :=
  if e.lead = .verbatim then e else e.withAttributes attributes

end Expression

inductive Arguments
  | absent
  | angled (isEmpty : Bool)
  | applied
  deriving DecidableEq, Repr

namespace Arguments

def isEmpty : Arguments → Bool
  | absent => true
  | angled e => e
  | applied => false

end Arguments

structure PathRow where
  qualified : Bool := false
  rooted : Bool := false
  segments : Nat
  -- no segment before the last has arguments
  plain : Bool := true
  last : Ident
  head : Row
  arguments : Arguments
  tail : Row

namespace PathRow

def row (p : PathRow) : Row :=
  p.head ++ p.tail

def isPlain (p : PathRow) : Bool :=
  !p.qualified && p.plain && p.arguments = .absent

def isSingle (p : PathRow) : Bool :=
  !p.qualified && !p.rooted && p.segments = 1 && p.arguments ≠ .applied

def name? (p : PathRow) : Option Ident :=
  if !p.qualified && p.arguments = .absent then some p.last else none

end PathRow

inductive TypeShape
  | path (p : PathRow)
  -- bounds without a word before them; a single one is given without its parentheses
  | bounds (single : Option Row)
  | other

structure TypeRow where
  row : Row
  shape : TypeShape := .other

inductive BoundKind
  | named | lifetime | capture | verbatim
  deriving DecidableEq, Repr

structure Bound where
  kind : BoundKind
  row : Row
  bare : Row := row

inductive PatternShape
  | rest
  -- a range with only one end
  | openRange
  | verbatim
  | other
  deriving DecidableEq, Repr

structure Pattern where
  row : Row
  shape : PatternShape := .other

structure UseRow where
  row : Row
  isRegular : Bool := true

/-- The readers that rules nest. A flag `records` tells whether a brace may start the fields of a record, a flag
`plus` whether further bounds may follow. -/
structure Grammar where
  expression (records : Bool) : Reader Expression
  unary (records : Bool) : Reader Expression
  climb (records : Bool) (base : Precedence) (left : Expression) : Reader Expression
  boundary : Reader Expression
  type (plus : Bool) : Reader TypeRow
  bound (captures constants : Bool) : Reader Bound
  pattern : Reader Pattern
  statements : Reader Row
  item : Reader Row
  useTree (rooted : Bool) : Reader UseRow

namespace Grammar

def empty : Grammar where
  expression _ := throw .depth
  unary _ := throw .depth
  climb _ _ _ := throw .depth
  boundary := throw .depth
  type _ := throw .depth
  bound _ _ := throw .depth
  pattern := throw .depth
  statements := throw .depth
  item := throw .depth
  useTree _ := throw .depth

variable (g : Grammar)

def expressionRow : Reader Row :=
  return (← g.expression true).row

def typeRow (plus : Bool) : Reader Row :=
  return (← g.type plus).row

def boundRow (captures constants : Bool) : Reader Row :=
  return (← g.bound captures constants).row

end Grammar

end CommandLine.Source
