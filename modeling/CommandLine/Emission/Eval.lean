import CommandLine.Emission.Program
import CommandLine.Run

/-! What a generated constructor computes. Code that uses a name that is not bound, or counts below zero, has no
meaning. -/

namespace CommandLine

open Source

namespace Mark

def strip? : Mark → String → Option String
  | long => Item.afterLong?
  | short => Item.afterShort?

def unknownKey : Mark → String → String → ArgsError
  | long => .unknownLongOption
  | short => .unknownShortOption

end Mark

namespace Conversion

def apply : Conversion → String → Except ArgsError Value
  | copy, s => .ok (.text s)
  | integer t, s =>
    match t.read s with
    | .ok n => .ok (.integer n)
    | .error e => .error (.integer e)
  | float w, s =>
    match w.read s with
    | .ok x => .ok (.float w x)
    | .error e => .error (.float e)
  | boolean, s =>
    match readBoolean s with
    | .ok b => .ok (.boolean b)
    | .error e => .error e

def isCall : Conversion → Bool
  | copy => false
  | _ => true

end Conversion

abbrev Outcome := ExceptT ArgsError Option

structure Machine where
  record : Record
  remaining : Nat
  deriving DecidableEq, Repr

structure Scope where
  machine : Machine
  item : String
  rest : Option String
  option : Option (String × Option String) := none
  value : Option String := none
  deriving DecidableEq, Repr

namespace Operand

def eval (s : Scope) : Operand → Outcome String
  | item => return s.item
  | value => s.value
  | unescaped => return Item.stripEscape s.item

end Operand

namespace Refusal

def eval {α : Type} (s : Scope) : Refusal → Outcome α
  | unknown mark => do
    let (key, _) ← s.option
    throw (mark.unknownKey key s.item)
  | missingValue => do
    let (key, _) ← s.option
    throw (.missingValue key s.item)
  | unexpected text => do
    throw (.unexpectedArgument (← text.eval s))

end Refusal

namespace Statement

def exec (s : Scope) : Statement → Outcome Scope
  | splitOption => do
    let rest ← s.rest
    return { s with option := some (Item.splitOption rest) }
  | bindItem text => do
    return { s with item := ← text.eval s }
  | requireValue otherwise => do
    match ← s.option with
    | (_, some value) => return { s with value := some value }
    | (_, none) => otherwise.eval s
  | assign a text => do
    let v ← liftExcept (a.conversion.apply (← text.eval s))
    return { s with machine.record := s.machine.record.assign a.field v }
  | countDown =>
    match s.machine.remaining with
    | 0 => none
    | n + 1 => return { s with machine.remaining := n }
  | refuse refusal => refusal.eval s

end Statement

namespace Selection

def exec (s : Scope) : Selection → Outcome Scope
  | done => return s
  | key arms otherwise => do
    let (name, _) ← s.option
    match arms.find? fun a => a.pattern.stringValue? = some name with
    | some a => a.body.foldlM Statement.exec s
    | none => otherwise.eval s
  | count arms otherwise =>
    match arms.find? fun a => a.pattern = s.machine.remaining with
    | some a => a.body.foldlM Statement.exec s
    | none => otherwise.eval s

end Selection

namespace Block

def exec (s : Scope) (b : Block) : Outcome Scope := do
  b.selection.exec (← b.statements.foldlM Statement.exec s)

def bodies (b : Block) : List (List Statement) :=
  b.statements :: match b.selection with
    | .done => []
    | .key arms _ => arms.map Arm.body
    | .count arms _ => arms.map Arm.body

def assignments (b : Block) : List Assignment :=
  b.bodies.flatten.filterMap fun
    | .assign a _ => some a
    | _ => none

def counts (b : Block) : Bool :=
  match b.selection with
  | .count .. => true
  | _ => b.bodies.flatten.contains .countDown

end Block

namespace Chain

def blocks (c : Chain Mark Block) : List Block :=
  c.branches.map Prod.snd ++ c.fallback.toList

def assignments (c : Chain Mark Block) : List Assignment :=
  c.blocks.flatMap Block.assignments

end Chain

namespace Program

-- The conversion is to the type of the field, and what it calls is imported.
def admits (p : Program) (a : Assignment) : Bool :=
  p.fields.any (fun f => f.field = a.field && a.conversion = .ofKind f.kind) &&
    (!a.conversion.isCall || p.imports.contains "convert")

def isBound (p : Program) : Bool :=
  ["ArgsError", "tokens"].all p.imports.contains && p.dispatch.assignments.all p.admits &&
    (p.counter.isSome || !p.dispatch.blocks.any Block.counts)

def step (p : Program) (m : Machine) (item : String) : Outcome Machine :=
  match p.dispatch.select (fun mark => (mark.strip? item).map some) none with
  | some (block, rest) => Scope.machine <$> block.exec { machine := m, item, rest }
  | none => return m

def steps (p : Program) (m : Machine) (items : List String) : Outcome Machine :=
  items.foldlM p.step m

def initialRecord? (p : Program) : Option Record :=
  p.fields.mapM fun f => (f.initializer.eval f.kind).map fun v => (f.field, v)

def run? (p : Program) (items : List String) : Option (Except ArgsError Record) := do
  guard p.isBound
  let record ← p.initialRecord?
  (Machine.record <$> p.steps ⟨record, p.counter.getD 0⟩ items).run

end Program

end CommandLine
