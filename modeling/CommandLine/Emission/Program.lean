import CommandLine.Command
import CommandLine.Emission.Chain

/-! The generated constructor as a tree. What the code has to import is found out on the way. -/

namespace CommandLine

open Source

inductive Mark
  | long
  | short
  deriving DecidableEq, Repr

inductive Conversion
  -- the text is copied
  | copy
  | integer (type : IntegerType)
  | float (width : FloatWidth)
  | boolean
  deriving DecidableEq, Repr

namespace Conversion

def ofKind (k : Kind) : Conversion :=
  if !k.needsConversion then copy
  else if h : k.isInteger then integer (k.integerType h)
  else if h : k.isFloat then float (k.floatWidth h)
  else boolean

@[simp] theorem ofKind_text : ofKind .text = copy := rfl
@[simp] theorem ofKind_integer (t : IntegerType) : ofKind (.integer t) = integer t := rfl
@[simp] theorem ofKind_float (w : FloatWidth) : ofKind (.float w) = float w := rfl
@[simp] theorem ofKind_boolean : ofKind .boolean = boolean := rfl

end Conversion

structure Assignment where
  field : Ident
  conversion : Conversion
  deriving DecidableEq, Repr

inductive Operand
  | item
  | value
  -- the item without its escape
  | unescaped
  deriving DecidableEq, Repr

inductive Refusal
  | unknown (mark : Mark)
  | missingValue
  | unexpected (text : Operand)
  deriving DecidableEq, Repr

inductive Statement
  -- binds the key and the value of what stands behind the mark
  | splitOption
  | bindItem (text : Operand)
  -- binds the value to its text, if there is one
  | requireValue (otherwise : Refusal)
  | assign (assignment : Assignment) (text : Operand)
  | countDown
  | refuse (refusal : Refusal)
  deriving DecidableEq, Repr

structure Arm (π : Type) where
  pattern : π
  body : List Statement
  deriving DecidableEq, Repr

inductive Selection
  | done
  | key (arms : List (Arm Literal)) (otherwise : Refusal)
  | count (arms : List (Arm Nat)) (otherwise : Refusal)
  deriving DecidableEq, Repr

structure Block where
  statements : List Statement
  selection : Selection := .done
  deriving DecidableEq, Repr

structure FieldInit where
  field : Ident
  kind : Kind
  initializer : Initializer
  deriving DecidableEq, Repr

structure Program where
  target : Ident
  imports : List String
  fields : List FieldInit
  counter : Option Nat
  dispatch : Chain Mark Block

structure Imports where
  needsConvert : Bool := false
  deriving DecidableEq, Repr

namespace Imports

def requireConvert (_ : Imports) : Imports :=
  ⟨true⟩

def names (i : Imports) : List String :=
  ["ArgsError", "tokens"] ++ if i.needsConvert then ["convert"] else []

end Imports

abbrev Emit := StateM Imports

namespace Field

def label (f : Field) : Mark → String
  | .long => f.longLabel
  | .short => f.shortLabel

def assignment (f : Field) : Assignment :=
  ⟨f.ident, .ofKind f.kind⟩

def assign (f : Field) (text : Operand) : Emit Statement := do
  if f.kind.needsConversion then
    modify Imports.requireConvert
  return .assign f.assignment text

def labelArm (m : Mark) (f : Field) : Emit (Arm Literal) := do
  let assign ← f.assign .value
  return ⟨.ofString (f.label m), [.requireValue .missingValue, assign]⟩

def countArm (count : Nat) (f : Field) : Emit (Arm Nat) := do
  let assign ← f.assign .item
  return ⟨count, [assign, .countDown]⟩

end Field

namespace Command

def table (c : Command) : Mark → List Field
  | .long => c.longOptions
  | .short => c.shortOptions

def optionBlock (m : Mark) (options : List Field) : Emit Block := do
  let arms ← options.mapM (Field.labelArm m)
  return ⟨[.splitOption], .key arms (.unknown m)⟩

def countArms : List Field → Emit (List (Arm Nat))
  | [] => return []
  | f :: rest => do
    let arm ← f.countArm (rest.length + 1)
    let arms ← countArms rest
    return arm :: arms

def positionalBlock (arguments : List Field) : Emit Block := do
  if arguments.isEmpty then
    return { statements := [.refuse (.unexpected .unescaped)] }
  else
    let arms ← countArms arguments
    return ⟨[.bindItem .unescaped], .count arms (.unexpected .item)⟩

def addTable (c : Command) (chain : Chain Mark Block) (m : Mark) :
    ExceptT ChainError Emit (Chain Mark Block) := do
  if (c.table m).isEmpty then
    return chain
  else
    let body ← optionBlock m (c.table m)
    liftExcept (Chain.taken (chain.branch m body))

def emitDispatch (c : Command) : ExceptT ChainError Emit (Chain Mark Block) := do
  let chain ← [Mark.long, Mark.short].foldlM c.addTable {}
  let body ← positionalBlock c.arguments
  liftExcept (Chain.taken (chain.setFallback body))

def fieldInits (c : Command) : List FieldInit :=
  c.fields.map fun f => ⟨f.ident, f.kind, f.initializer⟩

def emitProgram (c : Command) : ExceptT ChainError Emit Program := do
  let dispatch ← c.emitDispatch
  let imports ← getThe Imports
  return {
    target := c.ident
    imports := imports.names
    fields := c.fieldInits
    counter := if c.arguments.isEmpty then none else some c.arguments.length
    dispatch }

def dispatch (c : Command) : Except ChainError (Chain Mark Block) :=
  (c.emitDispatch.run.run {}).1

def program (c : Command) : Except ChainError Program :=
  (c.emitProgram.run.run {}).1

end Command

end CommandLine
