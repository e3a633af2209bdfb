import CommandLine.Emission.Render
import CommandLine.Naming

/-! The whole way from a definition to generated code, or to the compiler errors that take its place. -/

namespace CommandLine

open Source

inductive GenerationError
  | name (error : NameError)
  | chain (error : ChainError)
  deriving DecidableEq, Repr

namespace GenerationError

def message? : GenerationError → Option String
  | name error => error.message?
  | chain error => some error.message

end GenerationError

namespace Command

def generate (c : Command) : Except GenerationError String :=
  match c.constructorName with
  | .error e => .error (.name e)
  | .ok name =>
    match c.moduleName with
    | .error e => .error (.name e)
    | .ok module =>
      match c.program with
      | .error e => .error (.chain e)
      | .ok program => .ok (Constructor.render { visibility := c.visibility, module, name, program })

end Command

inductive Expansion
  | code (text : String)
  | refused (errors : List DefinitionError)
  | ungenerated (message : String)
  | aborted
  deriving DecidableEq, Repr

def compileErrorText (message : String) : String :=
  spaced [":: core :: compile_error !", braces (Literal.ofString message).text]

namespace Expansion

def ofDefinition (d : Definition) : Expansion :=
  match d.command with
  | .error errors => .refused errors
  | .ok c =>
    match c.generate with
    | .ok text => .code text
    | .error e =>
      match e.message? with
      | some message => .ungenerated message
      | none => .aborted

def text? : Expansion → Option String
  | code text => some text
  | refused errors => some (spaced (errors.map fun e => compileErrorText e.detail))
  | ungenerated message => some (compileErrorText message)
  | aborted => none

end Expansion

end CommandLine
