import CommandLine.Command
import CommandLine.Source.Lexer

namespace CommandLine

open Source

inductive NameRole
  | constructor
  | module
  deriving DecidableEq, Repr

namespace NameRole

def word : NameRole → String
  | constructor => "constructor"
  | module => "module"

end NameRole

inductive NameError
  | invalid (role : NameRole) (name : String)
  -- the text is no plain identifier, although an identifier was expected to come out
  | aborted (text : String)
  deriving DecidableEq, Repr

namespace NameError

def message? : NameError → Option String
  | invalid role name =>
    some s!"invalid {role.word} name '{name}', expected a Rust identifier"
  | aborted _ => none

end NameError

namespace Command

def plainIdent (text : String) : Except NameError Ident :=
  match Ident.plain? text with
  | some i => .ok i
  | none => .error (.aborted text)

def configuredName (role : NameRole) (name : String) : Except NameError Ident :=
  match singleIdent? name with
  | some i => if i.isKeyword then .error (.invalid role name) else plainIdent i.text
  | none => .error (.invalid role name)

def constructorName (c : Command) : Except NameError Ident :=
  match c.constructor with
  | some name => configuredName .constructor name
  | none => plainIdent ("new_" ++ Words.snake c.ident.text)

def moduleName (c : Command) : Except NameError (Option Ident) :=
  match c.module with
  | some name => (configuredName .module name).map some
  | none => .ok none

end Command

end CommandLine
