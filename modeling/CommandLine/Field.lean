import CommandLine.Initializer
import CommandLine.Label
import CommandLine.Metadata

/-! Fields of a command. -/

namespace CommandLine

open Source

inductive Role
  | option
  | argument
  deriving DecidableEq, Repr

namespace Role

def ofName? (s : String) : Option Role :=
  if s = "option" then some option
  else if s = "argument" then some argument
  else none

end Role

structure Field where
  ident : Ident
  -- source of the long label; an option without one has no long form
  name : String
  -- key behind the short mark; empty when there is none
  short : String := ""
  kind : Kind
  role : Role := .argument
  default : Option Value := none
  deriving DecidableEq, Repr

namespace Field

def isOption (f : Field) : Bool :=
  f.role = .option

def isArgument (f : Field) : Bool :=
  f.role = .argument

def isLong (f : Field) : Bool :=
  f.isOption && f.name ≠ ""

def isShort (f : Field) : Bool :=
  f.isOption && f.short ≠ ""

def longLabel (f : Field) : String :=
  Label.long f.name

def shortLabel (f : Field) : String :=
  f.short

def initialValue (f : Field) : Value :=
  f.default.getD f.kind.zero

def initializer (f : Field) : Initializer :=
  match f.default with
  | some v => f.kind.initializer v
  | none => .unset

end Field

inductive AttributeFault
  | empty
  | notLiteral
  | trailing
  | notString
  | bare
  | duplicate
  deriving DecidableEq, Repr

namespace AttributeFault

def message : AttributeFault → String
  | empty => "unexpected end of input, expected string literal"
  | notLiteral => "expected string literal"
  | trailing => "unexpected token"
  | notString => "expected a string literal"
  | bare => "expected #[cli(\"...\")] with a metadata string"
  | duplicate => "duplicate #[cli] attribute"

end AttributeFault

inductive FieldFault
  | nameless
  | unsupportedType (type : String)
  | attribute (fault : AttributeFault)
  | metadata (fault : Metadata.UnterminatedQuote)
  | undefinedProperty (key : String)
  | undefinedRole (value : String)
  | invalidDefault (fault : DefaultError)
  | unreachable
  deriving DecidableEq, Repr

structure FieldError where
  owner : Ident
  field : Option Ident
  fault : FieldFault
  deriving DecidableEq, Repr

namespace FieldError

def label (e : FieldError) : String :=
  match e.field with
  | some i => s!"error parsing {e.owner.text}.{i.text}: "
  | none => s!"error parsing {e.owner.text}: "

/-- A malformed attribute is reported by itself; every other message starts with its label. -/
def message (e : FieldError) : String :=
  match e.fault with
  | .nameless => e.label ++ "command fields must have exactly one name"
  | .unsupportedType type => e.label ++ s!"unsupported field type `{type}`"
  | .attribute fault => fault.message
  | .metadata fault => e.label ++ fault.message
  | .undefinedProperty key =>
    e.label ++ s!"undefined property '{key}', expected: short, default, type, name"
  | .undefinedRole value =>
    e.label ++ s!"undefined type '{value}', expected 'option' or 'argument'"
  | .invalidDefault fault => e.label ++ s!"invalid default: {fault.message}"
  | .unreachable => e.label ++ "option needs a non-empty name or short key"

end FieldError

namespace Attribute

def metadata (a : Attribute) : Except AttributeFault String :=
  match a.body with
  | .bare => .error .bare
  | .list _ [] => .error .empty
  | .list _ (.literal l :: rest) =>
    match l.stringValue? with
    | some s => if rest.isEmpty then .ok s else .error .trailing
    | none => .error .notLiteral
  | .list _ _ => .error .notLiteral
  | .value [.literal l] =>
    match l.stringValue? with
    | some s => .ok s
    | none => .error .notString
  | .value _ => .error .notString

end Attribute

namespace FieldDecl

def findMetadata : Option String → List Attribute → Except AttributeFault (Option String)
  | found, [] => .ok found
  | found, a :: rest =>
    if a.isNamed "cli" then
      match a.metadata with
      | .error fault => .error fault
      | .ok s => if found.isSome then .error .duplicate else findMetadata (some s) rest
    else
      findMetadata found rest

def props (d : FieldDecl) : Except FieldFault Props :=
  match findMetadata none d.attributes with
  | .error fault => .error (.attribute fault)
  | .ok none => .ok {}
  | .ok (some s) =>
    match Metadata.parse s with
    | .error fault => .error (.metadata fault)
    | .ok p => .ok p

structure Settings where
  name : String
  short : String := ""
  role : Role := .argument
  default : Option String := none
  deriving DecidableEq, Repr

namespace Settings

def set (s : Settings) (key value : String) : Except FieldFault Settings :=
  if key = "short" then .ok { s with short := value }
  else if key = "default" then .ok { s with default := some value }
  else if key = "name" then .ok { s with name := value }
  else if key = "type" then
    match Role.ofName? value with
    | some r => .ok { s with role := r }
    | none => .error (.undefinedRole value)
  else .error (.undefinedProperty key)

def setAll : Settings → List (String × String) → Except FieldFault Settings
  | s, [] => .ok s
  | s, (key, value) :: rest =>
    match s.set key value with
    | .error fault => .error fault
    | .ok s' => s'.setAll rest

def defaultValue (s : Settings) (k : Kind) : Except FieldFault (Option Value) :=
  match s.default with
  | none => .ok none
  | some source =>
    match k.readDefault source with
    | .error fault => .error (.invalidDefault fault)
    | .ok v => .ok (some v)

end Settings

def fieldOfProps (ident : Ident) (kind : Kind) (p : Props) : Except FieldFault Field :=
  match Settings.setAll { name := ident.name } p.entries with
  | .error fault => .error fault
  | .ok s =>
    match s.defaultValue kind with
    | .error fault => .error fault
    | .ok default =>
      if s.role = .option ∧ s.name = "" ∧ s.short = "" then
        .error .unreachable
      else
        .ok { ident, name := s.name, short := s.short, kind, role := s.role, default }

def namedField (d : FieldDecl) (ident : Ident) : Except FieldFault Field :=
  match Kind.ofType? d.type with
  | none => .error (.unsupportedType (Row.typeText d.type))
  | some kind =>
    match d.props with
    | .error fault => .error fault
    | .ok p => fieldOfProps ident kind p

def field (d : FieldDecl) (owner : Ident) : Except FieldError Field :=
  match d.ident with
  | none => .error ⟨owner, none, .nameless⟩
  | some ident => (d.namedField ident).mapError fun fault => ⟨owner, some ident, fault⟩

end FieldDecl

end CommandLine
