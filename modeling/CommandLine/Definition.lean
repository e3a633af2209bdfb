import CommandLine.Kind
import CommandLine.Source.Grammar

/-! The definition of a command: an annotated type as it stands in the source, cut into token trees. -/

namespace CommandLine

open Source

inductive AttributeBody
  | bare
  | list (d : Delimiter) (items : List Tree)
  | value (expression : List Tree)

structure Attribute where
  path : List Tree
  body : AttributeBody

namespace Attribute

def isNamed (a : Attribute) (name : String) : Bool :=
  match a.path with
  | [.ident i] => i = ⟨name, false⟩
  | _ => false

def bodyOfTrees? : List Tree → Option AttributeBody
  | [] => some .bare
  | [.group d items] => some (.list d items)
  | .punct '=' _ :: expression => some (.value expression)
  | _ => none

end Attribute

inductive Shape
  | named | tuple | unit | enumeration | union
  deriving DecidableEq, Repr

structure FieldDecl where
  ident : Option Ident
  type : List Tree
  attributes : List Attribute := []

structure Definition where
  ident : Ident
  visibility : List Tree := []
  shape : Shape := .named
  generics : List Tree := []
  attributes : List Attribute := []
  fields : List FieldDecl := []

namespace Definition

def isGeneric (d : Definition) : Bool :=
  match d.generics with
  | .punct '<' _ :: .punct '>' _ :: _ => false
  | .punct '<' _ :: _ => true
  | _ => false

end Definition

namespace Kind

def ofType? (type : List Tree) : Option Kind :=
  match Row.type? type with
  | some ⟨_, .path p⟩ => p.name?.bind fun i => if i.raw then none else ofName? i.name
  | _ => none

def typeText : Kind → String
  | text => ":: std :: string :: String"
  | k => k.name

end Kind

end CommandLine
