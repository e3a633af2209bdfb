import CommandLine.Field
import CommandLine.Settings

namespace CommandLine

open Source

structure Command where
  ident : Ident
  visibility : List Tree := []
  module : Option String := none
  constructor : Option String := none
  fields : List Field := []

structure Tables where
  arguments : List Field := []
  longOptions : List Field := []
  shortOptions : List Field := []

namespace Tables

def push (t : Tables) (f : Field) : Tables where
  longOptions := if f.isLong then t.longOptions ++ [f] else t.longOptions
  shortOptions := if f.isShort then t.shortOptions ++ [f] else t.shortOptions
  arguments := if f.isArgument then t.arguments ++ [f] else t.arguments

theorem foldl_push (fields : List Field) (t : Tables) : fields.foldl push t = {
    arguments := t.arguments ++ fields.filter Field.isArgument
    longOptions := t.longOptions ++ fields.filter Field.isLong
    shortOptions := t.shortOptions ++ fields.filter Field.isShort } := by
  induction fields generalizing t with
  | nil => simp
  | cons f fields ih =>
    rw [List.foldl_cons, ih, push]
    simp only [List.filter_cons, mk.injEq]
    refine ⟨?_, ?_, ?_⟩ <;> split <;> simp

end Tables

namespace Command

def tables (c : Command) : Tables :=
  c.fields.foldl Tables.push {}

def arguments (c : Command) : List Field :=
  c.tables.arguments

def longOptions (c : Command) : List Field :=
  c.tables.longOptions

def shortOptions (c : Command) : List Field :=
  c.tables.shortOptions

theorem arguments_eq (c : Command) : c.arguments = c.fields.filter Field.isArgument := by
  rw [arguments, tables, Tables.foldl_push]
  rfl

theorem longOptions_eq (c : Command) : c.longOptions = c.fields.filter Field.isLong := by
  rw [longOptions, tables, Tables.foldl_push]
  rfl

theorem shortOptions_eq (c : Command) : c.shortOptions = c.fields.filter Field.isShort := by
  rw [shortOptions, tables, Tables.foldl_push]
  rfl

end Command

inductive ShapeFault
  | unnamedFields
  | oneUnnamedField
  | noFields
  | enumeration
  | union
  deriving DecidableEq, Repr

namespace ShapeFault

def message : ShapeFault → String
  | unnamedFields => "Unsupported shape `unnamed fields`. Expected named fields."
  | oneUnnamedField => "Unsupported shape `one unnamed field`. Expected named fields."
  | noFields => "Unsupported shape `no fields`. Expected named fields."
  | enumeration => "Unsupported shape `enum`. Expected struct with named fields."
  | union => "Unsupported shape `union`. Expected struct with named fields."

end ShapeFault

inductive DefinitionError
  | setting (fault : SettingFault)
  | shape (fault : ShapeFault)
  | generic
  | field (error : FieldError)
  deriving DecidableEq, Repr

namespace DefinitionError

def detail : DefinitionError → String
  | setting fault => fault.detail
  | shape fault => fault.message
  | generic => "Command cannot be derived for generic structs"
  | field error => error.message

def message : DefinitionError → String
  | setting fault => fault.message
  | e => e.detail

def messageOfAll : List DefinitionError → String
  | [e] => e.message
  | es => "Multiple errors: (" ++ ", ".intercalate (es.map message) ++ ")"

end DefinitionError

namespace Definition

def shapeFault? (d : Definition) : Option ShapeFault :=
  match d.shape with
  | .named => none
  | .tuple => some (if d.fields.length = 1 then .oneUnnamedField else .unnamedFields)
  | .unit => some .noFields
  | .enumeration => some .enumeration
  | .union => some .union

def outerErrors (d : Definition) : List DefinitionError :=
  (Settings.ofAttributes d.attributes).faults.map .setting ++ d.shapeFault?.toList.map .shape

def fieldResults (d : Definition) : List (Except FieldError Field) :=
  d.fields.map fun f => f.field d.ident

end Definition

def failures {ε α : Type} : List (Except ε α) → List ε
  | [] => []
  | .error e :: rest => e :: failures rest
  | .ok _ :: rest => failures rest

def successes {ε α : Type} : List (Except ε α) → List α
  | [] => []
  | .error _ :: rest => successes rest
  | .ok a :: rest => a :: successes rest

namespace Definition

def command (d : Definition) : Except (List DefinitionError) Command :=
  if d.outerErrors ≠ [] then
    .error d.outerErrors
  else if d.isGeneric then
    .error [.generic]
  else
    match failures d.fieldResults with
    | [] =>
      let settings := Settings.ofAttributes d.attributes
      .ok {
        ident := d.ident
        visibility := d.visibility
        module := settings.module
        constructor := settings.constructor
        fields := successes d.fieldResults }
    | errors => .error (errors.map .field)

end Definition

end CommandLine
