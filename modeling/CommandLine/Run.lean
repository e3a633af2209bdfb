import CommandLine.Command
import CommandLine.Item

/-! Reading the items of a command line into the fields of a command. -/

namespace CommandLine

open Source

abbrev Record := List (Ident × Value)

namespace Record

def assign (r : Record) (field : Ident) (v : Value) : Record :=
  r.map fun e => if e.1 = field then (e.1, v) else e

end Record

inductive Route
  | long (text : String)
  | short (text : String)
  | positional (payload : String)
  deriving DecidableEq, Repr

structure State where
  record : Record
  pending : List Field

namespace Command

def initialRecord (c : Command) : Record :=
  c.fields.map fun f => (f.ident, f.initialValue)

def start (c : Command) : State :=
  ⟨c.initialRecord, c.arguments⟩

/-- A mark counts only when the command has options of its kind. -/
def route (c : Command) (item : String) : Route :=
  match if c.longOptions.isEmpty then none else Item.afterLong? item with
  | some text => .long text
  | none =>
    match if c.shortOptions.isEmpty then none else Item.afterShort? item with
    | some text => .short text
    | none => .positional (Item.stripEscape item)

def store (s : State) (f : Field) (text : String) : Except ArgsError State :=
  (f.kind.convert text).map fun v => { s with record := s.record.assign f.ident v }

def readOption (table : List Field) (label : Field → String)
    (unknown : String → String → ArgsError) (s : State) (text item : String) :
    Except ArgsError State :=
  let (key, value) := Item.splitOption text
  match table.find? fun f => label f = key with
  | none => .error (unknown key item)
  | some f =>
    match value with
    | none => .error (.missingValue key item)
    | some v => store s f v

def readArgument (s : State) (payload : String) : Except ArgsError State :=
  match s.pending with
  | [] => .error (.unexpectedArgument payload)
  | f :: rest => store { s with pending := rest } f payload

def step (c : Command) (s : State) (item : String) : Except ArgsError State :=
  match c.route item with
  | .long text => readOption c.longOptions Field.longLabel .unknownLongOption s text item
  | .short text => readOption c.shortOptions Field.shortLabel .unknownShortOption s text item
  | .positional payload => readArgument s payload

def steps (c : Command) : State → List String → Except ArgsError State
  | s, [] => .ok s
  | s, item :: rest =>
    match c.step s item with
    | .error e => .error e
    | .ok s' => c.steps s' rest

def run (c : Command) (items : List String) : Except ArgsError Record :=
  (c.steps c.start items).map State.record

def beginnings {α : Type} : List α → List (List α)
  | [] => [[]]
  | a :: rest => [] :: (beginnings rest).map (a :: ·)

def trace (c : Command) (items : List String) : List (Except ArgsError Record) :=
  (beginnings items).map c.run

end Command

end CommandLine
