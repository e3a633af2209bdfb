import CommandLine.Definition
import CommandLine.SettingItem
import CommandLine.Similarity

/-! Settings of a whole command: the names of its module and constructor, taken from the items of the command
attributes. -/

namespace CommandLine

open Source

inductive SettingKey
  | module
  | constructor
  deriving DecidableEq, Repr

namespace SettingKey

def name : SettingKey → String
  | module => "module"
  | constructor => "constructor"

def ofName? (s : String) : Option SettingKey :=
  if s = "module" then some module
  else if s = "constructor" then some constructor
  else none

end SettingKey

inductive SettingFault
  | assignment
  | list (fault : SyntaxFault)
  | nested (key : SettingKey) (fault : SyntaxFault)
  | literal
  | format (key : SettingKey) (form : String)
  | type (key : SettingKey) (form : String)
  | duplicate (key : SettingKey)
  | unknown (name : String) (closest : Option String)
  deriving DecidableEq, Repr

namespace SettingFault

def detail : SettingFault → String
  | assignment => "Name-value arguments are not supported. Use #[command(...)]"
  | list fault | nested _ fault => fault.message
  | literal => "Unexpected meta-item format `literal`"
  | format _ form => s!"Unexpected meta-item format `{form}`"
  | type _ form => s!"Unexpected type `{form}`"
  | duplicate key => s!"Duplicate field `{key.name}`"
  | unknown name (some c) => s!"Unknown field: `{name}`. Did you mean `{c}`?"
  | unknown name none =>
    s!"Unknown field: `{name}`. Available values: `constructor`, `module`"

def place? : SettingFault → Option SettingKey
  | nested key _ | format key _ | type key _ => some key
  | _ => none

def message (f : SettingFault) : String :=
  match f.place? with
  | some key => s!"{f.detail} at {key.name}"
  | none => f.detail

end SettingFault

structure Settings where
  module : Option String := none
  constructor : Option String := none
  seen : List SettingKey := []
  faults : List SettingFault := []

namespace Settings

def addFault (s : Settings) (f : SettingFault) : Settings :=
  { s with faults := s.faults ++ [f] }

def set (s : Settings) (key : SettingKey) (value : String) : Settings :=
  match key with
  | .module => { s with module := some value }
  | .constructor => { s with constructor := some value }

def valueOf (key : SettingKey) : SettingItem → Except SettingFault String
  | .literal => .error .literal
  | .word _ => .error (.format key "word")
  | .list _ items =>
    match SettingItem.ofRow items with
    | .ok _ => .error (.format key "list")
    | .error fault => .error (.nested key fault)
  | .value _ (.text s) => .ok s
  | .value _ (.other form) => .error (.type key form)

def applyKeyed (s : Settings) (name : String) (item : SettingItem) : Settings :=
  match SettingKey.ofName? name with
  | none => s.addFault (.unknown name (Similarity.closest? name ["constructor", "module"]))
  | some key =>
    if key ∈ s.seen then
      s.addFault (.duplicate key)
    else
      let s := { s with seen := key :: s.seen }
      match valueOf key item with
      | .ok value => s.set key value
      | .error fault => s.addFault fault

def applyItem (s : Settings) (item : SettingItem) : Settings :=
  match item with
  | .literal => s.addFault .literal
  | .word key | .list key _ | .value key _ => s.applyKeyed key item

def applyAttribute (s : Settings) (a : Attribute) : Settings :=
  if a.isNamed "command" then
    match a.body with
    | .bare => s
    | .value _ => s.addFault .assignment
    | .list _ items =>
      match SettingItem.ofRow items with
      | .error fault => s.addFault (.list fault)
      | .ok items => items.foldl applyItem s
  else
    s

def ofAttributes (as : List Attribute) : Settings :=
  as.foldl applyAttribute {}

end Settings

end CommandLine
