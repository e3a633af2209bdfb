import CommandLine.Number.Shortest
import CommandLine.Definition

/-! Initial values of fields, converted from a default and written back as an expression. -/

namespace CommandLine

inductive Initializer
  -- the zero value of whatever type the field has
  | unset
  | text (literal : Source.Literal)
  | integer (negative : Bool) (digits : String) (type : IntegerType)
  | float (negative : Bool) (digits : String) (width : FloatWidth)
  | boolean (b : Bool)
  deriving DecidableEq, Repr

inductive DefaultError
  | conversion (cause : ArgsError)
  | notFinite (source : String)
  deriving DecidableEq, Repr

namespace DefaultError

def message : DefaultError → String
  | conversion cause => cause.message
  | notFinite source => s!"default '{source}' is not a finite number"

end DefaultError

namespace FloatValue

def negate : FloatValue → FloatValue
  | nan negative => .nan (!negative)
  | infinite negative => .infinite (!negative)
  | finite negative m e => .finite (!negative) m e

end FloatValue

namespace Kind

def readDefault (k : Kind) (source : String) : Except DefaultError Value :=
  match k.convert source with
  | .error e => .error (.conversion e)
  | .ok (.float w x) => if x.isFinite then .ok (.float w x) else .error (.notFinite source)
  | .ok v => .ok v

def initializer : Kind → Value → Initializer
  | _, .text s => .text (.ofString s)
  | integer t, .integer n => .integer (n < 0) (toString n.natAbs) t
  | _, .float w (.finite negative m e) => .float negative (w.shortest m e).positional w
  | _, .boolean b => .boolean b
  | _, _ => .unset

end Kind

def Source.Row.ofNumber (negative : Bool) (text : String) : Source.Row :=
  (if negative then [.punct '-' false] else []) ++ [.literal ⟨text⟩]

namespace Initializer

def signed (negative : Bool) (s : String) : String :=
  if negative then "- " ++ s else s

def render : Initializer → String
  | unset => ":: core :: default :: Default :: default ()"
  | text l => s!":: std :: string :: String :: from ({l.text})"
  | integer negative digits t => signed negative (digits ++ t.name)
  | float negative digits w => signed negative (digits ++ w.name)
  | boolean b => if b then "true" else "false"

def trees : Initializer → Source.Row
  | unset => .ofPath ["core", "default", "Default", "default"] ++ .ofGroup .parenthesis []
  | text l => .ofPath ["std", "string", "String", "from"] ++ .ofGroup .parenthesis [.literal l]
  | integer negative digits t => .ofNumber negative (digits ++ t.name)
  | float negative digits w => .ofNumber negative (digits ++ w.name)
  | boolean b => .ofWord (if b then "true" else "false")

def eval (k : Kind) : Initializer → Option Value
  | unset => some k.zero
  | text l => l.stringValue?.map .text
  | integer negative digits _ =>
    let n : Int := Decimal.digitsValue digits.toList
    some (.integer (if negative then -n else n))
  | float negative digits w =>
    match w.read digits with
    | .ok x => some (.float w (if negative then x.negate else x))
    | .error _ => none
  | boolean b => some (.boolean b)

end Initializer

end CommandLine
