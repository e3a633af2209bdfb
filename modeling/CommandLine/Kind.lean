import CommandLine.ArgsError

/-! The kinds of scalar that a field can hold, the values of each kind, and the conversion of a text to a value. -/

namespace CommandLine

inductive Kind
  | text
  | integer (type : IntegerType)
  | float (width : FloatWidth)
  | boolean
  deriving DecidableEq, Repr

inductive Value
  | text (s : String)
  | integer (n : Int)
  | float (width : FloatWidth) (x : FloatValue)
  | boolean (b : Bool)
  deriving DecidableEq, Repr

def readBoolean (s : String) : Except ArgsError Bool :=
  if s ∈ ["1", "t", "T", "TRUE", "true", "True"] then
    .ok true
  else if s ∈ ["0", "f", "F", "FALSE", "false", "False"] then
    .ok false
  else
    .error (.boolean s)

namespace Kind

def all : List Kind :=
  text :: boolean :: IntegerType.all.map integer ++ FloatWidth.all.map float

def name : Kind → String
  | text => "String"
  | integer t => t.name
  | float w => w.name
  | boolean => "bool"

def ofName? (s : String) : Option Kind :=
  all.find? fun k => k.name = s

def needsConversion : Kind → Bool
  | text => false
  | _ => true

def isInteger : Kind → Bool
  | integer _ => true
  | _ => false

def isFloat : Kind → Bool
  | float _ => true
  | _ => false

def integerType : (k : Kind) → k.isInteger = true → IntegerType
  | integer t, _ => t

def floatWidth : (k : Kind) → k.isFloat = true → FloatWidth
  | float w, _ => w

def zero : Kind → Value
  | text => .text ""
  | integer _ => .integer 0
  | float w => .float w w.zero
  | boolean => .boolean false

def convert : Kind → String → Except ArgsError Value
  | text, s => .ok (.text s)
  | integer t, s => (t.read s).mapError .integer |>.map .integer
  | float w, s => (w.read s).mapError .float |>.map (.float w)
  | boolean, s => (readBoolean s).map .boolean

end Kind

end CommandLine
