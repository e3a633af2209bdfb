import CommandLine.Source.Escape

/-! Literals of the source language, kept as they are written. -/

namespace CommandLine.Source

structure Literal where
  text : String
  deriving DecidableEq, Repr

inductive LiteralKind
  | string | byteString | foreignString | byte | character | integer | float | error
  deriving DecidableEq, Repr

namespace Literal

def ofString (s : String) : Literal :=
  ⟨String.ofList ('"' :: (Escape.encode s.toList ++ ['"']))⟩

def error : Literal :=
  ⟨"(/*ERROR*/)"⟩

def isExponent (found : Bool) : List Char → Bool
  | [] => found
  | c :: cs =>
    if c = '_' then isExponent found cs
    else if c = '+' || c = '-' then true
    else if c.isDigit then isExponent true cs
    else found

def isWhole (base : Nat) (found : Bool) : List Char → Bool
  | [] => found
  | c :: cs =>
    if c = '_' then isWhole base found cs
    else if c = '.' && base = 10 then false
    else if (c = 'e' || c = 'E') && base = 10 then found && !isExponent false cs
    else
      match Escape.hexDigit? c with
      | some d => if d < base then isWhole base true cs else found && !c.isDigit
      | none => found

def numberKind (cs : List Char) : LiteralKind :=
  let whole :=
    match cs with
    | '0' :: 'x' :: digits => isWhole 16 false digits
    | '0' :: 'o' :: digits => isWhole 8 false digits
    | '0' :: 'b' :: digits => isWhole 2 false digits
    | _ => isWhole 10 false cs
  if whole then .integer else .float

def kind (l : Literal) : LiteralKind :=
  match l.text.toList with
  | '"' :: _ | 'r' :: _ => .string
  | 'b' :: '\'' :: _ => .byte
  | 'b' :: _ => .byteString
  | 'c' :: _ => .foreignString
  | '\'' :: _ => .character
  | '(' :: _ => .error
  | cs => numberKind cs

def isNumber (l : Literal) : Bool :=
  l.kind = .integer || l.kind = .float

def digitsValue (base value : Nat) : List Char → Nat × List Char
  | [] => (value, [])
  | c :: cs =>
    if c = '_' then
      digitsValue base value cs
    else
      match Escape.hexDigit? c with
      | some d => if d < base then digitsValue base (base * value + d) cs else (value, c :: cs)
      | none => (value, c :: cs)

def wholeNumber? (l : Literal) : Option (Nat × String) :=
  let (value, suffix) :=
    match l.text.toList with
    | '0' :: 'x' :: digits => digitsValue 16 0 digits
    | '0' :: 'o' :: digits => digitsValue 8 0 digits
    | '0' :: 'b' :: digits => digitsValue 2 0 digits
    | digits => digitsValue 10 0 digits
  if l.kind = .integer then some (value, String.ofList suffix) else none

def rawBody (marks : Nat) : List Char → List Char
  | [] => []
  | c :: cs =>
    if c = '"' ∧ (List.replicate marks '#').isPrefixOf cs then [] else c :: rawBody marks cs

def stringValue? (l : Literal) : Option String :=
  match l.text.toList with
  | '"' :: cs => (Escape.decode cs).map String.ofList
  | 'r' :: cs =>
    let marks := (cs.takeWhile (· = '#')).length
    some (String.ofList (rawBody marks (cs.drop (marks + 1))))
  | _ => none

end Literal

end CommandLine.Source
