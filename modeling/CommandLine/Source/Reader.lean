import CommandLine.Source.Token

/-! Reading a row of trees from front to back. What is read is given back as it is written out again. -/

namespace CommandLine.Source

inductive Expectation
  | token (t : Token)
  | expression
  | labelled
  | memberName
  | wholeNumber
  | pathSegment
  | delimiter
  | elementEnd
  | rangeEnd
  | newName
  | setting
  deriving DecidableEq, Repr

def Expectation.describe : Expectation → String
  | token t => t.describe
  | expression => "an expression"
  | labelled => "loop or block expression"
  | memberName => "identifier or integer"
  | wholeNumber => "integer literal"
  | pathSegment => "path segment after `::`"
  | delimiter => "delimiter"
  | elementEnd => "`,` or `;`"
  | rangeEnd => "range upper bound"
  | newName => "identifier or underscore"
  | setting => "identifier or literal"

inductive CastFollower
  | await | methodCall | fieldAccess | question | indexing | call
  deriving DecidableEq, Repr

def CastFollower.describe : CastFollower → String
  | await => "`.await`"
  | methodCall => "a method call"
  | fieldAccess => "a field access"
  | question => "`?`"
  | indexing => "indexing"
  | call => "a function call"

inductive SyntaxFault
  -- an operator is missing
  | sign (text : String)
  -- none of what may come next does; it is told apart whether anything comes at all
  | expected (es : List Expectation) (atEnd : Bool)
  -- a keyword stands where a name should
  | keyword (name : String)
  -- a group goes on where it should end
  | unfinished (d : Delimiter)
  -- a statement goes on where it should end
  | statement
  | chainedComparison
  | cast (f : CastFollower)
  | labelledOperand
  | attributeValue
  | attributeOnRange
  | indexSuffix
  | indexSign
  | indexSize
  | openRangeInSlice
  | objectWithoutTrait
  | boundWithoutTrait
  | capture
  | conditionalBound
  | constantBound
  | relaxedBinder
  | receiver
  | secondReceiver
  | depth
  deriving DecidableEq, Repr

namespace SyntaxFault

def listed : List Expectation → String
  | [] => ""
  | [e] => e.describe
  | [e, f] => e.describe ++ " or " ++ f.describe
  | es => "one of: " ++ ", ".intercalate (es.map Expectation.describe)

def closing : Delimiter → String
  | .parenthesis => ")"
  | .bracket => "]"
  | .brace => "\x7d"

def message : SyntaxFault → String
  | sign text => "expected `" ++ text ++ "`"
  | expected [] atEnd => if atEnd then "unexpected end of input" else "unexpected token"
  | expected es atEnd =>
    (if atEnd then "unexpected end of input, " else "") ++ "expected " ++ listed es
  | keyword name => "expected identifier, found keyword `" ++ name ++ "`"
  | unfinished d => "unexpected token, expected `" ++ closing d ++ "`"
  | statement => "unexpected token, expected `;`"
  | chainedComparison => "comparison operators cannot be chained"
  | cast f => "casts cannot be followed by " ++ f.describe
  | labelledOperand => "parentheses required"
  | attributeValue => "unexpected attribute inside of attribute"
  | attributeOnRange => "attributes are not allowed on range expressions starting with `..`"
  | indexSuffix => "expected unsuffixed integer"
  | indexSign => "invalid digit found in string"
  | indexSize => "number too large to fit in target type"
  | openRangeInSlice => "range pattern is not allowed unparenthesized inside slice pattern"
  | objectWithoutTrait => "at least one trait is required for an object type"
  | boundWithoutTrait => "at least one trait must be specified"
  | capture => "`use<...>` precise capturing syntax is not allowed here"
  | conditionalBound => "`[const]` is not allowed here"
  | constantBound => "`const` is not allowed here"
  | relaxedBinder => "`for<...>` binder not allowed with `?` trait polarity modifier"
  | receiver => "unexpected method receiver"
  | secondReceiver => "unexpected second method receiver"
  | depth => "nested too deeply"

end SyntaxFault

/-- What a reader has before it, and the brackets of the first group that was not read to its end. -/
structure Stream where
  rest : Row
  unfinished : Option Delimiter := none

abbrev Reader := StateT Stream (Except SyntaxFault)

namespace Reader

variable {α : Type}

def rest : Reader Row :=
  return (← get).rest

def advance (n : Nat) : Reader Unit :=
  modify fun s => { s with rest := s.rest.drop n }

def sees (t : Token) : Reader Bool :=
  return t.opens (← rest)

def atEnd : Reader Bool :=
  return (← rest).isEmpty

def expected (es : List Expectation) : Reader α := do
  throw (.expected es (← atEnd))

def missing (ts : List Token) : Reader α :=
  expected (ts.map .token)

def sign (text : String) : Reader Row := do
  if ← sees (.sign text) then
    advance text.length
    return Row.ofSigns text.toList
  else
    throw (.sign text)

def word (text : String) : Reader Row := do
  if ← sees (.word text) then
    advance 1
    return Row.ofWord text
  else
    missing [.word text]

def anyName : Reader Row := do
  match ← rest with
  | .ident i :: _ =>
    advance 1
    return [.ident i]
  | _ => missing [.anyName]

def name : Reader Row := do
  match ← rest with
  | .ident i :: _ =>
    if i.isKeyword then
      throw (.keyword i.text)
    else
      advance 1
      return [.ident i]
  | _ => missing [.name]

def lifetime : Reader Row := do
  match ← rest with
  | .punct '\'' true :: .ident i :: _ =>
    advance 2
    return [.punct '\'' true, .ident i]
  | _ => missing [.lifetime]

def literal : Reader Row := do
  match ← rest with
  | .punct '-' _ :: .literal l :: _ =>
    if l.isNumber then
      advance 2
      return [.punct '-' false, .literal l]
    else
      missing [.literal]
  | t :: _ =>
    if (← sees .literal) then
      advance 1
      return [t]
    else
      missing [.literal]
  | [] => missing [.literal]

def optional (t : Token) (r : Reader Row) : Reader Row := do
  if ← sees t then r else return []

def optionalSign (text : String) : Reader Row :=
  optional (.sign text) (sign text)

def optionalWord (text : String) : Reader Row :=
  optional (.word text) (word text)

def inOrder : List (Reader Row) → Reader Row
  | [] => return []
  | r :: rs => return (← r) ++ (← inOrder rs)

def within (d : Delimiter) (r : Reader α) : Reader α := do
  let s ← get
  match s.rest with
  | .group d' body :: after =>
    if d' = d then
      let (a, inner) ← r.run ⟨body, s.unfinished⟩
      let left := if inner.rest.isEmpty then none else some d
      set (Stream.mk after (inner.unfinished <|> left))
      return a
    else
      missing [.group d]
  | _ => missing [.group d]

def enclosed (d : Delimiter) (r : Reader Row) : Reader Row :=
  return [.group d (← within d r)]

def anyGroup : Reader Row := do
  match ← rest with
  | .group d body :: _ =>
    advance 1
    return [.group d body]
  | _ => expected [.delimiter]

def group (d : Delimiter) : Reader Row := do
  if ← sees (.group d) then anyGroup else missing [.group d]

def captured (r : Reader α) : Reader (α × Row) := do
  let before ← rest
  let a ← r
  return (a, before.take (before.length - (← rest).length))

def asWritten (r : Reader α) : Reader Row :=
  return (← captured r).2

def preview (r : Reader α) : Reader (Except SyntaxFault α) := do
  match r.run (← get) with
  | .ok (a, _) => return .ok a
  | .error f => return .error f

def iterateFrom (step : α → Reader (Option α)) : Nat → α → Reader α
  | 0, a => return a
  | n + 1, a => do
    match ← step a with
    | some b => iterateFrom step n b
    | none => return a

/-- Goes on as long as the step gives another value. A step takes a tree at least, so it fails or ends when there was
one for each of them. -/
def iterate (step : α → Reader (Option α)) (a : α) : Reader α := do
  iterateFrom step ((← rest).length + 1) a

def whileDue (due : Reader Bool) (part : Reader Row) : Reader Row :=
  iterate (fun row => do if ← due then return some (row ++ (← part)) else return none) []

def toEnd (part : Reader Row) : Reader Row :=
  whileDue (return !(← atEnd)) part

def separated (ended : Reader Bool) (separator : String) (item : Reader Row) : Reader Row :=
  whileDue (return !(← ended)) do
    let row ← item
    if ← ended then return row else return row ++ (← sign separator)

def chained (ended : Reader Bool) (separator : String) (item : Reader Row) : Reader Row := do
  if ← ended then
    return []
  else
    let head ← item
    iterate (fun row => do
      if ← sees (.sign separator) then
        let row := row ++ (← sign separator)
        if ← ended then return some row else return some (row ++ (← item))
      else
        return none) head

def items (item : Reader Row) : Reader Row :=
  separated atEnd "," item

structure Choice (α : Type) where
  starts : Row → Bool
  read : Reader α

def choose (choices : List (Choice α)) (otherwise : Reader α) : Reader α := do
  match choices.find? (·.starts (← rest)) with
  | some c => c.read
  | none => otherwise

end Reader

end CommandLine.Source
