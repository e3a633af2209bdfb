import CommandLine.Source.Grammar.Basic

/-! Paths, the arguments of their segments, and bounds. -/

namespace CommandLine.Source

inductive PathStyle
  | expression | type
  deriving DecidableEq, Repr

structure AngleArgument where
  isLifetime : Bool
  row : Row
  comma : Bool

namespace AngleArgument

def commaRow : Row :=
  [.punct ',' false]

def written (a : AngleArgument) : Row :=
  if a.comma then a.row ++ commaRow else a.row

def writeFrom (comma : Bool) : List AngleArgument → Row
  | [] => []
  | a :: as => (if comma then [] else commaRow) ++ a.written ++ writeFrom a.comma as

def writeAll (as : List AngleArgument) : Row :=
  let (lifetimes, others) := as.partition (·.isLifetime)
  writeFrom true lifetimes ++ writeFrom ((lifetimes.getLast?.map (·.comma)).getD true) others

end AngleArgument

namespace Grammar

open Reader

variable (g : Grammar)

def attributeValue : Reader Expression := do
  let ts ← rest
  match ts with
  | [.literal l] =>
    advance 1
    return ⟨.literal l, ts, .literal l⟩
  | [.punct '-' _, .literal l] =>
    if l.isNumber then
      return ⟨.literal l, ← literal, .literal l⟩
    else
      g.expression true
  | _ =>
    if (Token.sign "#").opens ts && (Token.group .bracket).opens ts.behind then
      throw .attributeValue
    else
      g.expression true

def moreNames (row : Row) : Reader (Option Row) := do
  if ← sees (.sign "::") then
    let colons ← sign "::"
    if (← rest).startsWith pathNames then
      return some (row ++ colons ++ (← anyName))
    else
      expected [.pathSegment]
  else
    return none
where
  pathNames : List Token := [.name, .word "super", .word "self", .word "Self", .word "crate"]

def plainPath : Reader Row := do
  let root ← optionalSign "::"
  if (← rest).startsWith moreNames.pathNames then
    iterate moreNames (root ++ (← anyName))
  else
    return root ++ (← name)

def attributeBody : Reader Row := do
  let path ← if ← sees (.word "unsafe") then word "unsafe" else plainPath
  if (← rest).startsWith [.group .parenthesis, .group .bracket, .group .brace] then
    return path ++ (← anyGroup)
  else if ← sees (.sign "=") then
    return path ++ (← sign "=") ++ (← attributeValue g).row
  else
    return path

def outerAttributes : Reader Row :=
  whileDue (sees (.sign "#")) (inOrder [sign "#", enclosed .bracket (attributeBody g)])

def innerAttributes : Reader Row :=
  whileDue (return (Token.sign "#").opens (← rest) && (Token.sign "!").opens (← rest).behind)
    (inOrder [sign "#", sign "!", enclosed .bracket (attributeBody g)])

def constantArgument : Reader Row := do
  let ts ← rest
  if ts.startsWith [.literal] then
    literal
  else if ts.startsWith [.name] then
    name
  else if ts.startsWith [.group .brace] then
    enclosed .brace (inOrder [innerAttributes g, g.statements])
  else
    expected []

def startsConstant (ts : Row) : Bool :=
  ts.startsWith [.literal, .group .brace]

def constraintBounds : Reader Row :=
  chained (return (← rest).startsWith [.sign ",", .sign ">"]) "+" (g.boundRow false true)

def angleArgument : Reader (Bool × Row) := do
  let ts ← rest
  if Token.lifetime.opens ts && !(Token.sign "+").opens ts.behind then
    return (true, ← lifetime)
  else if startsConstant ts then
    return (false, ← constantArgument g)
  else
    let t ← g.type true
    match t.shape with
    | .path p =>
      if p.isSingle && (← sees (.sign "=")) then
        let equals ← sign "="
        if startsConstant (← rest) then
          return (false, t.row ++ equals ++ (← constantArgument g))
        else
          return (false, t.row ++ equals ++ (← g.typeRow true))
      else if p.isSingle && (← sees (.sign ":")) then
        return (false, t.row ++ (← sign ":") ++ (← constraintBounds g))
      else
        return (false, t.row)
    | _ => return (false, t.row)

def angleList : Reader (List AngleArgument) :=
  iterate (fun as => do
    if as.getLast?.any (fun a => !a.comma) || (← sees (.sign ">")) then
      return none
    else
      let (isLifetime, row) ← angleArgument g
      if ← sees (.sign ">") then
        return some (as ++ [⟨isLifetime, row, false⟩])
      else
        let _ ← sign ","
        return some (as ++ [⟨isLifetime, row, true⟩])) []

def angleArguments : Reader (Arguments × Row) := do
  let opening ← inOrder [optionalSign "::", sign "<"]
  let as ← angleList g
  return (.angled as.isEmpty, opening ++ AngleArgument.writeAll as ++ (← sign ">"))

def startsArguments (style : PathStyle) (ts : Row) : Bool :=
  style = .type && (Token.sign "<").opens ts && !ts.startsWith [.sign "<=", .sign "<<="]
    || (Token.sign "::").opens ts && (Token.sign "<").opens ts.behind.behind

def segmentName : Reader (Bool × Ident) := do
  let ts ← rest
  let bare := ts.startsWith [.word "super", .word "self", .word "crate", .word "try"]
  let row ← if bare || ts.startsWith [.word "Self"] then anyName else name
  match row with
  | [.ident i] => return (bare, i)
  | _ => missing [.name]

def segment (style : PathStyle) : Reader (Ident × Arguments × Row) := do
  let (bare, i) ← segmentName
  if !bare && startsArguments style (← rest) then
    return (i, ← angleArguments g)
  else
    return (i, .absent, [])

def addSegment (style : PathStyle) (p : PathRow) : Reader PathRow := do
  let colons ← sign "::"
  let (i, arguments, tail) ← segment g style
  return { p with
    segments := p.segments + 1
    plain := p.plain && p.arguments = .absent
    last := i
    head := p.row ++ colons ++ [.ident i]
    arguments := arguments
    tail := tail }

def path (style : PathStyle) : Reader PathRow := do
  let root ← optionalSign "::"
  let (i, arguments, tail) ← segment g style
  iterate (fun p => do
    let ts ← rest
    if (Token.sign "::").opens ts && !(Token.group .parenthesis).opens ts.behind.behind then
      return some (← addSegment g style p)
    else
      return none)
    { rooted := !root.isEmpty, segments := 1, last := i, head := root ++ [.ident i], arguments,
      tail }

def selfType : Reader Row :=
  inOrder [sign "<", g.typeRow true,
    optional (.word "as") (inOrder [word "as", return (← path g .type).row]),
    sign ">"]

def qualifiedPath (style : PathStyle) : Reader PathRow := do
  if ← sees (.sign "<") then
    let self ← selfType g
    let colons ← sign "::"
    let (i, arguments, tail) ← segment g style
    iterate (fun p => do
      if ← sees (.sign "::") then return some (← addSegment g style p) else return none)
      { qualified := true, segments := 1, last := i, head := self ++ colons ++ [.ident i],
        arguments, tail }
  else
    path g style

def result (plus : Bool) : Reader Row :=
  optional (.sign "->") (inOrder [sign "->", g.typeRow plus])

def startsApplication (ts : Row) : Bool :=
  (Token.group .parenthesis).opens ts
    || (Token.sign "::").opens ts && (Token.group .parenthesis).opens ts.behind.behind

def application (p : PathRow) : Reader PathRow := do
  if p.arguments.isEmpty && startsApplication (← rest) then
    let _ ← optionalSign "::"
    let tail ← inOrder [enclosed .parenthesis (items (g.typeRow true)), result g false]
    return { p with arguments := .applied, tail := tail }
  else
    return p

def lifetimeBounds (ended : Reader Bool) : Reader Row :=
  chained ended "+" lifetime

def lifetimeParameter : Reader Row := do
  let head ← lifetime
  if ← sees (.sign ":") then
    let colon ← sign ":"
    let bounds ← lifetimeBounds (return (← rest).startsWith [.sign ",", .sign ">"])
    return if bounds.isEmpty then head else head ++ colon ++ bounds
  else
    return head

def typeParameter : Reader Row := do
  let head ← name
  let bounds ←
    if ← sees (.sign ":") then
      let colon ← sign ":"
      let bounds ← chained (return (← rest).startsWith [.sign ",", .sign ">", .sign "="]) "+"
        (g.boundRow false true)
      pure (if bounds.isEmpty then [] else colon ++ bounds)
    else
      pure []
  let default ← optional (.sign "=") (inOrder [sign "=", g.typeRow true])
  return head ++ bounds ++ default

def constantParameter : Reader Row :=
  inOrder [word "const", name, sign ":", g.typeRow true,
    optional (.sign "=") (inOrder [sign "=", constantArgument g])]

def parameter : Reader Row := do
  let ts ← rest
  if ts.startsWith [.name] then typeParameter g
  else if ts.startsWith [.lifetime] then lifetimeParameter
  else if ts.startsWith [.word "const"] then constantParameter g
  else missing [.name, .lifetime, .word "const"]

def binder : Reader Row :=
  optional (.word "for") (inOrder [word "for", sign "<",
    separated (sees (.sign ">")) "," (inOrder [outerAttributes g, parameter g]), sign ">"])

def capturedNames : Reader Row :=
  iterate (fun row => do
    let ts ← rest
    if (row.isEmpty || endsInComma row) && ts.startsWith [.lifetime, .name, .word "Self"] then
      let item ← if ts.startsWith [.lifetime] then lifetime else anyName
      let after ← rest
      if after.startsWith [.sign ","] then return some (row ++ item ++ (← sign ","))
      else if after.startsWith [.sign ">"] then return some (row ++ item)
      else missing [.sign ",", .sign ">"]
    else if ts.startsWith [.sign ">"] then
      return none
    else
      missing [.lifetime, .name, .sign ">"]) []
where
  endsInComma (row : Row) : Bool :=
    (Token.sign ",").opens (row.drop (row.length - 1))

def captureList : Reader Row :=
  inOrder [word "use", sign "<", capturedNames, sign ">"]

def constantMark (allowed : Bool) : Reader Row := do
  let ts ← rest
  if ts.startsWith [.group .bracket] then
    let row ← enclosed .bracket (word "const")
    if allowed then return row else throw .conditionalBound
  else if ts.startsWith [.word "const"] then
    let row ← word "const"
    if allowed then return row else throw .constantBound
  else
    return []

def namedBound (constants : Bool) : Reader Bound := do
  let lifetimes ← binder g
  let mark ← constantMark constants
  let relaxed ← optionalSign "?"
  let more ← if lifetimes.isEmpty && !relaxed.isEmpty then binder g else pure []
  let p ← application g (← path g .type)
  if !relaxed.isEmpty && !(lifetimes ++ more).isEmpty then
    throw .relaxedBinder
  else
    return {
      kind := if mark.isEmpty then .named else .verbatim
      row := relaxed ++ lifetimes ++ mark ++ p.row }

def readBound (captures constants : Bool) : Reader Bound := do
  let ts ← rest
  if ts.startsWith [.lifetime] then
    return { kind := .lifetime, row := ← lifetime }
  else if ts.startsWith [.word "use"] then
    let row ← captureList
    if captures then return { kind := .capture, row := row } else throw .capture
  else
    let inParentheses := ts.startsWith [.group .parenthesis]
    let (b, taken) ← captured
      (if inParentheses then within .parenthesis (namedBound g constants)
        else namedBound g constants)
    if b.kind = .verbatim then
      return { b with row := taken, bare := taken }
    else if inParentheses then
      return { b with row := [.group .parenthesis b.row] }
    else
      return b

def startsBound (constants : Bool) (ts : Row) : Bool :=
  ts.startsWith [.anyName, .sign "::", .sign "?", .lifetime, .group .parenthesis]
    || constants && ts.startsWith [.group .bracket, .word "const"]

def moreBounds (captures constants : Bool) (before : List Bound × Row) :
    Reader (List Bound × Row) :=
  iterate (fun (bounds, row) => do
    if ← sees (.sign "+") then
      let row := row ++ (← sign "+")
      if startsBound constants (← rest) then
        let b ← g.bound captures constants
        return some (bounds ++ [b], row ++ b.row)
      else
        return some (bounds, row)
    else
      return none) before

end Grammar

end CommandLine.Source
