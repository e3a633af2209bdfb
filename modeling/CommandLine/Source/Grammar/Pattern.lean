import CommandLine.Source.Grammar.Path

namespace CommandLine.Source.Grammar

open Reader

variable (g : Grammar)

def startsBar (ts : Row) : Bool :=
  (Token.sign "|").opens ts && !ts.startsWith [.sign "||", .sign "|="]

def anyPattern : Reader Pattern := do
  let leading ← optionalSign "|"
  let first ← g.pattern
  if leading.isEmpty && !startsBar (← rest) then
    return first
  else
    let row ← whileDue (return startsBar (← rest)) (inOrder [sign "|", return (← g.pattern).row])
    return ⟨leading ++ first.row ++ row, .other⟩

def anyPatternRow : Reader Row :=
  return (← anyPattern g).row

def attributedBlock : Reader Row :=
  enclosed .brace (inOrder [innerAttributes g, g.statements])

def constantBlock : Reader Row :=
  inOrder [word "const", attributedBlock g]

def endsRange (ts : Row) : Bool :=
  ts.isEmpty || ts.startsWith [.sign "|", .sign "=", .sign ",", .sign ";", .word "if"]
    || (Token.sign ":").opens ts && !(Token.sign "::").opens ts

def rangeBound : Reader Row := do
  let ts ← rest
  if endsRange ts then
    return []
  else if ts.startsWith [.literal] then
    literal
  else if ts.startsWith pathTokens then
    return (← qualifiedPath g .expression).row
  else if ts.startsWith [.word "const"] then
    constantBlock g
  else
    missing ([.literal] ++ pathTokens ++ [.word "const"])
where
  pathTokens : List Token :=
    [.name, .sign "::", .sign "<", .word "self", .word "Self", .word "super", .word "crate"]

def rangeLimits (old : Bool) : Reader (Bool × Row) := do
  let ts ← rest
  if !(Token.sign "..").opens ts then
    missing [.sign ".."]
  else if (Token.sign "..=").opens ts then
    return (true, ← sign "..=")
  else if (Token.sign "...").opens ts then
    if old then
      let _ ← sign "..."
      return (true, Row.ofSigns "..=".toList)
    else
      missing [.sign "..="]
  else
    return (false, ← sign "..")

def rangeFrom (lower : Row) : Reader Pattern := do
  let (closed, mark) ← rangeLimits true
  let upper ← rangeBound g
  if closed && upper.isEmpty then
    expected [.rangeEnd]
  else
    return ⟨lower ++ mark ++ upper, if upper.isEmpty then .openRange else .other⟩

def rangeTo : Reader Pattern := do
  let (closed, mark) ← rangeLimits false
  let upper ← rangeBound g
  if !upper.isEmpty then
    return ⟨mark ++ upper, .openRange⟩
  else if closed then
    expected [.rangeEnd]
  else
    return ⟨mark, .rest⟩

def literalPattern : Reader Pattern := do
  let lower ← rangeBound g
  if ← sees (.sign "..") then rangeFrom g lower else return ⟨lower, .other⟩

def positionOf (l : Literal) : Except SyntaxFault Row :=
  match l.wholeNumber? with
  | some (n, suffix) =>
    if suffix ≠ "" then .error .indexSuffix
    else if Nat.pow 2 32 ≤ n then .error .indexSize
    else .ok [.literal ⟨toString n⟩]
  | none => .error (.expected [.wholeNumber] false)

def negativePosition (l : Literal) : SyntaxFault :=
  match positionOf l with
  | .error .indexSize | .ok _ => .indexSign
  | .error f => f

def member : Reader (Bool × Row) := do
  let ts ← rest
  match ts with
  | .ident _ :: _ => if ts.startsWith [.name] then return (true, ← name) else expected [.memberName]
  | .literal l :: _ =>
    if l.kind = .integer then
      advance 1
      return (false, ← positionOf l)
    else
      expected [.memberName]
  | .punct '-' _ :: .literal l :: _ =>
    if l.kind = .integer then throw (negativePosition l) else expected [.memberName]
  | _ => expected [.memberName]

def fieldPattern : Reader Row := do
  let (boxed, taken) ← captured do
    let box ← optionalWord "box"
    let marks ← inOrder [optionalWord "ref", optionalWord "mut"]
    let bare := box.isEmpty && marks.isEmpty
    let (named, row) ← if bare then member else pure (true, ← name)
    if bare && (← sees (.sign ":")) || !named then
      return (false, row ++ (← sign ":") ++ (← anyPatternRow g))
    else
      return (!box.isEmpty, marks ++ row)
  return if boxed.1 then taken else boxed.2

def fieldPatterns : Reader Row :=
  return (← iterate (fun (row, ended) => do
    if ended || (← atEnd) then
      return none
    else
      let attributes ← outerAttributes g
      if ← sees (.sign "..") then
        return some (row ++ attributes ++ (← sign ".."), true)
      else
        let row := row ++ attributes ++ (← fieldPattern g)
        if ← atEnd then return some (row, true) else return some (row ++ (← sign ","), false))
    ([], false)).1

def pathPattern : Reader Pattern := do
  let p ← qualifiedPath g .expression
  let ts ← rest
  if p.isPlain && (Token.sign "!").opens ts && !(Token.sign "!=").opens ts then
    return ⟨p.row ++ (← sign "!") ++ (← anyGroup), .other⟩
  else if ts.startsWith [.group .brace] then
    return ⟨p.row ++ (← enclosed .brace (fieldPatterns g)), .other⟩
  else if ts.startsWith [.group .parenthesis] then
    return ⟨p.row ++ (← enclosed .parenthesis (items (anyPatternRow g))), .other⟩
  else if ts.startsWith [.sign ".."] then
    rangeFrom g p.row
  else
    return ⟨p.row, .other⟩

def namePattern : Reader Row :=
  inOrder [optionalWord "ref", optionalWord "mut",
    do if ← sees (.word "self") then anyName else name,
    optional (.sign "@") (inOrder [sign "@", return (← g.pattern).row])]

def slicePattern : Reader Row := do
  let p ← anyPattern g
  if p.shape = .openRange then throw .openRangeInSlice else return p.row

def startsPathPattern (ts : Row) : Bool :=
  (Token.name.opens ts
    && ts.behind.startsWith
      [.sign "::", .sign "!", .group .brace, .group .parenthesis, .sign ".."])
  || ((Token.word "self").opens ts && (Token.sign "::").opens ts.behind)
  || ts.startsWith [.sign "::", .sign "<", .word "Self", .word "super", .word "crate"]

def patternChoices : List (Choice Pattern) :=
  let plain (r : Reader Row) : Reader Pattern := return ⟨← r, .other⟩
  [⟨startsPathPattern, pathPattern g⟩,
   ⟨(·.startsWith [.word "_"]), plain (word "_")⟩,
   ⟨(·.startsWith [.word "box"]),
    return ⟨← asWritten (inOrder [word "box", return (← g.pattern).row]), .verbatim⟩⟩,
   ⟨(·.startsWith [.sign "-", .literal, .word "const"]), literalPattern g⟩,
   ⟨(·.startsWith [.word "ref", .word "mut", .word "self", .name]), plain (namePattern g)⟩,
   ⟨(·.startsWith [.sign "&"]),
    plain (inOrder [sign "&", optionalWord "mut", return (← g.pattern).row])⟩,
   ⟨(·.startsWith [.group .parenthesis]),
    plain (enclosed .parenthesis (items (anyPatternRow g)))⟩,
   ⟨(·.startsWith [.group .bracket]), plain (enclosed .bracket (items (slicePattern g)))⟩,
   ⟨fun ts => (Token.sign "..").opens ts && !(Token.sign "...").opens ts, rangeTo g⟩]

def patternStarts : List Token :=
  [.name, .sign "::", .sign "<", .word "_", .literal, .word "const", .word "ref", .word "mut",
    .sign "&", .group .parenthesis, .group .bracket, .sign ".."]

def readPattern : Reader Pattern := do
  let ts ← rest
  choose (patternChoices g) (missing (patternStarts.filter fun t => !t.opens ts))

end CommandLine.Source.Grammar
