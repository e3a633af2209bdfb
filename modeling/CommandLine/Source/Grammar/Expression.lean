import CommandLine.Source.Grammar.Pattern
import CommandLine.Source.Grammar.Type

/-! Expressions: an operand with what trails it, and operators between operands. -/

namespace CommandLine.Source.Grammar

open Reader

variable (g : Grammar)

def binaryOperators : List (String × Precedence) :=
  [("+=", .assign), ("-=", .assign), ("*=", .assign), ("/=", .assign), ("%=", .assign),
    ("^=", .assign), ("&=", .assign), ("|=", .assign), ("<<=", .assign), (">>=", .assign),
    ("&&", .conjunction), ("||", .disjunction), ("<<", .shift), (">>", .shift), ("==", .compare),
    ("<=", .compare), ("!=", .compare), (">=", .compare), ("+", .sum), ("-", .sum),
    ("*", .product), ("/", .product), ("%", .product), ("^", .bitXor), ("&", .bitAnd),
    ("|", .bitOr), ("<", .compare), (">", .compare)]

def operatorAt? (ts : Row) : Option (String × Precedence) :=
  binaryOperators.find? fun o => (Token.sign o.1).opens ts

def startsAssignment (ts : Row) : Bool :=
  (Token.sign "=").opens ts && !(Token.sign "=>").opens ts

def precedenceAt (ts : Row) : Precedence :=
  match operatorAt? ts with
  | some (_, p) => p
  | none =>
    if startsAssignment ts then .assign
    else if (Token.sign "..").opens ts then .range
    else if (Token.word "as").opens ts then .cast
    else .jump

def startsOnly (text : String) (longer : List String) (ts : Row) : Bool :=
  (Token.sign text).opens ts && !ts.startsWith (longer.map .sign)

def startsExpression (ts : Row) : Bool :=
  (Token.anyName.opens ts && !(Token.word "as").opens ts)
    || ts.startsWith [.group .parenthesis, .group .bracket, .group .brace, .literal]
    || startsOnly "!" ["!="] ts || startsOnly "-" ["-=", "->"] ts || startsOnly "*" ["*="] ts
    || startsOnly "|" ["|="] ts || startsOnly "&" ["&="] ts || startsOnly "<" ["<=", "<<="] ts
    || ts.startsWith [.sign "..", .sign "::", .lifetime, .sign "#"]

def operand (records : Bool) (p : Precedence) : Reader Expression := do
  iterate (fun e => do
    let next := precedenceAt (← rest)
    if p.rank < next.rank || next = p && p = .assign then
      let before ← rest
      let longer ← g.climb records next e
      return if (← rest).length < before.length then some longer else none
    else
      return none) (← g.unary records)

def endsOpenRange (records : Bool) (ts : Row) : Bool :=
  ts.isEmpty
    || ts.startsWith [.sign ",", .sign ";", .sign "?", .sign "=>", .sign "=", .sign "+", .sign "/",
      .sign "%", .sign "^", .sign ">", .sign "<=", .sign "!=", .sign "-=", .sign "*=", .sign "&=",
      .sign "|=", .sign "<<=", .word "as"]
    || startsOnly "." [".."] ts
    || !records && (Token.group .brace).opens ts

def rangeRest (records : Bool) : Reader Row := do
  let (closed, mark) ← rangeLimits false
  if !closed && endsOpenRange records (← rest) then
    return mark
  else
    return mark ++ (← operand g records .range).row

def castFollower? (ts : Row) : Option CastFollower :=
  if startsOnly "." [".."] ts then
    if (Token.word "await").opens ts.behind then some .await
    else if Token.name.opens ts.behind
        && ts.behind.behind.startsWith [.group .parenthesis, .sign "::"] then some .methodCall
    else some .fieldAccess
  else if (Token.sign "?").opens ts then some .question
  else if (Token.group .bracket).opens ts then some .indexing
  else if (Token.group .parenthesis).opens ts then some .call
  else none

def castRest : Reader Row := do
  let row ← inOrder [word "as", g.typeRow false]
  match castFollower? (← rest) with
  | some f => throw (.cast f)
  | none => return row

def climbStep (records : Bool) (base : Precedence) (left : Expression) :
    Reader (Option Expression) := do
  let ts ← rest
  if left.form = .range then
    return none
  else
    match operatorAt? ts with
    | some (text, p) =>
      if p.rank < base.rank then
        return none
      else if p = .compare && left.form = .binary .compare then
        throw .chainedComparison
      else
        let row ← inOrder [sign text, return (← operand g records p).row]
        return some ⟨.binary p, left.row ++ row, left.lead⟩
    | none =>
      if base.rank ≤ Precedence.assign.rank && startsAssignment ts then
        let row ← inOrder [sign "=", return (← operand g records .assign).row]
        return some ⟨.assign, left.row ++ row, left.lead⟩
      else if base.rank ≤ Precedence.range.rank && (Token.sign "..").opens ts then
        let row ← rangeRest g records
        return some ⟨.range, left.row ++ row, .range⟩
      else if base.rank ≤ Precedence.cast.rank && (Token.word "as").opens ts then
        let row ← castRest g
        return some ⟨.cast, left.row ++ row, left.lead⟩
      else
        return none

def readClimb (records : Bool) (base : Precedence) (left : Expression) : Reader Expression :=
  iterate (climbStep g records base) left

def readExpression (records : Bool) : Reader Expression := do
  readClimb g records .jump (← g.unary records)

def callArguments : Reader Row :=
  enclosed .parenthesis (items g.expressionRow)

def positions (l : Literal) : Except SyntaxFault (Row × Bool) := do
  let parts := l.text.splitOn "."
  let opened := parts.getLast? = some ""
  let rows ← (if opened then parts.dropLast else parts).mapM fun part => positionOf ⟨part⟩
  return (rows.flatMap (Row.ofSigns ['.'] ++ ·), opened)

def turbofish : Reader Row :=
  return (← angleArguments g).2

def memberAccess (e : Expression) : Reader Expression := do
  let point := Row.ofSigns ['.']
  if ← sees (.word "await") then
    return ⟨.await, e.row ++ point ++ (← word "await"), .await⟩
  else
    let (named, row) ← member
    let turbofish ← if named then optional (.sign "::") (turbofish g) else pure []
    let row := e.row ++ point ++ row ++ turbofish
    if named && (!turbofish.isEmpty || (← sees (.group .parenthesis))) then
      return ⟨.methodCall, row ++ (← callArguments g), .methodCall⟩
    else
      return ⟨.field, row, .field⟩

def access (e : Expression) : Reader Expression := do
  let _ ← sign "."
  match ← rest with
  | .literal l :: _ =>
    if l.kind = .float then
      advance 1
      let (row, opened) ← positions l
      let inner : Expression := ⟨.field, e.row ++ row, .field⟩
      if opened then memberAccess g inner else return inner
    else
      memberAccess g e
  | .punct '-' _ :: .literal l :: _ =>
    if l.kind = .float then
      throw (if l.text.contains '.' then .indexSign else .expected [.wholeNumber] false)
    else
      memberAccess g e
  | _ => memberAccess g e

def trailerStep (e : Expression) : Reader (Option Expression) := do
  let ts ← rest
  let isRange := e.form = .range
  if ts.startsWith [.group .parenthesis] then
    return some ⟨.call, e.row ++ (← callArguments g), .call⟩
  else if startsOnly "." [".."] ts && !isRange then
    return some (← access g e)
  else if ts.startsWith [.group .bracket] then
    return some ⟨.index, e.row ++ (← enclosed .bracket g.expressionRow), .index⟩
  else if (Token.sign "?").opens ts && !isRange then
    return some ⟨.trying, e.row ++ (← sign "?"), .trying⟩
  else
    return none

def trailers (e : Expression) : Reader Expression :=
  iterate (trailerStep g) e

def block : Reader Row :=
  enclosed .brace g.statements

def closureParameter : Reader Row := do
  let attributes ← outerAttributes g
  let p ← g.pattern
  if ← sees (.sign ":") then
    return attributes ++ p.row ++ (← inOrder [sign ":", g.typeRow true])
  else
    return if p.shape = .verbatim then p.row else attributes ++ p.row

def closure (records : Bool) : Reader Row :=
  inOrder [binder g, optionalWord "const", optionalWord "static", optionalWord "async",
    optionalWord "move", sign "|", separated (sees (.sign "|")) "," (closureParameter g), sign "|",
    do
      if ← sees (.sign "->") then
        inOrder [sign "->", g.typeRow true, block g]
      else
        return (← g.expression records).row]

def fieldValue : Reader Row := do
  let attributes ← outerAttributes g
  let (named, row) ← member
  if !named || (← sees (.sign ":")) then
    return attributes ++ row ++ (← inOrder [sign ":", g.expressionRow])
  else
    return attributes ++ row

def fieldValues : Reader Row :=
  return (← iterate (fun (row, ended) => do
    if ended || (← atEnd) then
      return none
    else if ← sees (.sign "..") then
      let dots ← sign ".."
      if ← atEnd then
        return some (row ++ dots, true)
      else
        return some (row ++ dots ++ (← g.expressionRow), true)
    else
      let row := row ++ (← fieldValue g)
      if ← atEnd then return some (row, true) else return some (row ++ (← sign ","), false))
    ([], false)).1

def pathExpression (records : Bool) : Reader Expression := do
  let p ← qualifiedPath g .expression
  let ts ← rest
  if p.isPlain && (Token.sign "!").opens ts && !(Token.sign "!=").opens ts then
    return ⟨.invocation, p.row ++ (← sign "!") ++ (← anyGroup), .invocation⟩
  else if records && ts.startsWith [.group .brace] then
    return ⟨.record, p.row ++ (← enclosed .brace (fieldValues g)), .record⟩
  else
    return ⟨.path, p.row, .path⟩

def parenthesizedExpression : Reader Expression := do
  let (form, row) ← within .parenthesis do
    if ← atEnd then
      return (Form.tuple, [])
    else
      let first ← g.expressionRow
      if ← atEnd then
        return (Form.paren, first)
      else
        return (Form.tuple, first ++ (← sign ",") ++ (← items g.expressionRow))
  return ⟨form, [.group .parenthesis row], form⟩

def bracketedExpression : Reader Expression := do
  let (form, row) ← within .bracket do
    if ← atEnd then
      return (Form.array, [])
    else
      let first ← g.expressionRow
      if ← atEnd then
        return (Form.array, first)
      else if ← sees (.sign ",") then
        return (Form.array, first ++ (← sign ",") ++ (← items g.expressionRow))
      else if ← sees (.sign ";") then
        return (Form.repetition, first ++ (← sign ";") ++ (← g.expressionRow))
      else
        expected [.elementEnd]
  return ⟨form, [.group .bracket row], form⟩

def optionalOperand : Reader Row := do
  if startsExpression (← rest) then g.expressionRow else return []

def breaking (records : Bool) : Reader Row := do
  let head ← word "break"
  let ts ← rest
  if Token.lifetime.opens ts && (Token.sign ":").opens ts.behind then
    let _ ← g.expression true
    throw .labelledOperand
  else
    let label ← optional .lifetime lifetime
    if records || !(← sees (.group .brace)) then
      return head ++ label ++ (← optionalOperand g)
    else
      return head ++ label

def binding (records : Bool) : Reader Row :=
  inOrder [word "let", anyPatternRow g, sign "=",
    return (← g.climb records .compare (← g.unary records)).row]

def condition : Reader Row :=
  return (← g.expression false).row

def conditional : Reader Row := do
  let branch := inOrder [word "if", condition g, block g]
  let (row, _) ← iterate (fun (row, ended) => do
    if ended || !(← sees (.word "else")) then
      return none
    else
      let row := row ++ (← word "else")
      if ← sees (.word "if") then return some (row ++ (← branch), false)
      else if ← sees (.group .brace) then return some (row ++ (← block g), true)
      else missing [.word "if", .group .brace]) (← branch, false)
  return row

def whileLoop : Reader Row :=
  inOrder [word "while", condition g, attributedBlock g]

def forLoop : Reader Row :=
  inOrder [word "for", anyPatternRow g, word "in", condition g, attributedBlock g]

def loop : Reader Row :=
  inOrder [word "loop", attributedBlock g]

def labelled : Reader Expression := do
  let label ← inOrder [lifetime, sign ":"]
  let ts ← rest
  if ts.startsWith [.word "while"] then
    return ⟨.whileLoop, label ++ (← whileLoop g), .whileLoop⟩
  else if ts.startsWith [.word "for"] then
    return ⟨.forLoop, label ++ (← forLoop g), .forLoop⟩
  else if ts.startsWith [.word "loop"] then
    return ⟨.loop, label ++ (← loop g), .loop⟩
  else if ts.startsWith [.group .brace] then
    return ⟨.block, label ++ (← attributedBlock g), .block⟩
  else
    expected [.labelled]

def arm : Reader Row := do
  let head ← inOrder [outerAttributes g, anyPatternRow g,
    optional (.word "if") (inOrder [word "if", g.expressionRow]), sign "=>"]
  let body ← g.boundary
  let comma ← if body.form.isBlockLike || (← atEnd) then optionalSign "," else sign ","
  return head ++ body.row ++ comma

def selection : Reader Row :=
  inOrder [word "match", condition g,
    enclosed .brace (inOrder [innerAttributes g, toEnd (arm g)])]

def startsBinder (ts : Row) : Bool :=
  (Token.word "for").opens ts && (Token.sign "<").opens ts.behind
    && ts.behind.behind.startsWith [.lifetime, .sign ">"]

def startsClosure (ts : Row) : Bool :=
  ts.startsWith [.sign "|", .word "move", .word "static"] || startsBinder ts
    || (Token.word "const").opens ts && !(Token.group .brace).opens ts.behind
    || (Token.word "async").opens ts && ts.behind.startsWith [.sign "|", .word "move"]

def startsAsyncBlock (ts : Row) : Bool :=
  (Token.word "async").opens ts
    && ((Token.group .brace).opens ts.behind
      || (Token.word "move").opens ts.behind && (Token.group .brace).opens ts.behind.behind)

def startsWordBrace (text : String) (ts : Row) : Bool :=
  (Token.word text).opens ts && (Token.group .brace).opens ts.behind

def startsBuiltin (ts : Row) : Bool :=
  (Token.word "builtin").opens ts && (Token.sign "#").opens ts.behind

def startsPath (ts : Row) : Bool :=
  ts.startsWith pathStarts
    || (Token.word "try").opens ts && ts.behind.startsWith [.sign "!", .sign "::"]

def formed (form : Form) (r : Reader Row) : Reader Expression :=
  return ⟨form, ← r, form⟩

def blockChoices : List (Choice Expression) :=
  [⟨(·.startsWith [.word "if"]), formed .conditional (conditional g)⟩,
   ⟨(·.startsWith [.word "while"]), formed .whileLoop (whileLoop g)⟩,
   ⟨fun ts => (Token.word "for").opens ts && !startsBinder ts, formed .forLoop (forLoop g)⟩,
   ⟨(·.startsWith [.word "loop"]), formed .loop (loop g)⟩,
   ⟨(·.startsWith [.word "match"]), formed .selection (selection g)⟩,
   ⟨startsWordBrace "try", formed .tryBlock (inOrder [word "try", block g])⟩,
   ⟨(·.startsWith [.word "unsafe"]),
    formed .uncheckedBlock (inOrder [word "unsafe", attributedBlock g])⟩,
   ⟨startsWordBrace "const", formed .constBlock (constantBlock g)⟩,
   ⟨(·.startsWith [.group .brace]), formed .block (attributedBlock g)⟩,
   ⟨(·.startsWith [.lifetime]), labelled g⟩]

def literalExpression : Reader Expression := do
  let row ← literal
  match row with
  | [.literal l] => return ⟨.literal l, row, .literal l⟩
  | _ => return ⟨.truth, row, .truth⟩

def atomChoices (records : Bool) : List (Choice Expression) :=
  [⟨(·.startsWith [.literal]), literalExpression⟩,
   ⟨startsAsyncBlock,
    formed .asyncBlock (inOrder [word "async", optionalWord "move", block g])⟩,
   ⟨startsClosure, formed .closure (closure g records)⟩,
   ⟨startsBuiltin,
    formed .verbatim (asWritten (inOrder
      [word "builtin", sign "#", name, group .parenthesis]))⟩,
   ⟨startsPath, pathExpression g records⟩,
   ⟨(·.startsWith [.group .parenthesis]), parenthesizedExpression g⟩,
   ⟨(·.startsWith [.word "break"]), formed .breaking (breaking g records)⟩,
   ⟨(·.startsWith [.word "continue"]),
    formed .continuing (inOrder [word "continue", optional .lifetime lifetime])⟩,
   ⟨(·.startsWith [.word "return"]),
    formed .returning (inOrder [word "return", optionalOperand g])⟩,
   ⟨(·.startsWith [.word "become"]),
    formed .verbatim (asWritten (inOrder [word "become", g.expressionRow]))⟩,
   ⟨(·.startsWith [.group .bracket]), bracketedExpression g⟩,
   ⟨(·.startsWith [.word "let"]), formed .binding (binding g records)⟩,
   ⟨(·.startsWith [.word "yield"]),
    formed .yielding (inOrder [word "yield", optionalOperand g])⟩,
   ⟨(·.startsWith [.sign ".."]), formed .range (rangeRest g records)⟩,
   ⟨(·.startsWith [.word "_"]), formed .infer (word "_")⟩] ++ blockChoices g

def reference (records : Bool) : Reader Expression := do
  let mark ← sign "&"
  let ts ← rest
  if (Token.word "raw").opens ts && ts.behind.startsWith [.word "mut", .word "const"] then
    let row ← inOrder [word "raw", anyName, return (← g.unary records).row]
    return ⟨.rawReference, mark ++ row, .rawReference⟩
  else
    let row ← inOrder [optionalWord "mut", return (← g.unary records).row]
    return ⟨.reference, mark ++ row, .reference⟩

def readOperand (records : Bool) : Reader Expression := do
  let ts ← rest
  if ts.startsWith [.sign "&"] then
    reference g records
  else
    match ["*", "!", "-"].find? fun text => (Token.sign text).opens ts with
    | some text =>
      formed .unary (inOrder [sign text, return (← g.unary records).row])
    | none => trailers g (← choose (atomChoices g records) (expected [.expression]))

def readUnary (records : Bool) : Reader Expression := do
  let ((attributes, e), taken) ← captured do
    let attributes ← outerAttributes g
    return (attributes, ← readOperand g records)
  if e.form = .verbatim then
    return { e with row := taken }
  else if e.form = .range && !attributes.isEmpty then
    throw .attributeOnRange
  else
    return e.withAttributes attributes

/-- An expression that ends as early as it could as a statement: a block goes on only by a point or a question mark. -/
def readBoundary : Reader Expression := do
  let attributes ← outerAttributes g
  match (blockChoices g).find? (·.starts (← rest)) with
  | some c =>
    let e ← c.read
    let ts ← rest
    if startsOnly "." [".."] ts || (Token.sign "?").opens ts then
      readClimb g true .jump ((← trailers g e).withStatementAttributes attributes)
    else
      return e.withStatementAttributes attributes
  | none => readClimb g true .jump ((← g.unary true).withStatementAttributes attributes)

end CommandLine.Source.Grammar
