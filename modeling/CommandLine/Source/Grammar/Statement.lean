import CommandLine.Source.Grammar.Expression

namespace CommandLine.Source.Grammar

open Reader

variable (g : Grammar)

def semicolons : Reader Row :=
  whileDue (sees (.sign ";")) (sign ";")

def startsItem (ts : Row) : Bool :=
  let second := ts.behind
  let third := second.behind
  ts.startsWith [.word "pub", .word "extern", .word "use", .word "fn", .word "mod", .word "type",
      .word "struct", .word "enum", .word "trait", .word "impl", .word "macro"]
    || (Token.word "crate").opens ts && !(Token.sign "::").opens second
    || (Token.word "static").opens ts
      && ((Token.word "mut").opens second
        || Token.name.opens second
          && !((Token.word "async").opens second && third.startsWith [.word "move", .sign "|"]))
    || (Token.word "const").opens ts
      && !(second.startsWith [.group .brace, .word "static", .word "move", .sign "|"]
        || (Token.word "async").opens second
          && !third.startsWith [.word "unsafe", .word "extern", .word "fn"])
    || (Token.word "unsafe").opens ts && !(Token.group .brace).opens second
    || (Token.word "async").opens ts
      && second.startsWith [.word "unsafe", .word "extern", .word "fn"]
    || (Token.word "union").opens ts && Token.name.opens second
    || (Token.word "auto").opens ts && (Token.word "trait").opens second
    || (Token.word "default").opens ts && second.startsWith [.word "unsafe", .word "impl"]

def behindInvoked : Reader Row := do
  match ← preview (do let _ ← plainPath; rest) with
  | .ok ts => if (Token.sign "!").opens ts then return ts else return []
  | .error _ => return []

def invokesBlock (ts : Row) : Bool :=
  (Token.group .brace).opens ts.behind
    && !(startsOnly "." [".."] ts.behind.behind || (Token.sign "?").opens ts.behind.behind)

def variableStatement : Reader Row := do
  let head ← inOrder [word "let", return (← g.pattern).row,
    optional (.sign ":") (inOrder [sign ":", g.typeRow true])]
  if ← sees (.sign "=") then
    let equals ← sign "="
    let value ← g.expression true
    let otherwise ←
      if value.endsInBrace then pure []
      else optional (.word "else") (inOrder [word "else", block g])
    return head ++ equals ++ value.row ++ otherwise ++ (← sign ";")
  else
    return head ++ (← sign ";")

def statement : Reader (Row × Bool) := do
  let s ← get
  let attributes ← outerAttributes g
  let ts ← rest
  let invoked ← behindInvoked
  if invokesBlock invoked then
    let row ← inOrder [plainPath, sign "!", anyGroup, optionalSign ";"]
    return (attributes ++ row, false)
  else if (Token.word "let").opens ts then
    return (attributes ++ (← variableStatement g), false)
  else if startsItem ts || invoked.behind.startsWith [.name, .word "try"] then
    set s
    return (← g.item, false)
  else
    let e := (← g.boundary).withStatementAttributes attributes
    if ← sees (.sign ";") then
      return (e.row ++ (← sign ";"), false)
    else
      let complete := e.form.isBlockLike || e.form = .invocation && e.endsInBrace
      return (e.row, !complete)

def readStatements : Reader Row := do
  let first ← semicolons
  let others ← toEnd do
    let (row, incomplete) ← statement g
    if incomplete && !(← atEnd) then
      throw .statement
    else
      return row ++ (← semicolons)
  return first ++ others

end CommandLine.Source.Grammar
