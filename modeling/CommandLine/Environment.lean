import CommandLine.Run

/-! Reading the arguments of the running process, with the lines that are logged on the way. -/

namespace CommandLine

namespace Log

def head : String := "DEBUG clitag_core: "

def linesFrom (line : List Char) : List Char → List String
  | [] => [String.ofList line.reverse]
  | '\r' :: '\n' :: cs => String.ofList line.reverse :: linesFrom [] cs
  | '\n' :: cs => String.ofList line.reverse :: linesFrom [] cs
  | c :: cs => linesFrom (c :: line) cs

def lines (entry : String) : List String :=
  linesFrom [] entry.toList

end Log

namespace Command

def startEntry (c : Command) (items : List String) : String :=
  s!"{Log.head}parsing process arguments command=\"{c.ident.text}\" tokens={items.length}"

def failureEntry (c : Command) (e : ArgsError) : String :=
  s!"{Log.head}failed to parse process arguments command=\"{c.ident.text}\" error={e.message}"

def runLogged (c : Command) (items : List String) : Except ArgsError Record × List String :=
  match c.run items with
  | .ok r => (.ok r, Log.lines (c.startEntry items))
  | .error e => (.error e, Log.lines (c.startEntry items) ++ Log.lines (c.failureEntry e))

end Command

end CommandLine
