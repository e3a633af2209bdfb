import CommandLine.Source.Tree

/-! Tokens to look for at the start of a row of trees. -/

namespace CommandLine.Source

abbrev Row := List Tree

inductive Token
  -- a certain word, which may be a keyword
  | word (text : String)
  -- an operator of one or more signs
  | sign (text : String)
  -- an identifier that is no keyword
  | name
  -- an identifier or a keyword
  | anyName
  | lifetime
  -- a literal, a truth value, or a number with a sign of its own
  | literal
  | string
  | group (d : Delimiter)
  deriving DecidableEq, Repr

namespace Token

def describe : Token → String
  | word text | sign text => "`" ++ text ++ "`"
  | name => "identifier"
  | anyName => "ident"
  | lifetime => "lifetime"
  | literal => "literal"
  | string => "string literal"
  | group .parenthesis => "parentheses"
  | group .bracket => "square brackets"
  | group .brace => "curly braces"

def signsOpen : List Char → Row → Bool
  | [], _ => true
  | [c], .punct d _ :: _ => c = d
  | c :: cs, .punct d true :: ts => c = d && signsOpen cs ts
  | _, _ => false

def literalOpens : Row → Bool
  | .literal _ :: _ => true
  | .ident i :: _ => i.isTruth
  | .punct '-' _ :: .literal l :: _ => l.isNumber
  | _ => false

def opens : Token → Row → Bool
  | word text, .ident i :: _ => i = ⟨text, false⟩
  | sign text, ts => signsOpen text.toList ts
  | name, .ident i :: _ => !i.isKeyword
  | anyName, .ident _ :: _ => true
  | lifetime, .punct '\'' true :: .ident _ :: _ => true
  | literal, ts => literalOpens ts
  | string, .literal l :: _ => l.kind = .string
  | group d, .group d' _ :: _ => d = d'
  | _, _ => false

end Token

namespace Row

def behind : Row → Row
  | .punct '\'' true :: .ident _ :: ts => ts
  | _ :: ts => ts
  | [] => []

def startsWith (ts : Row) (tokens : List Token) : Bool :=
  tokens.any fun t => t.opens ts

def ofSigns : List Char → Row
  | [] => []
  | [c] => [.punct c false]
  | c :: cs => .punct c true :: ofSigns cs

def ofWord (text : String) : Row :=
  [.ident ⟨text, false⟩]

def ofWords (texts : List String) : Row :=
  texts.flatMap ofWord

def ofPath (names : List String) : Row :=
  names.flatMap fun name => ofSigns [':', ':'] ++ ofWord name

def ofLocalPath : List String → Row
  | [] => []
  | name :: names => ofWord name ++ ofPath names

def ofGroup (d : Delimiter) (body : Row) : Row :=
  [.group d body]

def separated (t : Tree) (rows : List Row) : Row :=
  [t].intercalate rows

end Row

end CommandLine.Source
