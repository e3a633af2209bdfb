import CommandLine.Source.Tree
import CommandLine.Text.Blank

/-! From source text to token trees. -/

namespace CommandLine.Source

inductive Lexeme
  | opening (d : Delimiter)
  | closing (d : Delimiter)
  | leaf (t : Tree)

namespace Lexer

def afterBlock : Nat → List Char → Option (List Char)
  | _, [] => none
  | depth, '/' :: '*' :: cs => afterBlock (depth + 1) cs
  | 0, '*' :: '/' :: cs => some cs
  | depth + 1, '*' :: '/' :: cs => afterBlock depth cs
  | depth, _ :: cs => afterBlock depth cs

def spanLine : List Char → List Char × List Char
  | [] => ([], [])
  | '\n' :: cs => ([], '\n' :: cs)
  | '\r' :: '\n' :: cs => ([], '\n' :: cs)
  | c :: cs => (c :: (spanLine cs).1, (spanLine cs).2)

def skipOne? (cs : List Char) : Option (List Char) :=
  match cs with
  | '/' :: '/' :: rest =>
    match rest with
    | '/' :: '/' :: _ => some (spanLine rest).2
    | '/' :: _ => none
    | '!' :: _ => none
    | _ => some (spanLine rest).2
  | '/' :: '*' :: rest =>
    match rest with
    | '*' :: '/' :: after => some after
    | '*' :: '*' :: _ => afterBlock 0 rest
    | '*' :: _ => none
    | '!' :: _ => none
    | _ => afterBlock 0 rest
  | c :: rest => if Text.isBlank c then some rest else none
  | [] => none

def skipBlank (cs : List Char) : List Char :=
  match skipOne? cs with
  | some rest => if _h : rest.length < cs.length then skipBlank rest else cs
  | none => cs
termination_by cs.length

def hasBareReturn : List Char → Bool
  | [] => false
  | '\r' :: '\n' :: cs => hasBareReturn cs
  | '\r' :: _ => true
  | _ :: cs => hasBareReturn cs

def docLexemes (inner : Bool) (text : List Char) : Option (List Lexeme) :=
  if hasBareReturn text then
    none
  else
    some (.leaf (.punct '#' false) :: (if inner then [.leaf (.punct '!' false)] else []) ++
      [.opening .bracket, .leaf (.ident ⟨"doc", false⟩), .leaf (.punct '=' false),
        .leaf (.literal (.ofString (String.ofList text))), .closing .bracket])

def blockText (cs : List Char) : Option (List Char × List Char) :=
  (afterBlock 0 cs).map fun rest => (cs.take (cs.length - rest.length - 2), rest)

def docText? (cs : List Char) : Option (Bool × List Char × List Char) :=
  match cs with
  | '/' :: '/' :: '!' :: rest => some (true, spanLine rest)
  | '/' :: '/' :: '/' :: rest => some (false, spanLine rest)
  | '/' :: '*' :: '!' :: rest => (blockText rest).map (true, ·)
  | '/' :: '*' :: '*' :: rest => (blockText rest).map (false, ·)
  | _ => none

def docComment? (cs : List Char) : Option (List Lexeme × List Char) :=
  match docText? cs with
  | some (inner, text, rest) => (docLexemes inner text).map (·, rest)
  | none => none

def spanQuoted (quote : Char) : List Char → Option (List Char × List Char)
  | [] => none
  | '\\' :: c :: cs => (spanQuoted quote cs).map fun (body, rest) => ('\\' :: c :: body, rest)
  | c :: cs =>
    if c = quote then some ([c], cs)
    else (spanQuoted quote cs).map fun (body, rest) => (c :: body, rest)

def spanRaw (marks : Nat) : List Char → Option (List Char × List Char)
  | [] => none
  | c :: cs =>
    if c = '"' ∧ (List.replicate marks '#').isPrefixOf cs then
      some (c :: cs.take marks, cs.drop marks)
    else
      (spanRaw marks cs).map fun (body, rest) => (c :: body, rest)

def spanRawString (cs : List Char) : Option (List Char × List Char) :=
  let marks := (cs.takeWhile (· = '#')).length
  match cs.drop marks with
  | '"' :: rest =>
    (spanRaw marks rest).map fun (body, after) => (cs.take marks ++ '"' :: body, after)
  | _ => none

def spanCharacter : List Char → Option (List Char × List Char)
  | '\\' :: c :: cs => (spanQuoted '\'' cs).map fun (body, rest) => ('\\' :: c :: body, rest)
  | c :: '\'' :: cs => some ([c, '\''], cs)
  | _ => none

def isWordChar (c : Char) : Bool :=
  Text.isIdentifierContinue c

def spanWord (cs : List Char) : List Char × List Char :=
  (cs.takeWhile isWordChar, cs.dropWhile isWordChar)

def isDecimalChar (c : Char) : Bool :=
  c.isDigit || c = '_'

def spanExponent (sign value : Bool) : List Char → Option (List Char × List Char)
  | [] => if value then some ([], []) else none
  | c :: cs =>
    if (c = '+' || c = '-') && !value then
      if sign then none else (spanExponent true value cs).map fun (body, rest) => (c :: body, rest)
    else if isDecimalChar c then
      (spanExponent sign (value || c.isDigit) cs).map fun (body, rest) => (c :: body, rest)
    else if value then some ([], c :: cs)
    else none

def spanScaled (before : List Char) (point : Bool) : List Char → Option (List Char × List Char)
  | c :: cs =>
    if c = 'e' || c = 'E' then
      match spanExponent false false cs with
      | some (body, rest) => some (before ++ c :: body, rest)
      | none => if point then some (before, c :: cs) else none
    else if point then some (before, c :: cs)
    else none
  | [] => if point then some (before, []) else none

def spanFloat (cs : List Char) : Option (List Char × List Char) :=
  let whole := cs.takeWhile isDecimalChar
  match cs.dropWhile isDecimalChar with
  | '.' :: rest =>
    if rest.head?.any fun c => c = '.' || Text.isIdentifierStart c then none
    else
      spanScaled (whole ++ '.' :: rest.takeWhile isDecimalChar) true (rest.dropWhile isDecimalChar)
  | rest => spanScaled whole false rest

/-- Splits the digits of a base off, of which there is at least one. Letters that are no digits of the base end the
number, other digits spoil it. -/
def spanDigits (base : Nat) (found : Bool) : List Char → Option (List Char × List Char)
  | [] => if found then some ([], []) else none
  | c :: cs =>
    let next (found : Bool) := (spanDigits base found cs).map fun (body, rest) => (c :: body, rest)
    if c = '_' then next found
    else
      match Escape.hexDigit? c with
      | some d =>
        if d < base then next true
        else if c.isDigit then none
        else if found then some ([], c :: cs)
        else none
      | none => if found then some ([], c :: cs) else none

def spanInteger (cs : List Char) : Option (List Char × List Char) :=
  let based (base : Nat) (mark : Char) (digits : List Char) :=
    (spanDigits base false digits).map fun (body, rest) => ('0' :: mark :: body, rest)
  match cs with
  | '0' :: 'x' :: digits => based 16 'x' digits
  | '0' :: 'o' :: digits => based 8 'o' digits
  | '0' :: 'b' :: digits => based 2 'b' digits
  | _ => spanDigits 10 false cs

def withSuffix : List Char × List Char → Option (List Char × List Char)
  | (body, c :: rest) =>
    if Text.isIdentifierStart c then
      some (body ++ (spanWord (c :: rest)).1, (spanWord (c :: rest)).2)
    else if isWordChar c then none
    else some (body, c :: rest)
  | (body, []) => some (body, [])

def spanNumber (cs : List Char) : Option (List Char × List Char) :=
  match (spanFloat cs).bind withSuffix with
  | some r => some r
  | none => (spanInteger cs).bind withSuffix

def quotedLiteral (letters : List Char) : Option (List Char × List Char) →
    Option (Literal × List Char)
  | none => none
  | some (body, rest) =>
    match rest with
    | c :: _ =>
      if Text.isIdentifierStart c then
        some (⟨String.ofList (letters ++ body ++ (spanWord rest).1)⟩, (spanWord rest).2)
      else
        some (⟨String.ofList (letters ++ body)⟩, rest)
    | [] => some (⟨String.ofList (letters ++ body)⟩, rest)

def literal? (cs : List Char) : Option (Literal × List Char) :=
  match cs with
  | '"' :: rest => quotedLiteral ['"'] (spanQuoted '"' rest)
  | 'r' :: '"' :: _ => quotedLiteral ['r'] (spanRawString (cs.drop 1))
  | 'r' :: '#' :: _ => quotedLiteral ['r'] (spanRawString (cs.drop 1))
  | 'b' :: '"' :: rest => quotedLiteral ['b', '"'] (spanQuoted '"' rest)
  | 'b' :: '\'' :: rest => quotedLiteral ['b', '\''] (spanCharacter rest)
  | 'b' :: 'r' :: rest => quotedLiteral ['b', 'r'] (spanRawString rest)
  | 'c' :: '"' :: rest => quotedLiteral ['c', '"'] (spanQuoted '"' rest)
  | 'c' :: 'r' :: rest => quotedLiteral ['c', 'r'] (spanRawString rest)
  | '\'' :: rest => quotedLiteral ['\''] (spanCharacter rest)
  | c :: _ =>
    if c.isDigit then (spanNumber cs).map fun (body, rest) => (⟨String.ofList body⟩, rest) else none
  | [] => none

def literalStarts : List (List Char) :=
  [['r', '"'], ['r', '#', '"'], ['r', '#', '#'], ['b', '"'], ['b', '\''], ['b', 'r', '"'],
    ['b', 'r', '#'], ['c', '"'], ['c', 'r', '"'], ['c', 'r', '#']]

def ident? (cs : List Char) : Option (Ident × List Char) :=
  if literalStarts.any fun s => s.isPrefixOf cs then none else Ident.span? cs

def signs : List Char :=
  ['~', '!', '@', '#', '$', '%', '^', '&', '*', '-', '=', '+', '|', ';', ':', ',', '<', '.', '>',
    '/', '?']

def startsWithSign : List Char → Bool
  | '/' :: '/' :: _ => false
  | '/' :: '*' :: _ => false
  | c :: _ => c ∈ signs || c = '\''
  | [] => false

def punct? (cs : List Char) : Option (Tree × List Char) :=
  match cs with
  | '\'' :: rest =>
    match Ident.span? rest with
    | some (_, '\'' :: _) => none
    | some (i, '#' :: _) => if i.raw then some (.punct '\'' true, rest) else none
    | some _ => some (.punct '\'' true, rest)
    | none => none
  | c :: rest =>
    if startsWithSign cs then some (.punct c (startsWithSign rest), rest) else none
  | [] => none

def errorMark : List Char :=
  Literal.error.text.toList

def next? (cs : List Char) : Option (List Lexeme × List Char) :=
  match cs with
  | '(' :: rest =>
    if errorMark.isPrefixOf cs then
      some ([.leaf (.literal Literal.error)], cs.drop errorMark.length)
    else
      some ([.opening .parenthesis], rest)
  | '[' :: rest => some ([.opening .bracket], rest)
  | '\x7b' :: rest => some ([.opening .brace], rest)
  | ')' :: rest => some ([.closing .parenthesis], rest)
  | ']' :: rest => some ([.closing .bracket], rest)
  | '\x7d' :: rest => some ([.closing .brace], rest)
  | _ =>
    match docComment? cs with
    | some r => some r
    | none =>
      match literal? cs with
      | some (l, rest) => some ([.leaf (.literal l)], rest)
      | none =>
        match punct? cs with
        | some (t, rest) => some ([.leaf t], rest)
        | none => (ident? cs).map fun (i, rest) => ([.leaf (.ident i)], rest)

def lexemes (cs : List Char) : Option (List Lexeme) :=
  match skipBlank cs with
  | [] => some []
  | c :: after =>
    match next? (c :: after) with
    | none => none
    | some (ls, rest) =>
      if _h : rest.length < cs.length then (lexemes rest).map (ls ++ ·) else none
termination_by cs.length

/-- Matches brackets. The enclosing groups are given innermost first, each with the trees before it; all trees are in
reverse. -/
def nest (outer : List (Delimiter × List Tree)) (before : List Tree) :
    List Lexeme → Option (List Tree)
  | [] => if outer.isEmpty then some before.reverse else none
  | .opening d :: ls => nest ((d, before) :: outer) [] ls
  | .leaf t :: ls => nest outer (t :: before) ls
  | .closing d :: ls =>
    match outer with
    | (d', above) :: outer' =>
      if d = d' then nest outer' (.group d before.reverse :: above) ls else none
    | [] => none

def dropByteOrderMark : List Char → List Char
  | '\ufeff' :: cs => cs
  | cs => cs

end Lexer

def trees? (s : String) : Option (List Tree) :=
  (Lexer.lexemes (Lexer.dropByteOrderMark s.toList)).bind (Lexer.nest [] [])

def singleIdent? (s : String) : Option Ident :=
  match trees? s with
  | some [.ident i] => some i
  | _ => none

end CommandLine.Source
