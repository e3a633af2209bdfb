import CommandLine.Text.Identifier

/-! Identifiers of the source language. -/

namespace CommandLine.Source

structure Ident where
  name : String
  raw : Bool := false
  deriving DecidableEq, Repr

namespace Ident

def text (i : Ident) : String :=
  if i.raw then "r#" ++ i.name else i.name

def keywords : List String :=
  ["_", "abstract", "as", "async", "await", "become", "box", "break", "const", "continue", "crate",
    "do", "dyn", "else", "enum", "extern", "false", "final", "fn", "for", "if", "impl", "in", "let",
    "loop", "macro", "match", "mod", "move", "mut", "override", "priv", "pub", "ref", "return",
    "Self", "self", "static", "struct", "super", "trait", "true", "try", "type", "typeof", "unsafe",
    "unsized", "use", "virtual", "where", "while", "yield"]

def isKeyword (i : Ident) : Bool :=
  !i.raw && i.name ∈ keywords

def isTruth (i : Ident) : Bool :=
  !i.raw && (i.name = "true" || i.name = "false")

def neverRaw : List String := ["_", "super", "self", "Self", "crate"]

def spanName : List Char → Option (String × List Char)
  | c :: cs =>
    if Text.isIdentifierStart c then
      some (String.ofList (c :: cs.takeWhile Text.isIdentifierContinue),
        cs.dropWhile Text.isIdentifierContinue)
    else
      none
  | [] => none

def span? : List Char → Option (Ident × List Char)
  | 'r' :: '#' :: cs =>
    match spanName cs with
    | some (name, rest) => if name ∈ neverRaw then none else some (⟨name, true⟩, rest)
    | none => none
  | cs => (spanName cs).map fun (name, rest) => (⟨name, false⟩, rest)

def ofText? (s : String) : Option Ident :=
  match span? s.toList with
  | some (i, []) => some i
  | _ => none

def plain? (s : String) : Option Ident :=
  match spanName s.toList with
  | some (name, []) => some ⟨name, false⟩
  | _ => none

end Ident

end CommandLine.Source
