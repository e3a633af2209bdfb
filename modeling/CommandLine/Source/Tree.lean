import CommandLine.Source.Ident
import CommandLine.Source.Literal

/-! Token trees and their canonical text: tokens apart by one space, except behind a punctuation sign that is glued to
the next. -/

namespace CommandLine.Source

inductive Delimiter
  | parenthesis | bracket | brace
  deriving DecidableEq, Repr

inductive Tree
  | ident (i : Ident)
  | punct (c : Char) (glued : Bool)
  | literal (l : Literal)
  | group (d : Delimiter) (body : List Tree)

namespace Tree

def isGlued : Tree → Bool
  | punct _ glued => glued
  | _ => false

def enclose : Delimiter → String → String
  | .parenthesis, s => "(" ++ s ++ ")"
  | .bracket, s => "[" ++ s ++ "]"
  | .brace, s => if s = "" then "\x7b \x7d" else "\x7b " ++ s ++ " \x7d"

mutual

def render : Tree → String
  | ident i => i.text
  | punct c _ => c.toString
  | literal l => l.text
  | group d body => enclose d (renderAll body)

def renderAll : List Tree → String
  | [] => ""
  | t :: ts =>
    t.render ++ (if t.isGlued || ts.isEmpty then "" else " ") ++ renderAll ts

end

end Tree

end CommandLine.Source
