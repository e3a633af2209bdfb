import CommandLine.Source.Grammar.Item
import CommandLine.Source.Grammar.Statement

/-! The grammar of the source language. Rules nest, and a row of trees is read by a grammar that is deep enough for
it. -/

namespace CommandLine.Source

namespace Grammar

def around (g : Grammar) : Grammar where
  expression := readExpression g
  unary := readUnary g
  climb := readClimb g
  boundary := readBoundary g
  type := readType g
  bound := readBound g
  pattern := readPattern g
  statements := readStatements g
  item := readItem g
  useTree := readUseTree g

def ofDepth : Nat → Grammar
  | 0 => empty
  | n + 1 => (ofDepth n).around

end Grammar

mutual

def Tree.size : Tree → Nat
  | .group _ body => 1 + Row.size body
  | _ => 1

def Row.size : Row → Nat
  | [] => 0
  | t :: ts => t.size + Row.size ts

end

/-- A grammar that is deep enough for a row: a few rules nest before a tree is taken. -/
def Row.grammar (ts : Row) : Grammar :=
  .ofDepth (4 * ts.size + 8)

def Row.read {α : Type} (ts : Row) (r : Grammar → Reader α) : Except SyntaxFault α := do
  let (a, s) ← (r ts.grammar).run ⟨ts, none⟩
  match s.unfinished with
  | some d => throw (.unfinished d)
  | none => if s.rest.isEmpty then return a else throw (.expected [] false)

def Row.type? (ts : Row) : Option TypeRow :=
  (ts.read fun g => g.type true).toOption

def Row.typeText (ts : Row) : String :=
  Tree.renderAll ((ts.type?.map (·.row)).getD ts)

end CommandLine.Source
