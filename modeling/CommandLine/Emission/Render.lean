import CommandLine.Emission.Program

/-! The tokens of a generated constructor, and the text that they are written as. -/

namespace CommandLine

open Source Source.Row

namespace Mark

def constantTrees : Mark → Row
  | long => ofLocalPath ["tokens", "LONG_PREFIX"]
  | short => ofLocalPath ["tokens", "SHORT_PREFIX"]

def unknownName : Mark → String
  | long => "unknown_long"
  | short => "unknown_short"

def guardTrees (m : Mark) : Row :=
  ofWord "let" ++ ofPath ["core", "option", "Option", "Some"] ++ ofGroup .parenthesis (ofWord "rest") ++
    ofSigns ['='] ++ ofWord "item" ++ ofSigns ['.'] ++ ofWord "strip_prefix" ++
    ofGroup .parenthesis m.constantTrees

end Mark

namespace Operand

def trees : Operand → Row
  | item => ofWord "item"
  | value => ofWord "value"
  | unescaped => ofLocalPath ["tokens", "strip_escape"] ++ ofGroup .parenthesis (ofWord "item")

end Operand

namespace Refusal

def keyAndItem : Row :=
  ofWord "key" ++ ofSigns [','] ++ ofWord "item"

def trees : Refusal → Row
  | unknown mark => ofLocalPath ["ArgsError", mark.unknownName] ++ ofGroup .parenthesis keyAndItem
  | missingValue => ofLocalPath ["ArgsError", "missing_value"] ++ ofGroup .parenthesis keyAndItem
  | unexpected text => ofLocalPath ["ArgsError", "unexpected"] ++ ofGroup .parenthesis text.trees

def returnTrees (r : Refusal) : Row :=
  ofWord "return" ++ ofPath ["core", "result", "Result", "Err"] ++ ofGroup .parenthesis r.trees

end Refusal

namespace Conversion

def typeArgument (name : String) : Row :=
  ofSigns [':', ':'] ++ ofSigns ['<'] ++ ofWord name ++ ofSigns ['>']

def functionTrees : Conversion → Row
  | copy => ofPath ["std", "borrow", "ToOwned", "to_owned"]
  | integer t => ofLocalPath ["convert", "integer"] ++ typeArgument t.name
  | float w => ofLocalPath ["convert", "float"] ++ typeArgument w.name
  | boolean => ofLocalPath ["convert", "boolean"]

def questionTrees : Conversion → Row
  | copy => []
  | _ => ofSigns ['?']

end Conversion

namespace Assignment

def trees (a : Assignment) (text : Row) : Row :=
  ofWord "command" ++ ofSigns ['.'] ++ [.ident a.field] ++ ofSigns ['='] ++ a.conversion.functionTrees ++
    ofGroup .parenthesis text ++ a.conversion.questionTrees

end Assignment

namespace Statement

def trees : Statement → Row
  | splitOption =>
    ofWord "let" ++ ofGroup .parenthesis (ofWord "key" ++ ofSigns [','] ++ ofWord "value") ++ ofSigns ['='] ++
      ofLocalPath ["tokens", "split_option"] ++ ofGroup .parenthesis (ofWord "rest")
  | bindItem text => ofWords ["let", "item"] ++ ofSigns ['='] ++ text.trees
  | requireValue otherwise =>
    ofWords ["let", "value"] ++ ofSigns ['='] ++ ofWord "value" ++ ofSigns ['.'] ++ ofWord "ok_or_else" ++
      ofGroup .parenthesis (ofSigns ['|', '|'] ++ otherwise.trees) ++ ofSigns ['?']
  | assign assignment text => assignment.trees text.trees
  | countDown => ofWord "remaining" ++ ofSigns ['-', '='] ++ [.literal ⟨"1"⟩]
  | refuse refusal => refusal.returnTrees

end Statement

def Source.Row.ofStatements (statements : List Row) (last : Row) : Row :=
  separated (.punct ';' false) (statements ++ [last])

namespace Arm

variable {π : Type}

def trees (patternTrees : π → Row) (a : Arm π) : Row :=
  patternTrees a.pattern ++ ofSigns ['=', '>'] ++
    ofGroup .brace (Row.ofStatements (a.body.map Statement.trees) [])

end Arm

namespace Selection

def defaultTrees (otherwise : Refusal) : Row :=
  ofWord "_" ++ ofSigns ['=', '>'] ++ otherwise.returnTrees ++ ofSigns [',']

def matchTrees {π : Type} (scrutinee : String) (patternTrees : π → Row) (arms : List (Arm π)) (otherwise : Refusal) :
    Row :=
  ofWords ["match", scrutinee] ++
    ofGroup .brace (arms.flatMap (Arm.trees patternTrees) ++ defaultTrees otherwise)

def trees : Selection → Row
  | done => []
  | key arms otherwise => matchTrees "key" (fun l => [.literal l]) arms otherwise
  | count arms otherwise => matchTrees "remaining" (fun n => [.literal ⟨toString n⟩]) arms otherwise

end Selection

namespace Block

def trees (b : Block) : Row :=
  Row.ofStatements (b.statements.map Statement.trees) b.selection.trees

end Block

namespace FieldInit

def trees (f : FieldInit) : Row :=
  [.ident f.field] ++ ofSigns [':'] ++ f.initializer.trees

end FieldInit

def importTrees (name : String) : Row :=
  ofWord "use" ++ ofPath ["clitag", name]

namespace Imports

def render (i : Imports) : String :=
  Tree.renderAll (Row.ofStatements (i.names.map importTrees) [])

end Imports

namespace Program

def recordTrees (p : Program) : Row :=
  ofSigns ['#'] ++ ofGroup .bracket (ofWord "allow" ++ ofGroup .parenthesis (ofWord "unused_mut")) ++
    ofWords ["let", "mut", "command"] ++ ofSigns ['='] ++ [.ident p.target] ++
    ofGroup .brace (separated (.punct ',' false) (p.fields.map FieldInit.trees))

def counterTrees (total : Nat) : Row :=
  ofWords ["let", "mut", "remaining"] ++ ofSigns [':'] ++ ofWord "usize" ++ ofSigns ['='] ++
    [.literal ⟨toString total⟩]

def itemTrees : Row :=
  ofWords ["let", "item"] ++ ofSigns [':'] ++ ofSigns ['&'] ++ ofWord "str" ++ ofSigns ['='] ++
    ofPath ["core", "convert", "AsRef"] ++ Conversion.typeArgument "str" ++ ofPath ["as_ref"] ++
    ofGroup .parenthesis (ofSigns ['&'] ++ ofWord "item")

def loopTrees (p : Program) : Row :=
  ofWords ["for", "item", "in", "items"] ++
    ofGroup .brace (Row.ofStatements [itemTrees] (p.dispatch.trees Mark.guardTrees Block.trees))

def resultTrees : Row :=
  ofPath ["core", "result", "Result", "Ok"] ++ ofGroup .parenthesis (ofWord "command")

def trees (p : Program) : Row :=
  Row.ofStatements (p.imports.map importTrees ++ [p.recordTrees] ++ p.counter.toList.map counterTrees)
    (p.loopTrees ++ resultTrees)

end Program

structure Constructor where
  visibility : Row
  module : Option Ident
  name : Ident
  program : Program

namespace Constructor

def docTrees (text : String) : Row :=
  ofSigns ['#'] ++ ofGroup .bracket (ofWord "doc" ++ ofSigns ['='] ++ [.literal (.ofString text)])

def resultTrees (result : Ident) : Row :=
  ofPath ["core", "result", "Result"] ++ ofSigns ['<'] ++ [.ident result] ++ ofSigns [','] ++
    ofPath ["clitag", "ArgsError"] ++ ofSigns ['>']

def boundTrees : Row :=
  ofWords ["where", "I"] ++ ofSigns [':'] ++ ofPath ["core", "iter", "IntoIterator"] ++ ofSigns [','] ++
    ofLocalPath ["I", "Item"] ++ ofSigns [':'] ++ ofPath ["core", "convert", "AsRef"] ++ ofSigns ['<'] ++
    ofWord "str" ++ ofSigns ['>'] ++ ofSigns [',']

def signatureTrees (result : Ident) : Row :=
  ofSigns ['<'] ++ ofWord "I" ++ ofSigns ['>'] ++
    ofGroup .parenthesis (ofWord "items" ++ ofSigns [':'] ++ ofWord "I") ++ ofSigns ['-', '>'] ++
    resultTrees result ++ boundTrees

def functionTrees (k : Constructor) (visibility : Row) : Row :=
  docTrees s!"Parse command-line tokens into [`{k.program.target.text}`]." ++ visibility ++ ofWord "fn" ++
    [.ident k.name] ++ signatureTrees k.program.target ++ ofGroup .brace k.program.trees

def unitTrees (k : Constructor) : Row :=
  match k.module with
  | none => k.functionTrees k.visibility
  | some module =>
    docTrees s!"Argument parser for [`{k.program.target.text}`]." ++ k.visibility ++ ofWord "mod" ++
      [.ident module] ++ ofGroup .brace (ofWords ["use", "super"] ++ ofSigns [':', ':'] ++ ofSigns ['*'] ++
        ofSigns [';'] ++ k.functionTrees (ofWord "pub"))

def pathTrees (k : Constructor) : Row :=
  match k.module with
  | none => [.ident k.name]
  | some module => [.ident module] ++ ofSigns [':', ':'] ++ [.ident k.name]

def implTrees (k : Constructor) : Row :=
  ofWord "impl" ++ ofPath ["clitag", "FromArgs"] ++ ofWord "for" ++ [.ident k.program.target] ++
    ofGroup .brace (ofWords ["fn", "from_args"] ++ signatureTrees ⟨"Self", false⟩ ++
      ofGroup .brace (k.pathTrees ++ ofGroup .parenthesis (ofWord "items")))

def trees (k : Constructor) : Row :=
  k.unitTrees ++ k.implTrees

def render (k : Constructor) : String :=
  Tree.renderAll k.trees

end Constructor

end CommandLine
