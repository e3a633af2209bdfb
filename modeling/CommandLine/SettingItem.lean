import CommandLine.Source.Grammar

namespace CommandLine

open Source

inductive ItemValue
  | text (s : String)
  | other (form : String)
  deriving DecidableEq, Repr

inductive SettingItem
  | literal
  | word (key : String)
  | list (key : String) (items : List Tree)
  | value (key : String) (v : ItemValue)

namespace ItemValue

def ofLiteral (l : Literal) : ItemValue :=
  match l.kind with
  | .string =>
    match l.stringValue? with
    | some s => .text s
    | none => .other "string"
  | .byteString => .other "byte string"
  | .foreignString => .other "unknown"
  | .error => .other "verbatim"
  | .byte => .other "byte"
  | .character => .other "char"
  | .integer => .other "int"
  | .float => .other "float"

def ofExpression (e : Expression) : ItemValue :=
  match e.form with
  | .literal l => ofLiteral l
  | form => .other form.name

end ItemValue

namespace SettingItem

open Reader

def readKey : Reader String := do
  let row ← iterate (fun row => do
    if ← sees (.sign "::") then
      let _ ← sign "::"
      if ← sees .anyName then return some (row ++ (← anyName)) else expected [.pathSegment]
    else
      return none) (← anyName)
  return "::".intercalate (row.map Tree.render)

def readBehind (g : Grammar) (key : String) : Reader SettingItem := do
  match ← rest with
  | .group _ items :: _ =>
    advance 1
    return .list key items
  | _ =>
    if ← sees (.sign "=") then
      let _ ← sign "="
      return .value key (.ofExpression (← g.attributeValue))
    else
      return .word key

def read (g : Grammar) : Reader SettingItem := do
  let ts ← rest
  let isKey := match ts with
    | .ident i :: after => !i.isTruth || (Token.sign "=").opens after
    | _ => false
  if isKey then
    readBehind g (← readKey)
  else if Token.literal.opens ts then
    let _ ← Reader.literal
    return .literal
  else
    expected [.setting]

def readList (g : Grammar) : Reader (List SettingItem) :=
  return (← iterate (fun (read, ended) => do
    if ended || (← atEnd) then
      return none
    else
      let read := read ++ [← SettingItem.read g]
      if ← atEnd then
        return some (read, true)
      else
        let _ ← sign ","
        return some (read, false)) ([], false)).1

def ofRow (ts : Row) : Except SyntaxFault (List SettingItem) :=
  ts.read readList

end SettingItem

end CommandLine
