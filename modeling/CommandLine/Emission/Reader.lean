import CommandLine.Emission.Eval
import CommandLine.Emission.Render

/-! A generated constructor as the source language reads it. -/

namespace CommandLine

open Source

namespace Source.Tree

def isSign (c : Char) : Tree → Bool
  | punct d glued => d = c && !glued
  | _ => false

def isWord (text : String) : Tree → Bool
  | ident i => i = ⟨text, false⟩
  | _ => false

end Source.Tree

namespace Source.Row

def parts (p : Tree → Bool) (ts : Row) : List Row :=
  if ts.isEmpty then [] else ts.splitOnP p

def statements (ts : Row) : List Row × Row :=
  let rows := ts.splitOnP (Tree.isSign ';')
  (rows.dropLast, rows.getLast?.getD [])

def spanArms : Row → List (Literal × Row) × Row
  | .literal l :: .punct '=' true :: .punct '>' _ :: .group .brace body :: ts =>
    ((l, body) :: (spanArms ts).1, (spanArms ts).2)
  | ts => ([], ts)

end Source.Row

abbrev Reading := StateT Row Option

namespace Reading

variable {α : Type}

def whole (r : Reading α) (ts : Row) : Option α :=
  match r.run ts with
  | some (a, []) => some a
  | _ => none

def tree : Reading Tree
  | t :: ts => some (t, ts)
  | [] => none

def ident : Reading Ident := do
  let .ident i ← tree | failure
  return i

def literal : Reading Literal := do
  let .literal l ← tree | failure
  return l

def group (d : Delimiter) : Reading Row := do
  let .group d' body ← tree | failure
  guard (d' = d)
  return body

def within (d : Delimiter) (r : Reading α) : Reading α := do
  whole r (← group d)

def same (i : Ident) : Reading Unit := do
  guard ((← ident) = i)

def word (text : String) : Reading Unit :=
  same ⟨text, false⟩

def words : List String → Reading Unit
  | [] => return
  | text :: texts => do
    word text
    words texts

def sign (c : Char) (glued : Bool) : Reading Unit := do
  let .punct c' glued' ← tree | failure
  guard (c' = c ∧ glued' = glued)

def operator : List Char → Reading Unit
  | [] => return
  | [c] => sign c false
  | c :: cs => do
    sign c true
    operator cs

def path : List String → Reading Unit
  | [] => return
  | name :: names => do
    operator [':', ':']
    word name
    path names

def choose (ways : List (String × Reading α)) : Reading α := do
  let i ← ident
  guard !i.raw
  (ways.lookup i.name).getD failure

def arms : Reading (List (Literal × Row)) :=
  fun ts => some (ts.spanArms)

end Reading

open Reading

def isDecimalPart (c : Char) : Bool :=
  c.isDigit || c = '.'

def Source.Literal.count? (l : Literal) : Option Nat :=
  if l.text.toList.all Char.isDigit then some (Decimal.digitsValue l.text.toList) else none

namespace Mark

def readConstant : Reading Mark := do
  word "tokens"
  operator [':', ':']
  choose [("LONG_PREFIX", return .long), ("SHORT_PREFIX", return .short)]

def read : Reading Mark := do
  word "let"
  path ["core", "option", "Option", "Some"]
  within .parenthesis (word "rest")
  operator ['=']
  word "item"
  operator ['.']
  word "strip_prefix"
  within .parenthesis readConstant

end Mark

namespace Operand

def read : Reading Operand :=
  choose [
    ("item", return .item),
    ("value", return .value),
    ("tokens", do
      path ["strip_escape"]
      within .parenthesis (word "item")
      return .unescaped)]

end Operand

namespace Refusal

def readKeyAndItem : Reading Unit :=
  within .parenthesis do
    word "key"
    operator [',']
    word "item"

def read : Reading Refusal := do
  word "ArgsError"
  operator [':', ':']
  choose [
    ("unknown_long", do readKeyAndItem; return .unknown .long),
    ("unknown_short", do readKeyAndItem; return .unknown .short),
    ("missing_value", do readKeyAndItem; return .missingValue),
    ("unexpected", do return .unexpected (← within .parenthesis Operand.read))]

def readReturn : Reading Refusal := do
  word "return"
  path ["core", "result", "Result", "Err"]
  within .parenthesis read

end Refusal

namespace Conversion

def readTypeArgument : Reading Ident := do
  operator [':', ':']
  operator ['<']
  let i ← ident
  operator ['>']
  return i

def readKind : Reading Kind := do
  Kind.ofName? (← readTypeArgument).text

def readFunction : Reading Conversion :=
  (do
    path ["std", "borrow", "ToOwned", "to_owned"]
    return .copy) <|> do
  word "convert"
  operator [':', ':']
  choose [
    ("integer", do
      let .integer t ← readKind | failure
      return .integer t),
    ("float", do
      let .float w ← readKind | failure
      return .float w),
    ("boolean", return .boolean)]

end Conversion

namespace Statement

def readBinding : Reading Statement :=
  (do
    within .parenthesis do
      word "key"
      operator [',']
      word "value"
    operator ['=']
    word "tokens"
    path ["split_option"]
    within .parenthesis (word "rest")
    return .splitOption) <|>
  choose [
    ("item", do
      operator ['=']
      return .bindItem (← Operand.read)),
    ("value", do
      operator ['=']
      word "value"
      operator ['.']
      word "ok_or_else"
      let otherwise ← within .parenthesis do
        operator ['|', '|']
        Refusal.read
      operator ['?']
      return .requireValue otherwise)]

def readAssignment : Reading Statement := do
  operator ['.']
  let field ← ident
  operator ['=']
  let conversion ← Conversion.readFunction
  let text ← within .parenthesis Operand.read
  if conversion.isCall then
    operator ['?']
  return .assign ⟨field, conversion⟩ text

def read : Reading Statement :=
  choose [
    ("let", readBinding),
    ("command", readAssignment),
    ("remaining", do
      operator ['-', '=']
      guard ((← literal).count? = some 1)
      return .countDown),
    ("return", do
      path ["core", "result", "Result", "Err"]
      return .refuse (← within .parenthesis Refusal.read))]

def readAll? (rows : List Row) : Option (List Statement) :=
  rows.mapM (whole read)

end Statement

namespace Arm

def read? {π : Type} (pattern? : Literal → Option π) (arm : Literal × Row) : Option (Arm π) := do
  let pattern ← pattern? arm.1
  let (rows, last) := arm.2.statements
  guard last.isEmpty
  return ⟨pattern, ← Statement.readAll? rows⟩

def readAll? {π : Type} (pattern? : Literal → Option π) (arms : List (Literal × Row)) : Option (List (Arm π)) :=
  arms.mapM (read? pattern?)

end Arm

namespace Selection

def readArms {π : Type} (pattern? : Literal → Option π) : Reading (List (Arm π) × Refusal) := do
  let rows ← arms
  word "_"
  operator ['=', '>']
  let otherwise ← Refusal.readReturn
  operator [',']
  return (← Arm.readAll? pattern? rows, otherwise)

def read? (ts : Row) : Option Selection :=
  if ts.isEmpty then
    return .done
  else
    ts |> whole do
      word "match"
      choose [
        ("key", do
          let (arms, otherwise) ← within .brace (readArms some)
          return .key arms otherwise),
        ("remaining", do
          let (arms, otherwise) ← within .brace (readArms Literal.count?)
          return .count arms otherwise)]

end Selection

namespace Block

def read? (ts : Row) : Option Block := do
  let (rows, last) := ts.statements
  return ⟨← Statement.readAll? rows, ← Selection.read? last⟩

end Block

namespace Chain

def readBlock : Reading Block := do
  Block.read? (← group .brace)

def readPart : Reading (Option Mark × Block) :=
  (do
    word "if"
    let mark ← Mark.read
    return (some mark, ← readBlock)) <|> do
  return (none, ← readBlock)

def ofParts? : List (Option Mark × Block) → Option (Chain Mark Block)
  | [] => some {}
  | [(none, b)] => some { fallback := some b }
  | (some m, b) :: rest => do
    let c ← ofParts? rest
    return { c with branches := (m, b) :: c.branches }
  | _ => none

def read? (ts : Row) : Option (Chain Mark Block) := do
  ofParts? (← (ts.parts (Tree.isWord "else")).mapM (whole readPart))

end Chain

namespace Initializer

def number? (negative : Bool) (l : Literal) : Option Initializer :=
  let digits := String.ofList (l.text.toList.takeWhile isDecimalPart)
  match Kind.ofName? (String.ofList (l.text.toList.dropWhile isDecimalPart)) with
  | some (.integer t) => some (.integer negative digits t)
  | some (.float w) => some (.float negative digits w)
  | _ => none

def read : Reading Initializer :=
  (do
    operator [':', ':']
    choose [
      ("core", do
        path ["default", "Default", "default"]
        within .parenthesis (return .unset)),
      ("std", do
        path ["string", "String", "from"]
        return .text (← within .parenthesis literal))]) <|>
  choose [("true", return .boolean true), ("false", return .boolean false)] <|>
  (do
    operator ['-']
    number? true (← literal)) <|>
  (do
    number? false (← literal))

end Initializer

namespace FieldInit

def read (declared : Ident × Kind) : Reading FieldInit := do
  same declared.1
  operator [':']
  return ⟨declared.1, declared.2, ← Initializer.read⟩

def readAll? : List (Ident × Kind) → List Row → Option (List FieldInit)
  | [], [] => some []
  | f :: declared, row :: rows => return (← whole (read f) row) :: (← readAll? declared rows)
  | _, _ => none

end FieldInit

namespace Program

variable (declared : List (Ident × Kind))

def readImport : Reading String := do
  word "use"
  path ["clitag"]
  operator [':', ':']
  return (← ident).text

def spanImports : List Row → List String × List Row
  | row :: rows =>
    match whole readImport row with
    | some name => (name :: (spanImports rows).1, (spanImports rows).2)
    | none => ([], row :: rows)
  | [] => ([], [])

def readRecord : Reading (Ident × List FieldInit) := do
  operator ['#']
  within .bracket do
    word "allow"
    within .parenthesis (word "unused_mut")
  words ["let", "mut", "command"]
  operator ['=']
  let target ← ident
  let fields ← group .brace
  return (target, ← FieldInit.readAll? declared (fields.parts (Tree.isSign ',')))

def readCounter : Reading Nat := do
  words ["let", "mut", "remaining"]
  operator [':']
  word "usize"
  operator ['=']
  (← literal).count?

def readItem : Reading Unit := do
  words ["let", "item"]
  operator [':']
  operator ['&']
  word "str"
  operator ['=']
  path ["core", "convert", "AsRef"]
  guard ((← Conversion.readTypeArgument) = ⟨"str", false⟩)
  path ["as_ref"]
  within .parenthesis do
    operator ['&']
    word "item"

def readLoop : Reading (Chain Mark Block) := do
  words ["for", "item", "in", "items"]
  let ([item], dispatch) := (← group .brace).statements | failure
  whole readItem item
  let chain ← Chain.read? dispatch
  path ["core", "result", "Result", "Ok"]
  within .parenthesis (word "command")
  return chain

def readCounter? : List Row → Option (Option Nat)
  | [] => some none
  | [row] => (whole readCounter row).map some
  | _ => none

def read? (ts : Row) : Option Program := do
  let (rows, last) := ts.statements
  let (imports, record :: counter) := spanImports rows | failure
  let (target, fields) ← whole (readRecord declared) record
  return { target, imports, fields, counter := ← readCounter? counter, dispatch := ← whole readLoop last }

end Program

namespace Constructor

variable (declared : List (Ident × Kind))

def readDoc : Reading Literal := do
  operator ['#']
  within .bracket do
    word "doc"
    operator ['=']
    literal

def readVisibility : Reading Row :=
  (do
    word "pub"
    (do return Row.ofWord "pub" ++ Row.ofGroup .parenthesis (← group .parenthesis)) <|> return Row.ofWord "pub") <|>
  return []

def readResult : Reading Ident := do
  path ["core", "result", "Result"]
  operator ['<']
  let result ← ident
  operator [',']
  path ["clitag", "ArgsError"]
  operator ['>']
  return result

def readBounds : Reading Unit := do
  words ["where", "I"]
  operator [':']
  path ["core", "iter", "IntoIterator"]
  operator [',']
  word "I"
  path ["Item"]
  operator [':']
  path ["core", "convert", "AsRef"]
  operator ['<']
  word "str"
  operator ['>']
  operator [',']

def readSignature : Reading Ident := do
  operator ['<']
  word "I"
  operator ['>']
  within .parenthesis do
    word "items"
    operator [':']
    word "I"
  operator ['-', '>']
  let result ← readResult
  readBounds
  return result

def readFunction : Reading (Ident × Program) := do
  let name ← ident
  let target ← readSignature
  let program ← Program.read? declared (← group .brace)
  guard (program.target = target)
  return (name, program)

def readUnit : Reading Constructor := do
  let _ ← readDoc
  let visibility ← readVisibility
  choose [
    ("fn", do
      let (name, program) ← readFunction declared
      return { visibility, module := none, name, program }),
    ("mod", do
      let module ← ident
      let (name, program) ← within .brace do
        words ["use", "super"]
        operator [':', ':']
        operator ['*']
        operator [';']
        let _ ← readDoc
        word "pub"
        word "fn"
        readFunction declared
      return { visibility, module := some module, name, program })]

def readCall (k : Constructor) : Reading Unit := do
  if let some module := k.module then
    same module
    operator [':', ':']
  same k.name
  within .parenthesis (word "items")

def readImpl (k : Constructor) : Reading Unit := do
  word "impl"
  path ["clitag", "FromArgs"]
  word "for"
  same k.program.target
  within .brace do
    words ["fn", "from_args"]
    guard ((← readSignature) = ⟨"Self", false⟩)
    within .brace (readCall k)

def read? (ts : Row) : Option Constructor :=
  ts |> whole do
    let k ← readUnit declared
    readImpl k
    return k

end Constructor

namespace Definition

-- The text of a constructor does not repeat the types of the fields: they are those of the record it is for.
def declared (d : Definition) : List (Ident × Kind) :=
  d.fields.filterMap fun f => do return (← f.ident, ← Kind.ofType? f.type)

end Definition

end CommandLine
