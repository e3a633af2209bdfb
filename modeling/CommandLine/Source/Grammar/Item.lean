import CommandLine.Source.Grammar.Expression

/-! Items: functions, types, traits and what else can be defined in a module or a block. -/

namespace CommandLine.Source.Grammar

open Reader

variable (g : Grammar)

structure Regular where
  row : Row
  isRegular : Bool := true

def keep (r : Reader Regular) : Reader Row := do
  let (regular, taken) ← captured r
  return if regular.isRegular then regular.row else taken

def regular (r : Reader Row) : Reader Regular :=
  return ⟨← r, true⟩

def irregular (r : Reader Row) : Reader Regular :=
  return ⟨← r, false⟩

def visibility : Reader Row := do
  if ← sees (.word "pub") then
    let head ← word "pub"
    match ← rest with
    | .group .parenthesis [.ident i] :: _ =>
      if Row.startsWith [.ident i] [.word "crate", .word "self", .word "super"] then
        return head ++ (← anyGroup)
      else
        return head
    | .group .parenthesis body :: _ =>
      if (Token.word "in").opens body then
        return head ++ (← enclosed .parenthesis (inOrder [word "in", plainPath]))
      else
        return head
    | _ => return head
  else
    return []

def genericParameter : Reader (Bool × Row) := do
  let ts ← rest
  if ts.startsWith [.lifetime] then return (true, ← lifetimeParameter)
  else if ts.startsWith [.name] then return (false, ← typeParameter g)
  else if ts.startsWith [.word "const"] then return (false, ← constantParameter g)
  else if ts.startsWith [.word "_"] then return (false, ← anyName)
  else missing [.lifetime, .name, .word "const"]

def genericList : Reader (List AngleArgument) :=
  iterate (fun as => do
    if as.getLast?.any (fun a => !a.comma) || (← sees (.sign ">")) then
      return none
    else
      let attributes ← outerAttributes g
      let (isLifetime, row) ← genericParameter g
      if ← sees (.sign ">") then
        return some (as ++ [⟨isLifetime, attributes ++ row, false⟩])
      else
        let _ ← sign ","
        return some (as ++ [⟨isLifetime, attributes ++ row, true⟩])) []

def generics : Reader (Bool × Row) := do
  if ← sees (.sign "<") then
    let opening ← sign "<"
    let as ← genericList g
    let closing ← sign ">"
    return (true, if as.isEmpty then [] else opening ++ AngleArgument.writeAll as ++ closing)
  else
    return (false, [])

def genericsRow : Reader Row :=
  return (← generics g).2

def endsConditions (ts : Row) : Bool :=
  ts.isEmpty || ts.startsWith [.group .brace, .sign ",", .sign ";", .sign "="]
    || (Token.sign ":").opens ts && !(Token.sign "::").opens ts

def boundCondition : Reader Row := do
  let ts ← rest
  if Token.lifetime.opens ts && (Token.sign ":").opens ts.behind then
    inOrder [lifetime, sign ":", lifetimeBounds
      (return endsConditions (← rest) || (Token.sign ":").opens (← rest))]
  else
    inOrder [binder g, g.typeRow true, sign ":",
      chained (return endsConditions (← rest)) "+" (g.boundRow false true)]

def conditions : Reader (Bool × Row) := do
  if ← sees (.word "where") then
    let head ← word "where"
    let row ← chained (return endsConditions (← rest)) "," (boundCondition g)
    return (true, if row.isEmpty then [] else head ++ row)
  else
    return (false, [])

def conditionsRow : Reader Row :=
  return (← conditions g).2

def receiver : Reader Row := do
  let mark ← optional (.sign "&") (inOrder [sign "&", optional .lifetime lifetime])
  let row ← inOrder [optionalWord "mut", word "self"]
  if mark.isEmpty then
    return row ++ (← optional (.sign ":") (inOrder [sign ":", g.typeRow true]))
  else
    return mark ++ row

structure Parameters where
  row : Row := []
  received : Bool := false
  ended : Bool := false

inductive Parameter
  | receiver (row : Row)
  | typed (row : Row)
  | variadic (row : Row)

def Parameter.row : Parameter → Row
  | receiver row | typed row | variadic row => row

def functionParameter : Reader Parameter := do
  let ts ← rest
  if (Token.sign "...").opens ts then
    return .variadic (← sign "...")
  else
    match ← preview (receiver g) with
    | .ok _ => return .receiver (← receiver g)
    | .error _ =>
      if Token.name.opens ts && (Token.sign "<").opens ts.behind then
        return .typed (Row.ofWord "_" ++ Row.ofSigns [':'] ++ (← g.typeRow true))
      else
        let head ← inOrder [return (← g.pattern).row, sign ":"]
        if ← sees (.sign "...") then
          return .variadic (head ++ (← sign "..."))
        else
          return .typed (head ++ (← g.typeRow true))

def parameterStep (s : Parameters) : Reader (Option Parameters) := do
  if s.ended || (← atEnd) then
    return none
  else
    let attributes ← outerAttributes g
    let p ← functionParameter g
    let row := s.row ++ attributes ++ p.row
    match p with
    | .variadic _ =>
      let comma ← if ← atEnd then pure [] else sign ","
      return some ⟨row ++ comma, s.received, true⟩
    | .receiver _ =>
      if s.received then throw .secondReceiver
      else if !s.row.isEmpty then throw .receiver
      else if ← atEnd then return some ⟨row, true, true⟩
      else return some ⟨row ++ (← sign ","), true, false⟩
    | .typed _ =>
      if ← atEnd then return some ⟨row, s.received, true⟩
      else return some ⟨row ++ (← sign ","), s.received, false⟩

def functionParameters : Reader Row :=
  return (← iterate (parameterStep g) {}).row

def withoutWord (text : String) (ts : Row) : Row :=
  if (Token.word text).opens ts then ts.behind else ts

def startsFunction (safe : Bool) (ts : Row) : Bool :=
  let ts := withoutWord "async" (withoutWord "const" ts)
  let ts := if safe && (Token.word "safe").opens ts then ts.behind else withoutWord "unsafe" ts
  let ts :=
    if (Token.word "extern").opens ts then
      if Token.string.opens ts.behind then ts.behind.behind else ts.behind
    else
      ts
  (Token.word "fn").opens ts

def signature (safe : Bool) : Reader Row :=
  inOrder [optionalWord "const", optionalWord "async",
    do if safe && (← sees (.word "safe")) then word "safe" else optionalWord "unsafe",
    convention, word "fn", name, genericsRow g, enclosed .parenthesis (functionParameters g),
    result g true, conditionsRow g]

def optionalValue : Reader Row :=
  optional (.sign "=") (inOrder [sign "=", g.expressionRow])

def constant (needsValue : Bool) : Reader Regular := do
  let head ← word "const"
  let ts ← rest
  let named ← if ts.startsWith [.name, .word "_"] then anyName else missing [.name, .word "_"]
  let (generic, parameters) ← generics g
  let typed ← inOrder [sign ":", g.typeRow true]
  let value ← optionalValue g
  let (conditional, conditions) ← conditions g
  let row := head ++ named ++ parameters ++ typed ++ value ++ conditions ++ (← sign ";")
  return ⟨row, !generic && !conditional && !(needsValue && value.isEmpty)⟩

structure TypeItem where
  row : Row
  hasBounds : Bool
  hasType : Bool

def typeItem (before after : Bool) : Reader TypeItem := do
  let head ← inOrder [word "type", name, genericsRow g]
  let colon ← optionalSign ":"
  let ended := return (← rest).startsWith [.word "where", .sign "=", .sign ";"]
  let bounds ← if colon.isEmpty then pure [] else separated ended "+" (g.boundRow false true)
  let (conditional, first) ← if before then conditions g else pure (false, [])
  let type ← optional (.sign "=") (inOrder [sign "=", g.typeRow true])
  let second ← if after && !conditional then conditionsRow g else pure []
  let row := head ++ (if bounds.isEmpty then [] else colon ++ bounds) ++ first ++ type ++ second
    ++ (← sign ";")
  return ⟨row, !colon.isEmpty, !type.isEmpty⟩

def namedField : Reader Row := do
  let head ← inOrder [outerAttributes g, visibility]
  if ← sees (.word "_") then
    let named ← inOrder [anyName, sign ":"]
    let ts ← rest
    if (Token.word "struct").opens ts
        || (Token.word "union").opens ts && (Token.group .brace).opens ts.behind then
      return head ++ named ++ (← inOrder [anyName, group .brace])
    else
      return head ++ named ++ (← g.typeRow true)
  else
    return head ++ (← inOrder [name, sign ":", g.typeRow true])

def namedFields : Reader Row :=
  enclosed .brace (items (namedField g))

def plainFields : Reader Row :=
  enclosed .parenthesis (items (inOrder [outerAttributes g, visibility, g.typeRow true]))

def recordFields : Reader Row := do
  let (conditional, before) ← conditions g
  let ts ← rest
  if !conditional && (Token.group .parenthesis).opens ts then
    let fields ← plainFields g
    let (conditional, after) ← conditions g
    if ← sees (.sign ";") then
      return fields ++ after ++ (← sign ";")
    else if conditional then
      missing [.sign ";"]
    else
      missing [.word "where", .sign ";"]
  else if (Token.group .brace).opens ts then
    return before ++ (← namedFields g)
  else if (Token.sign ";").opens ts then
    return before ++ (← sign ";")
  else if conditional then
    missing [.group .brace, .sign ";"]
  else
    missing [.word "where", .group .parenthesis, .group .brace, .sign ";"]

def variant : Reader Row := do
  let attributes ← outerAttributes g
  let _ ← visibility
  let named ← name
  let ts ← rest
  let fields ←
    if ts.startsWith [.group .brace] then namedFields g
    else if ts.startsWith [.group .parenthesis] then plainFields g
    else pure []
  return attributes ++ named ++ fields ++ (← optionalValue g)

def invocationItem (named : Bool) : Reader Row := do
  let head ← inOrder [plainPath, sign "!",
    if named then
      do
        if ← sees (.word "try") then anyName else optional .name name
    else
      return []]
  let body ← anyGroup
  let ended ← if (Token.group .brace).opens body then pure [] else sign ";"
  return head ++ body ++ ended

def invocationStarts : List Token :=
  [.name, .word "self", .word "super", .word "crate", .sign "::"]

def functionBody : Reader Row :=
  attributedBlock g

def traitMember : Reader Row := keep do
  let attributes ← outerAttributes g
  let visible ← visibility
  let default ← optionalWord "default"
  let bare := visible.isEmpty && default.isEmpty
  let ts ← rest
  if startsFunction false ts then
    let head ← signature g false
    let ts ← rest
    let body ←
      if (Token.group .brace).opens ts then functionBody g
      else if (Token.sign ";").opens ts then sign ";"
      else missing [.group .brace, .sign ";"]
    return ⟨attributes ++ head ++ body, bare⟩
  else if (Token.word "const").opens ts then
    if ts.behind.startsWith
        [.name, .word "_", .word "async", .word "unsafe", .word "extern", .word "fn"] then
      let c ← constant g false
      return ⟨attributes ++ c.row, c.isRegular && bare⟩
    else
      let _ ← word "const"
      missing [.name, .word "_", .word "async", .word "unsafe", .word "extern", .word "fn"]
  else if (Token.word "type").opens ts then
    let t ← typeItem g false true
    return ⟨attributes ++ t.row, bare⟩
  else if bare && ts.startsWith invocationStarts then
    regular (return attributes ++ (← invocationItem false))
  else
    missing ([.word "fn", .word "const", .word "type"] ++ if bare then invocationStarts else [])

def implMember : Reader Row := keep do
  let attributes ← outerAttributes g
  let visible ← visibility
  let ts ← rest
  let marked := (Token.word "default").opens ts && !(Token.sign "!").opens ts.behind
  let default ← if marked then word "default" else pure []
  let head := attributes ++ visible ++ default
  let ts ← rest
  if startsFunction false ts then
    let row ← signature g false
    if ← sees (.sign ";") then
      irregular (sign ";")
    else
      regular (return head ++ row ++ (← functionBody g))
  else if (Token.word "const").opens ts then
    let c ← constant g true
    return ⟨head ++ c.row, c.isRegular⟩
  else if (Token.word "type").opens ts then
    let t ← typeItem g false true
    return ⟨head ++ t.row, !t.hasBounds && t.hasType⟩
  else if visible.isEmpty && default.isEmpty && ts.startsWith invocationStarts then
    regular (return attributes ++ (← invocationItem false))
  else
    missing ((if marked then [] else [.word "default"]) ++ [.word "fn", .word "const", .word "type"]
      ++ if visible.isEmpty && default.isEmpty then invocationStarts else [])

def foreignMember : Reader Row := keep do
  let attributes ← outerAttributes g
  let visible ← visibility
  let head := attributes ++ visible
  let ts ← rest
  if startsFunction true ts then
    let safe := !startsFunction false ts
    let row ← signature g true
    if ← sees (.group .brace) then
      irregular (functionBody g)
    else
      return ⟨head ++ row ++ (← sign ";"), !safe⟩
  else if (Token.word "static").opens ts
      || ts.startsWith [.word "unsafe", .word "safe"] && (Token.word "static").opens ts.behind then
    let marked := !(Token.word "static").opens ts
    if marked then advance 1
    let row ← inOrder [word "static", optionalWord "mut", name, sign ":", g.typeRow true]
    let value ← optionalValue g
    return ⟨head ++ row ++ value ++ (← sign ";"), !marked && value.isEmpty⟩
  else if (Token.word "type").opens ts then
    let t ← typeItem g true true
    return ⟨head ++ t.row, !t.hasBounds && !t.hasType⟩
  else if visible.isEmpty && ts.startsWith invocationStarts then
    regular (return attributes ++ (← invocationItem false))
  else
    missing ([.word "fn", .word "static", .word "type"]
      ++ if visible.isEmpty then invocationStarts else [])

def members (member : Reader Row) : Reader Row :=
  enclosed .brace (inOrder [innerAttributes g, toEnd member])

def traitRest : Reader Row := do
  let colon ← optionalSign ":"
  let ended := return (← rest).startsWith [.word "where", .group .brace]
  let bounds ← if colon.isEmpty then pure [] else separated ended "+" (g.boundRow false true)
  return (if bounds.isEmpty then [] else colon ++ bounds)
    ++ (← inOrder [conditionsRow g, members g (traitMember g)])

def boundsAlias : Reader Row :=
  inOrder [sign "=",
    separated (return (← rest).startsWith [.word "where", .sign ";"]) "+" (g.boundRow false false),
    conditionsRow g, sign ";"]

def startsGenerics (ts : Row) : Bool :=
  let second := ts.behind
  let third := second.behind
  (Token.sign "<").opens ts
    && (second.startsWith [.sign ">", .sign "#", .word "const"]
      || second.startsWith [.lifetime, .name]
        && (third.startsWith [.sign ">", .sign ",", .sign "="]
          || (Token.sign ":").opens third && !(Token.sign "::").opens third))

def implementation : Reader Regular := do
  let head ← word "impl"
  let parameters ← if startsGenerics (← rest) then genericsRow g else pure []
  let ts ← rest
  let constant := (Token.word "const").opens ts
    || (Token.sign "?").opens ts && (Token.word "const").opens ts.behind
  if constant then
    let _ ← inOrder [optionalSign "?", word "const"]
  let ((negative, type), taken) ← captured do
    let ts ← rest
    let negative ←
      if (Token.sign "!").opens ts && !(Token.group .brace).opens ts.behind then sign "!"
      else pure []
    return (negative, ← g.type true)
  let isNamed := match type.shape with
    | .path p => !p.qualified
    | _ => false
  let isFor ← sees (.word "for")
  let target ←
    if isFor then
      inOrder [return negative ++ type.row, word "for", g.typeRow true]
    else
      pure (if negative.isEmpty then type.row else taken)
  let row ← inOrder [conditionsRow g, members g (implMember g)]
  return ⟨head ++ parameters ++ target ++ row, !constant && !(isFor && !isNamed)⟩

def readUseTree (rooted : Bool) : Reader UseRow := do
  let ts ← rest
  if ts.startsWith useNames then
    let named ← anyName
    if ← sees (.sign "::") then
      let colons ← sign "::"
      return { row := named ++ colons ++ (← g.useTree false).row }
    else if ← sees (.word "as") then
      let as ← word "as"
      if (← rest).startsWith [.name, .word "_"] then
        return { row := named ++ as ++ (← anyName) }
      else
        expected [.newName]
    else
      return { row := named }
  else if ts.startsWith [.sign "*"] then
    return { row := ← sign "*" }
  else if ts.startsWith [.group .brace] then
    let (row, isRegular) ← within .brace
      (iterate (fun (row, isRegular) => do
        if ← atEnd then
          return none
        else
          let root ← if rooted then optionalSign "::" else pure []
          let tree ← g.useTree (rooted && root.isEmpty)
          let isRegular := isRegular && root.isEmpty && tree.isRegular
          if ← atEnd then return some (row ++ root ++ tree.row, isRegular)
          else return some (row ++ root ++ tree.row ++ (← sign ","), isRegular)) ([], true))
    return ⟨[.group .brace row], isRegular⟩
  else
    missing (useNames ++ [.sign "*", .group .brace])
where
  useNames : List Token := [.name, .word "self", .word "super", .word "crate", .word "try"]

def imports : Reader Regular := do
  let head ← word "use"
  let root ← optionalSign "::"
  let tree ← g.useTree root.isEmpty
  return ⟨head ++ root ++ tree.row ++ (← sign ";"), tree.isRegular⟩

def moduleItem : Reader Row := do
  let head ← inOrder [word "mod", do if ← sees (.word "try") then anyName else name]
  let ts ← rest
  if (Token.sign ";").opens ts then
    return head ++ (← sign ";")
  else if (Token.group .brace).opens ts then
    return head ++ (← members g g.item)
  else
    missing [.sign ";", .group .brace]

def staticItem : Reader Regular := do
  let head ← inOrder [word "static", optionalWord "mut", name]
  if ← sees (.sign "=") then
    irregular (inOrder [sign "=", g.expressionRow, sign ";"])
  else
    let typed ← inOrder [sign ":", g.typeRow true]
    if ← sees (.sign ";") then
      irregular (sign ";")
    else
      regular (return head ++ typed ++ (← inOrder [sign "=", g.expressionRow, sign ";"]))

def foreignItem (visible : Bool) : Reader Row := do
  let head ← word "extern"
  let ts ← rest
  if (Token.word "crate").opens ts then
    let row ← inOrder [word "crate", do if ← sees (.word "self") then anyName else name]
    let renamed ← optional (.word "as") (inOrder
      [word "as", do if ← sees (.word "_") then anyName else name])
    return head ++ row ++ renamed ++ (← sign ";")
  else if (Token.group .brace).opens ts then
    if visible then missing [.word "extern"]
    return head ++ (← members g (foreignMember g))
  else if Token.string.opens ts then
    let convention ← literal
    if ← sees (.group .brace) then
      if visible then missing [.word "extern"]
      return head ++ convention ++ (← members g (foreignMember g))
    else
      missing [.group .brace]
  else
    missing [.word "crate", .group .brace, .string]

def wordMacro : Reader Row := do
  let head ← inOrder [word "macro", name]
  let parameters ← optional (.group .parenthesis) anyGroup
  if ← sees (.group .brace) then
    return head ++ parameters ++ (← anyGroup)
  else
    missing (if parameters.isEmpty then [.group .parenthesis, .group .brace] else [.group .brace])

def traitItem : Reader Row := do
  let head ← inOrder [word "trait", name, genericsRow g]
  let ts ← rest
  if ts.startsWith [.group .brace, .sign ":", .word "where"] then
    return head ++ (← traitRest g)
  else if (Token.sign "=").opens ts then
    return head ++ (← boundsAlias g)
  else
    missing [.group .brace, .sign ":", .word "where", .sign "="]

def markedTrait : Reader Row :=
  inOrder [optionalWord "unsafe", optionalWord "auto", word "trait", name, genericsRow g,
    traitRest g]

def uncheckedItem (visible : Bool) : Reader Regular := do
  let ts ← rest
  let second := ts.behind
  if (Token.word "trait").opens second
      || (Token.word "auto").opens second && (Token.word "trait").opens second.behind then
    regular (markedTrait g)
  else if (Token.word "impl").opens second then
    let head ← word "unsafe"
    let i ← implementation g
    return ⟨head ++ i.row, i.isRegular && !visible⟩
  else if (Token.word "extern").opens second then
    if visible then missing [.word "extern"]
    let head ← inOrder [word "unsafe", convention]
    regular (return head ++ (← members g (foreignMember g)))
  else if (Token.word "mod").opens second then
    regular (inOrder [word "unsafe", moduleItem g])
  else
    let _ ← word "unsafe"
    missing [.word "trait", .word "auto", .word "impl", .word "extern", .word "mod"]

def itemChoices (visible : Bool) : List (Choice Regular) :=
  [⟨startsFunction false, do
      let head ← signature g false
      if ← sees (.sign ";") then
        irregular (sign ";")
      else
        regular (return head ++ (← functionBody g))⟩,
   ⟨(·.startsWith [.word "extern"]), regular (foreignItem g visible)⟩,
   ⟨(·.startsWith [.word "use"]), imports g⟩,
   ⟨(·.startsWith [.word "static"]), staticItem g⟩,
   ⟨(·.startsWith [.word "const"]), constant g true⟩,
   ⟨(·.startsWith [.word "unsafe"]), uncheckedItem g visible⟩,
   ⟨(·.startsWith [.word "mod"]), regular (moduleItem g)⟩,
   ⟨(·.startsWith [.word "type"]), do
      let t ← typeItem g true false
      return ⟨t.row, !t.hasBounds && t.hasType⟩⟩,
   ⟨(·.startsWith [.word "struct"]),
    regular (inOrder [word "struct", name, genericsRow g, recordFields g])⟩,
   ⟨(·.startsWith [.word "enum"]),
    regular (inOrder [word "enum", name, genericsRow g, conditionsRow g,
      enclosed .brace (items (variant g))])⟩,
   ⟨fun ts => (Token.word "union").opens ts && Token.name.opens ts.behind,
    regular (inOrder [word "union", name, genericsRow g, conditionsRow g, namedFields g])⟩,
   ⟨(·.startsWith [.word "trait"]), regular (traitItem g)⟩,
   ⟨fun ts => (Token.word "auto").opens ts && (Token.word "trait").opens ts.behind,
    regular (markedTrait g)⟩,
   ⟨fun ts => (Token.word "impl").opens ts
      || (Token.word "default").opens ts && !(Token.sign "!").opens ts.behind, do
      let head ← inOrder [optionalWord "default", optionalWord "unsafe"]
      let i ← implementation g
      return ⟨head ++ i.row, i.isRegular && !visible⟩⟩,
   ⟨(·.startsWith [.word "macro"]), irregular wordMacro⟩,
   ⟨fun ts => !visible && ts.startsWith invocationStarts, regular (invocationItem true)⟩]

def itemStarts : List Token :=
  [.word "fn", .word "extern", .word "use", .word "static", .word "const", .word "unsafe",
    .word "mod", .word "type", .word "struct", .word "enum", .word "union", .word "trait",
    .word "auto", .word "impl", .word "default", .word "macro"]

def readItem : Reader Row := keep do
  let attributes ← outerAttributes g
  let visible ← visibility
  let isVisible := !visible.isEmpty
  let item ← choose (itemChoices g isVisible) do
    let ts ← rest
    let starts := itemStarts.filter fun t => !t.opens ts
    missing (starts ++ if isVisible then [] else invocationStarts)
  return { item with row := attributes ++ visible ++ item.row }

end CommandLine.Source.Grammar
