import CommandLine.Source.Grammar.Path

namespace CommandLine.Source.Grammar

open Reader

variable (g : Grammar)

inductive Parenthesized
  | elements (row : Row)
  | relaxed (row : Row)
  | single (t : TypeRow)

def parenthesizedBody : Reader Parenthesized := do
  let ts ← rest
  if ts.isEmpty then
    return .elements []
  else if ts.startsWith [.lifetime] then
    return .elements (← g.typeRow true)
  else if ts.startsWith [.sign "?"] then
    return .relaxed (← namedBound g false).row
  else
    let first ← g.type true
    if ← sees (.sign ",") then
      return .elements (first.row ++ (← sign ",") ++ (← items (g.typeRow true)))
    else
      return .single first

def addedBounds : Reader Row :=
  whileDue (sees (.sign "+")) (inOrder [sign "+", g.boundRow false false])

def boundOf? (t : TypeRow) : Option Row :=
  match t.shape with
  | .path p => if p.qualified then none else some p.row
  | .bounds single => single
  | .other => none

def parenthesizedType (plus : Bool) : Reader TypeRow := do
  match ← within .parenthesis (parenthesizedBody g) with
  | .elements row => return ⟨[.group .parenthesis row], .other⟩
  | .relaxed row =>
    let more ← addedBounds g
    return ⟨.group .parenthesis row :: more, .bounds (if more.isEmpty then some row else none)⟩
  | .single t =>
    match boundOf? t with
    | some row =>
      if plus && (← sees (.sign "+")) then
        return ⟨.group .parenthesis row :: (← addedBounds g), .bounds none⟩
      else
        return ⟨[.group .parenthesis t.row], .other⟩
    | none => return ⟨[.group .parenthesis t.row], .other⟩

def convention : Reader Row :=
  optional (.word "extern") (inOrder [word "extern", optional .string literal])

def startsNamed (allowSelf : Bool) (ts : Row) : Bool :=
  (ts.startsWith [.name, .word "_"] || allowSelf && ts.startsWith [.word "self"])
    && (Token.sign ":").opens ts.behind && !(Token.sign "::").opens ts.behind

def functionTypeParameter (first : Bool) : Reader Row := do
  let ts ← rest
  if first && (Token.word "mut").opens ts && (Token.word "self").opens ts.behind then
    asWritten do
      let _ ← word "mut"
      if startsNamed true (← rest) then
        inOrder [anyName, sign ":", g.typeRow true]
      else
        word "self"
  else if startsNamed first ts then
    inOrder [anyName, sign ":", g.typeRow true]
  else
    g.typeRow true

def startsVariadic (ts : Row) : Bool :=
  (Token.sign "...").opens ts
    || ts.startsWith [.name, .word "_"] && (Token.sign ":").opens ts.behind
      && (Token.sign "...").opens ts.behind.behind

def variadic : Reader Row :=
  inOrder [do if ← sees (.sign "...") then return [] else inOrder [anyName, sign ":"],
    sign "...", optionalSign ","]

def functionTypeParameters : Reader Row :=
  return (← iterate (fun (row, ended) => do
    if ended || (← atEnd) then
      return none
    else
      let attributes ← outerAttributes g
      if startsVariadic (← rest) then
        return some (row ++ attributes ++ (← variadic), true)
      else
        let parameter ← functionTypeParameter g row.isEmpty
        let row := row ++ attributes ++ parameter
        if ← atEnd then return some (row, true) else return some (row ++ (← sign ","), false))
    ([], false)).1

def functionType : Reader Row :=
  inOrder [binder g, optionalWord "unsafe", convention, word "fn",
    enclosed .parenthesis (functionTypeParameters g), result g false]

def pathType (plus : Bool) (bound : Row) : Reader TypeRow := do
  let p ← application g (← qualifiedPath g .type)
  let ts ← rest
  if p.qualified then
    return ⟨p.row, .path p⟩
  else if p.isPlain && (Token.sign "!").opens ts && !(Token.sign "!=").opens ts then
    return ⟨p.row ++ (← sign "!") ++ (← anyGroup), .other⟩
  else if !bound.isEmpty || plus && (Token.sign "+").opens ts then
    let row := bound ++ p.row
    if plus && (Token.sign "+").opens ts then
      let (_, all) ← moreBounds g false false ([], row)
      return ⟨all, .bounds none⟩
    else
      return ⟨row, .bounds (some row)⟩
  else
    return ⟨p.row, .path p⟩

def bounds (plus captures constants : Bool) (missingTrait : SyntaxFault) : Reader Row := do
  let first ← g.bound captures constants
  let (all, row) ←
    if plus then moreBounds g captures constants ([first], first.row) else pure ([first], first.row)
  if all.any fun b => b.kind = .named || b.kind = .verbatim then
    return row
  else
    throw missingTrait

def objectBounds (plus : Bool) : Reader Row :=
  bounds g plus false false .objectWithoutTrait

def objectType (plus : Bool) : Reader Row := do
  let ((starred, row), taken) ← captured do
    let head ← word "dyn"
    let star ← optionalSign "*"
    let bounds ← objectBounds g plus
    return (!star.isEmpty, head ++ bounds)
  return if starred then taken else row

def arrayType : Reader Row :=
  enclosed .bracket (inOrder [g.typeRow true,
    optional (.sign ";") (inOrder [sign ";", g.expressionRow])])

def pointerType : Reader Row := do
  let star ← sign "*"
  if ← sees (.word "const") then
    return star ++ (← word "const") ++ (← g.typeRow false)
  else if ← sees (.word "mut") then
    return star ++ (← word "mut") ++ (← g.typeRow false)
  else
    missing [.word "const", .word "mut"]

def referenceType : Reader Row :=
  inOrder [sign "&", optional .lifetime lifetime, optionalWord "mut", g.typeRow false]

def pathStarts : List Token :=
  [.name, .word "super", .word "self", .word "Self", .word "crate", .sign "::", .sign "<"]

def typeChoices (plus : Bool) (bound : Row) : List (Choice TypeRow) :=
  let plain (r : Reader Row) : Reader TypeRow := return ⟨← r, .other⟩
  [⟨(·.startsWith [.group .parenthesis]), parenthesizedType g plus⟩,
   ⟨(·.startsWith [.word "fn", .word "unsafe", .word "extern"]),
    plain (return bound ++ (← functionType g))⟩,
   ⟨(·.startsWith pathStarts), pathType g plus bound⟩,
   ⟨(·.startsWith [.word "dyn"]), plain (objectType g plus)⟩,
   ⟨(·.startsWith [.group .bracket]), plain (arrayType g)⟩,
   ⟨(·.startsWith [.sign "*"]), plain (pointerType g)⟩,
   ⟨(·.startsWith [.sign "&"]), plain (referenceType g)⟩,
   ⟨(·.startsWith [.sign "!"]), plain (sign "!")⟩,
   ⟨(·.startsWith [.word "impl"]),
    plain (inOrder [word "impl", bounds g plus true true .boundWithoutTrait])⟩,
   ⟨(·.startsWith [.word "_"]), plain (word "_")⟩,
   ⟨(·.startsWith [.lifetime]), plain (objectBounds g true)⟩]

def typeStarts : List Token :=
  [.group .parenthesis, .word "fn", .word "unsafe", .word "extern", .name, .sign "::", .sign "<",
    .word "dyn", .group .bracket, .sign "*", .sign "&", .sign "!", .word "impl", .word "_",
    .lifetime]

def boundTypeStarts : List Token :=
  [.name, .word "fn", .word "unsafe", .word "extern", .word "super", .word "self", .word "Self",
    .word "crate"]

def readType (plus : Bool) : Reader TypeRow := do
  if ← sees (.word "for") then
    let bound ← binder g
    if (← rest).startsWith boundTypeStarts then
      choose (typeChoices g plus bound) (missing typeStarts)
    else
      missing boundTypeStarts
  else
    choose (typeChoices g plus []) (missing (.word "for" :: typeStarts))

end CommandLine.Source.Grammar
