import CommandLine.Text.Printable

/-! The body of a quoted string literal. What cannot be shown is written by its code point. -/

namespace CommandLine.Source.Escape

def codePoint (c : Char) : List Char :=
  '\\' :: 'u' :: '{' :: Nat.toDigits 16 c.toNat ++ ['}']

def encodeChar (c : Char) : List Char :=
  if c = '"' then ['\\', '"']
  else if c = '\\' then ['\\', '\\']
  else if c = '\n' then ['\\', 'n']
  else if c = '\r' then ['\\', 'r']
  else if c = '\t' then ['\\', 't']
  else if Text.isPrintable c then [c]
  else codePoint c

def isOctalDigit (c : Char) : Bool :=
  '0' ≤ c && c ≤ '7'

def encodeNul (after : List Char) : List Char :=
  match after.head? with
  | some c => if isOctalDigit c then ['\\', 'x', '0', '0'] else ['\\', '0']
  | none => ['\\', '0']

def encode : List Char → List Char
  | [] => []
  | c :: cs => (if c = '\x00' then encodeNul cs else encodeChar c) ++ encode cs

def hexDigit? (c : Char) : Option Nat :=
  if '0' ≤ c ∧ c ≤ '9' then some (c.toNat - '0'.toNat)
  else if 'a' ≤ c ∧ c ≤ 'f' then some (c.toNat - 'a'.toNat + 10)
  else if 'A' ≤ c ∧ c ≤ 'F' then some (c.toNat - 'A'.toNat + 10)
  else none

def charOfNat? (n : Nat) : Option Char :=
  if n.isValidChar then some (Char.ofNat n) else none

inductive Mode
  -- between escapes
  | plain
  -- behind a backslash
  | escaped
  -- behind a carriage return, which only a line feed may follow
  | carriage
  -- in the blanks that a backslash at the end of a line skips
  | skipping
  -- in a byte escape, with the value of the first digit if it was read
  | byte (first : Option Nat)
  -- before the opening brace of a code point
  | brace
  -- in the digits of a code point, with their value and number
  | digits (value count : Nat)
  deriving DecidableEq, Repr

def plainStep (c : Char) : Mode × Option Char :=
  if c = '\\' then (.escaped, none)
  else if c = '\r' then (.carriage, none)
  else (.plain, some c)

def escapedStep (c : Char) : Option (Mode × Option Char) :=
  match c with
  | 'n' => some (.plain, some '\n')
  | 'r' => some (.plain, some '\r')
  | 't' => some (.plain, some '\t')
  | '0' => some (.plain, some '\x00')
  | '\\' => some (.plain, some '\\')
  | '\'' => some (.plain, some '\'')
  | '"' => some (.plain, some '"')
  | 'x' => some (.byte none, none)
  | 'u' => some (.brace, none)
  | '\n' => some (.skipping, none)
  | '\r' => some (.skipping, none)
  | _ => none

def step (m : Mode) (c : Char) : Option (Mode × Option Char) :=
  match m with
  | .plain => some (plainStep c)
  | .escaped => escapedStep c
  | .carriage => if c = '\n' then some (.plain, some '\n') else none
  | .skipping =>
    if c = ' ' ∨ c = '\t' ∨ c = '\n' ∨ c = '\r' then some (.skipping, none)
    else some (plainStep c)
  | .byte none => (hexDigit? c).map fun d => (.byte (some d), none)
  | .byte (some first) =>
    (hexDigit? c).bind fun d =>
      if first < 8 then some (.plain, some (Char.ofNat (16 * first + d))) else none
  | .brace => if c = '{' then some (.digits 0 0, none) else none
  | .digits value count =>
    if c = '}' then
      if count = 0 then none else (charOfNat? value).map fun r => (.plain, some r)
    else if c = '_' then
      if count = 0 then none else some (.digits value count, none)
    else
      (hexDigit? c).bind fun d =>
        if count < 6 then some (.digits (16 * value + d) (count + 1), none) else none

def decodeFrom : Mode → List Char → Option (List Char)
  | _, [] => none
  | m, c :: cs =>
    if c = '"' ∧ (m = .plain ∨ m = .skipping) then
      some []
    else
      match step m c with
      | none => none
      | some (m', out) => (decodeFrom m' cs).map (out.toList ++ ·)

def decode (cs : List Char) : Option (List Char) :=
  decodeFrom .plain cs

end CommandLine.Source.Escape
