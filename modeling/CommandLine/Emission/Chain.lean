import CommandLine.Source.Token

/-! A chain of guarded branches that may end with a fallback. -/

namespace CommandLine

open Source

structure Chain (γ β : Type) where
  branches : List (γ × β) := []
  fallback : Option β := none
  deriving DecidableEq, Repr

inductive ChainError
  | branchAfterFallback
  | fallbackTwice
  deriving DecidableEq, Repr

namespace ChainError

def message : ChainError → String
  | branchAfterFallback => "dispatch chain already ends with a fallback branch"
  | fallbackTwice => "dispatch chain fallback branch set twice"

end ChainError

inductive ChainCall (γ β : Type)
  | branch (guard : γ) (body : β)
  | fallback (body : β)
  deriving DecidableEq, Repr

namespace Chain

variable {γ β : Type}

-- What a call comes to: why it was refused, if it was, and the chain behind it.

def branch (c : Chain γ β) (guard : γ) (body : β) : Option ChainError × Chain γ β :=
  if c.fallback.isSome then
    (some .branchAfterFallback, c)
  else
    (none, { c with branches := c.branches ++ [(guard, body)] })

def setFallback (c : Chain γ β) (body : β) : Option ChainError × Chain γ β :=
  if c.fallback.isSome then
    (some .fallbackTwice, c)
  else
    (none, { c with fallback := some body })

def call (c : Chain γ β) : ChainCall γ β → Option ChainError × Chain γ β
  | .branch guard body => c.branch guard body
  | .fallback body => c.setFallback body

def calls (c : Chain γ β) : List (ChainCall γ β) → List (Option ChainError × Chain γ β)
  | [] => []
  | k :: rest => c.call k :: (c.call k).2.calls rest

def taken : Option ChainError × Chain γ β → Except ChainError (Chain γ β)
  | (none, c) => .ok c
  | (some e, _) => .error e

def select {ρ : Type} (test : γ → Option ρ) (otherwise : ρ) (c : Chain γ β) : Option (β × ρ) :=
  match c.branches.findSome? fun b => (test b.1).map fun r => (b.2, r) with
  | some chosen => some chosen
  | none => c.fallback.map fun b => (b, otherwise)

end Chain

def spaced (texts : List String) : String :=
  " ".intercalate (texts.filter fun s => s ≠ "")

def braces (s : String) : String :=
  Source.Tree.enclose .brace s

namespace Chain

variable {γ β : Type}

def render (guardText : γ → String) (bodyText : β → String) (c : Chain γ β) : String :=
  " else ".intercalate
    (c.branches.map (fun b => spaced ["if", guardText b.1, braces (bodyText b.2)]) ++
      c.fallback.toList.map fun b => braces (bodyText b))

def trees (guardTrees : γ → Row) (bodyTrees : β → Row) (c : Chain γ β) : Row :=
  Row.separated (.ident ⟨"else", false⟩)
    (c.branches.map (fun b => Row.ofWord "if" ++ guardTrees b.1 ++ Row.ofGroup .brace (bodyTrees b.2)) ++
      c.fallback.toList.map fun b => Row.ofGroup .brace (bodyTrees b))

end Chain

end CommandLine
