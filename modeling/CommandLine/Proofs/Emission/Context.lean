import CommandLine.Emission.Eval
import CommandLine.Proofs.Route

/-! What emission makes of a command and what it notes on the way. -/

namespace CommandLine

open Source

namespace Imports

def note (i : Imports) (f : Field) : Imports :=
  if f.kind.needsConversion then i.requireConvert else i

lemma needsConvert_note (i : Imports) (f : Field) :
    (i.note f).needsConvert = (i.needsConvert || f.kind.needsConversion) := by
  cases h : f.kind.needsConversion <;> simp [note, requireConvert, h]

lemma needsConvert_foldl_note (fields : List Field) (i : Imports) : (fields.foldl note i).needsConvert = true ↔
    i.needsConvert = true ∨ ∃ f ∈ fields, f.kind.needsConversion = true := by
  induction fields generalizing i with
  | nil => simp
  | cons f fields ih => simp [ih, needsConvert_note, or_assoc]

end Imports

namespace Field

def keyArm (m : Mark) (f : Field) : Arm Literal :=
  ⟨.ofString (f.label m), [.requireValue .missingValue, .assign f.assignment .value]⟩

def turnArm (count : ℕ) (f : Field) : Arm ℕ :=
  ⟨count, [.assign f.assignment .item, .countDown]⟩

lemma run_assign (f : Field) (text : Operand) (i : Imports) :
    (f.assign text).run i = (.assign f.assignment text, i.note f) := by
  cases h : f.kind.needsConversion <;> simp [assign, Imports.note, h] <;> rfl

lemma run_labelArm (m : Mark) (f : Field) (i : Imports) : (f.labelArm m).run i = (f.keyArm m, i.note f) := by
  rw [labelArm, StateT.run_bind, run_assign]
  rfl

lemma run_countArm (count : ℕ) (f : Field) (i : Imports) : (f.countArm count).run i = (f.turnArm count, i.note f) := by
  rw [countArm, StateT.run_bind, run_assign]
  rfl

end Field

namespace Command

variable {c : Command}

def turnArms : List Field → List (Arm ℕ)
  | [] => []
  | f :: rest => f.turnArm (rest.length + 1) :: turnArms rest

def keyBlock (m : Mark) (options : List Field) : Block :=
  ⟨[.splitOption], .key (options.map (Field.keyArm m)) (.unknown m)⟩

def turnBlock (arguments : List Field) : Block :=
  if arguments.isEmpty then
    { statements := [.refuse (.unexpected .unescaped)] }
  else
    ⟨[.bindItem .unescaped], .count (turnArms arguments) (.unexpected .item)⟩

lemma run_labelArms (m : Mark) (options : List Field) (i : Imports) :
    (options.mapM (Field.labelArm m)).run i = (options.map (Field.keyArm m), options.foldl Imports.note i) := by
  -- by induction on the options, whatever was noted before them
  induction options generalizing i with
  | nil => rfl
  | cons f options ih =>
    simp only [List.mapM_cons, StateT.run_bind, Field.run_labelArm, ih]
    rfl

lemma run_optionBlock (m : Mark) (options : List Field) (i : Imports) :
    (optionBlock m options).run i = (keyBlock m options, options.foldl Imports.note i) := by
  rw [optionBlock, StateT.run_bind, run_labelArms]
  rfl

lemma run_countArms (arguments : List Field) (i : Imports) :
    (countArms arguments).run i = (turnArms arguments, arguments.foldl Imports.note i) := by
  induction arguments generalizing i with
  | nil => rfl
  | cons f rest ih =>
    simp only [countArms, StateT.run_bind, Field.run_countArm, ih]
    rfl

lemma run_positionalBlock (arguments : List Field) (i : Imports) :
    (positionalBlock arguments).run i = (turnBlock arguments, arguments.foldl Imports.note i) := by
  cases arguments with
  | nil => rfl
  | cons f rest =>
    rw [positionalBlock, if_neg (by simp), StateT.run_bind, run_countArms]
    rfl

def tableCalls (c : Command) (m : Mark) : List (ChainCall Mark Block) :=
  if (c.table m).isEmpty then [] else [.branch m (keyBlock m (c.table m))]

def dispatchCalls (c : Command) : List (ChainCall Mark Block) :=
  c.tableCalls .long ++ c.tableCalls .short ++ [.fallback (turnBlock c.arguments)]

def emitted (c : Command) : List Field :=
  c.table .long ++ c.table .short ++ c.arguments

end Command

namespace Chain

def attempt {γ β : Type} (c : Chain γ β) (k : ChainCall γ β) : Except ChainError (Chain γ β) :=
  taken (c.call k)

end Chain

namespace Command

variable {c : Command}

section

variable {α β : Type} {x : ExceptT ChainError Emit α} {y : Emit α} {f : α → ExceptT ChainError Emit β} {a : α}
  {i j : Imports}

lemma run_bind_of_ok (h : x.run.run i = (.ok a, j)) : (x >>= f).run.run i = (f a).run.run j := by
  rw [ExceptT.run_bind, StateT.run_bind, h]
  rfl

lemma run_bind_lift (h : y.run i = (a, j)) : ((y : ExceptT ChainError Emit α) >>= f).run.run i = (f a).run.run j := by
  refine run_bind_of_ok ?_
  simp only [ExceptT.run_liftM, StateT.run_map, h]
  rfl

lemma run_liftExcept (r : Except ChainError α) (i : Imports) :
    (liftExcept r : ExceptT ChainError Emit α).run.run i = (r, i) := by
  cases r <;> rfl

end

lemma run_addTable (c : Command) (chain : Chain Mark Block) (m : Mark) (i : Imports) :
    (c.addTable chain m).run.run i =
      ((c.tableCalls m).foldlM Chain.attempt chain, (c.table m).foldl Imports.note i) := by
  rw [addTable, tableCalls]
  split
  · rename_i h
    rw [List.isEmpty_iff.mp h]
    rfl
  · rw [run_bind_lift (run_optionBlock m (c.table m) i), run_liftExcept, List.foldlM_cons]
    exact congrArg (·, _) (bind_pure _).symm

def tableBranch (c : Command) (m : Mark) : List (Mark × Block) :=
  if c.table m = [] then [] else [(m, keyBlock m (c.table m))]

def chain (c : Command) : Chain Mark Block where
  branches := c.tableBranch .long ++ c.tableBranch .short
  fallback := some (turnBlock c.arguments)

lemma foldlM_tableCalls (c : Command) (m : Mark) (branches : List (Mark × Block)) :
    (c.tableCalls m).foldlM Chain.attempt { branches } = .ok { branches := branches ++ c.tableBranch m } := by
  rw [tableCalls, tableBranch]
  by_cases h : c.table m = []
  · simp [h, pure, Except.pure]
  · simp only [h, List.isEmpty_iff, ↓reduceIte]
    rfl

lemma foldlM_dispatchCalls (c : Command) : c.dispatchCalls.foldlM Chain.attempt {} = .ok c.chain := by
  rw [dispatchCalls, List.foldlM_append, List.foldlM_append, foldlM_tableCalls]
  change ((c.tableCalls .short).foldlM Chain.attempt _ >>= _) = _
  rw [foldlM_tableCalls, List.nil_append]
  rfl

lemma run_tables (c : Command) (i : Imports) : ([Mark.long, Mark.short].foldlM c.addTable {}).run.run i =
    (.ok { branches := c.tableBranch .long ++ c.tableBranch .short },
      (c.table .long ++ c.table .short).foldl Imports.note i) := by
  have hl := c.run_addTable {} .long i
  have hs := c.run_addTable { branches := c.tableBranch .long } .short ((c.table .long).foldl Imports.note i)
  rw [foldlM_tableCalls] at hl hs
  rw [List.foldlM_cons, run_bind_of_ok hl, List.foldlM_cons, List.nil_append, run_bind_of_ok hs, List.foldl_append]
  rfl

lemma run_emitDispatch (c : Command) (i : Imports) :
    c.emitDispatch.run.run i = (.ok c.chain, c.emitted.foldl Imports.note i) := by
  rw [emitDispatch, run_bind_of_ok (c.run_tables i), run_bind_lift (run_positionalBlock c.arguments _), run_liftExcept,
    ← List.foldl_append]
  rfl

lemma dispatch_eq (c : Command) : c.dispatch = .ok c.chain :=
  congrArg Prod.fst (c.run_emitDispatch {})

lemma program_eq (c : Command) : c.program = .ok {
    target := c.ident
    imports := (c.emitted.foldl Imports.note {}).names
    fields := c.fieldInits
    counter := if c.arguments.isEmpty then none else some c.arguments.length
    dispatch := c.chain } := by
  rw [program, emitProgram, run_bind_of_ok (c.run_emitDispatch {})]
  rfl

end Command

end CommandLine
