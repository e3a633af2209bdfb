import CommandLine.Proofs.Emission.Simulation
import CommandLine.Proofs.Initializer
import Mathlib.Data.List.Forall2

/-! What a generated constructor computes is the result of the command that it was made for. -/

namespace CommandLine

open Source

variable {d : Definition} {c : Command} {p : Program} {f : Field} {m : Mark}

structure Assignment.For (a : Assignment) (f : Field) : Prop where
  field : a.field = f.ident
  conversion : a.conversion = .ofKind f.kind
  value : ∀ text, a.conversion.apply text = f.kind.convert text

structure Arm.ForKey (m : Mark) (a : Arm Literal) (f : Field) : Prop where
  label : a.pattern.stringValue? = some (f.label m)
  body : ∃ s : Assignment, a.body = [.requireValue .missingValue, .assign s .value] ∧ s.For f

structure FieldInit.For (i : FieldInit) (f : Field) : Prop where
  field : i.field = f.ident
  kind : i.kind = f.kind
  value : i.initializer.eval i.kind = some f.initialValue
  text : ∀ s, f.default = some (.text s) → ∃ l, i.initializer = .text l ∧ l.stringValue? = some s

structure Command.BranchFor (c : Command) (b : Mark × Block) (m : Mark) : Prop where
  mark : b.1 = m
  arms : ∃ arms, b.2 = ⟨[.splitOption], .key arms (.unknown m)⟩ ∧ List.Forall₂ (Arm.ForKey m) arms (c.table m)

def Arm.Pairs (arms : List (Arm ℕ)) (arguments : List Field) : Prop :=
  arms.length = arguments.length ∧ ∀ (i : ℕ) (f : Field), arguments[i]? = some f →
    ∃ s : Assignment, arms[i]? = some ⟨arguments.length - i, [.assign s .item, .countDown]⟩ ∧ s.For f

structure Program.Implements (p : Program) (c : Command) : Prop where
  target : p.target = c.ident
  fields : List.Forall₂ FieldInit.For p.fields c.fields
  branches : List.Forall₂ c.BranchFor p.dispatch.branches ([.long, .short].filter fun m => c.table m ≠ [])
  refuses : c.arguments = [] → p.counter = none ∧
    p.dispatch.fallback = some { statements := [.refuse (.unexpected .unescaped)] }
  counts : c.arguments ≠ [] → p.counter = some c.arguments.length ∧ ∃ arms,
    p.dispatch.fallback = some ⟨[.bindItem .unescaped], .count arms (.unexpected .item)⟩ ∧ Arm.Pairs arms c.arguments

lemma Conversion.isCall_ofKind (k : Kind) : (ofKind k).isCall = k.needsConversion := by
  cases k <;> rfl

namespace Field

lemma assignment_for (f : Field) : f.assignment.For f :=
  ⟨rfl, rfl, Conversion.apply_ofKind f.kind⟩

lemma keyArm_for (m : Mark) (f : Field) : (f.keyArm m).ForKey m f :=
  ⟨Literal.stringValue?_ofString _, _, rfl, f.assignment_for⟩

end Field

namespace Command

lemma turnArms_pairs (arguments : List Field) : Arm.Pairs (turnArms arguments) arguments := by
  induction arguments with
  | nil => exact ⟨rfl, by simp⟩
  | cons f rest ih =>
    refine ⟨congrArg (· + 1) ih.1, fun i g hg => ?_⟩
    cases i with
    | zero =>
      obtain rfl : f = g := by simpa using hg
      exact ⟨_, rfl, f.assignment_for⟩
    | succ i =>
      obtain ⟨s, hs, hf⟩ := ih.2 i g (by simpa using hg)
      exact ⟨s, by simpa [turnArms] using hs, hf⟩

lemma assignments_keyBlock (m : Mark) (options : List Field) :
    (keyBlock m options).assignments = options.map Field.assignment := by
  rw [Block.assignments, Block.bodies, keyBlock, List.flatten_cons, List.filterMap_append]
  induction options with
  | nil => rfl
  | cons f options ih => exact congrArg (f.assignment :: ·) ih

lemma assignments_turnBlock (arguments : List Field) :
    (turnBlock arguments).assignments = arguments.map Field.assignment := by
  rw [turnBlock]
  split
  · rename_i h
    rw [List.isEmpty_iff.mp h]
    rfl
  · rw [Block.assignments, Block.bodies, List.flatten_cons, List.filterMap_append]
    clear * -
    induction arguments with
    | nil => rfl
    | cons f rest ih => exact congrArg (f.assignment :: ·) ih

lemma assignments_tableBranch (c : Command) (m : Mark) :
    ((c.tableBranch m).map Prod.snd).flatMap Block.assignments = (c.table m).map Field.assignment := by
  rw [tableBranch]
  split
  · rename_i h
    rw [h]
    rfl
  · rw [List.map_singleton, List.flatMap_singleton, assignments_keyBlock]

lemma assignments_chain (c : Command) : c.chain.assignments = c.emitted.map Field.assignment := by
  rw [Chain.assignments, Chain.blocks, chain, Option.toList_some, List.map_append, List.flatMap_append,
    List.flatMap_append, assignments_tableBranch, assignments_tableBranch, List.flatMap_singleton,
    assignments_turnBlock, emitted, List.map_append, List.map_append]

lemma mem_emitted (h : f ∈ c.emitted) : f ∈ c.fields := by
  rcases List.mem_append.mp h with h | h
  · rcases List.mem_append.mp h with h | h
    · exact (mem_table h).1
    · exact (mem_table h).1
  · exact (mem_arguments_iff.mp h).1

lemma counts_keyBlock (m : Mark) (options : List Field) : (keyBlock m options).counts = false := by
  rw [Block.counts, keyBlock, Block.bodies, List.flatten_cons]
  induction options with
  | nil => rfl
  | cons f options ih => exact ih

lemma counts_chain (h : c.arguments = []) : c.chain.blocks.any Block.counts = false := by
  have hb : ∀ m, ((c.tableBranch m).map Prod.snd).any Block.counts = false := by
    intro m
    rw [tableBranch]
    split
    · rfl
    · rw [List.map_singleton, List.any_cons, counts_keyBlock]
      rfl
  have ht : (turnBlock c.arguments).counts = false := by
    rw [h]
    rfl
  rw [Chain.blocks, chain, List.map_append, List.any_append, List.any_append, hb, hb]
  simp [ht]

lemma convert_mem_imports_iff (hp : c.program = .ok p) :
    "convert" ∈ p.imports ↔ ∃ f ∈ c.emitted, f.kind.needsConversion = true := by
  cases hp.symm.trans c.program_eq
  have hf := Imports.needsConvert_foldl_note c.emitted {}
  simp only [Bool.false_eq_true, false_or] at hf
  rw [← hf, Imports.names]
  cases (c.emitted.foldl Imports.note {}).needsConvert <;> simp

lemma isBound_of_program (hp : c.program = .ok p) : p.isBound = true := by
  have hconvert := convert_mem_imports_iff hp
  cases hp.symm.trans c.program_eq
  rw [Program.isBound, Bool.and_eq_true, Bool.and_eq_true]
  refine ⟨⟨by simp [Imports.names], ?_⟩, ?_⟩
  · rw [assignments_chain, List.all_map, List.all_eq_true]
    intro f hf
    have hi : (⟨f.ident, f.kind, f.initializer⟩ : FieldInit) ∈ c.fieldInits := List.mem_map_of_mem (mem_emitted hf)
    rw [Function.comp_apply, Program.admits, Bool.and_eq_true]
    refine ⟨List.any_eq_true.mpr ⟨_, hi, by simp [Field.assignment]⟩, ?_⟩
    cases hn : f.kind.needsConversion with
    | false => simp [Field.assignment, Conversion.isCall_ofKind, hn]
    | true => simpa using Or.inr (hconvert.mpr ⟨f, hf, hn⟩)
  · by_cases ha : c.arguments = []
    · rw [counts_chain ha]
      simp
    · simp [ha]

end Command

open Command

namespace Definition

lemma fieldInits_for (h : d.command = .ok c) : List.Forall₂ FieldInit.For c.fieldInits c.fields := by
  rw [Command.fieldInits, List.forall₂_map_left_iff, List.forall₂_same]
  intro f hf
  obtain ⟨decl, -, hd⟩ := exists_decl_of_mem h hf
  refine ⟨rfl, rfl, Field.eval_initializer fun v => FieldDecl.exists_source_of_default hd, fun s hs => ?_⟩
  refine ⟨.ofString s, ?_, Literal.stringValue?_ofString s⟩
  simp only [Field.initializer, hs]
  cases f.kind <;> rfl

lemma branches_for (c : Command) :
    List.Forall₂ c.BranchFor c.chain.branches ([.long, .short].filter fun m => c.table m ≠ []) := by
  have harms : ∀ m, List.Forall₂ (Arm.ForKey m) ((c.table m).map (Field.keyArm m)) (c.table m) := by
    intro m
    rw [List.forall₂_map_left_iff, List.forall₂_same]
    exact fun f _ => f.keyArm_for m
  have hbranches : c.chain.branches =
      ([Mark.long, .short].filter fun m => c.table m ≠ []).map fun m => (m, keyBlock m (c.table m)) := by
    by_cases hl : c.table .long = [] <;> by_cases hs : c.table .short = [] <;> simp [chain, tableBranch, hl, hs]
  rw [hbranches, List.forall₂_map_left_iff, List.forall₂_same]
  exact fun m _ => ⟨rfl, _, rfl, harms m⟩

lemma implements_of_command (h : d.command = .ok c) (hp : c.program = .ok p) : p.Implements c := by
  cases hp.symm.trans c.program_eq
  refine ⟨rfl, fieldInits_for h, branches_for c, ?_, ?_⟩
  · intro ha
    simp [chain, turnBlock, ha]
  · intro ha
    have hb : c.arguments.isEmpty = false := by simpa using ha
    refine ⟨by simp only [hb, Bool.false_eq_true, ↓reduceIte], turnArms c.arguments, ?_, turnArms_pairs _⟩
    simp only [chain, turnBlock, hb, Bool.false_eq_true, ↓reduceIte]

lemma initialRecord_of_for {inits : List FieldInit} {fields : List Field}
    (h : List.Forall₂ FieldInit.For inits fields) :
    (inits.mapM fun i => (i.initializer.eval i.kind).map fun v => (i.field, v)) =
      some (fields.map fun f => (f.ident, f.initialValue)) := by
  induction h with
  | nil => rfl
  | cons hi _ ih => simp [List.mapM_cons, ih, hi.value, hi.field]

lemma initialRecord?_eq (h : d.command = .ok c) (hp : c.program = .ok p) :
    p.initialRecord? = some c.initialRecord := by
  have hf := (implements_of_command h hp).fields
  rw [Program.initialRecord?, initialRecord_of_for hf, Command.initialRecord]

lemma steps_eq (hp : c.program = .ok p) (items : List String) :
    p.steps ⟨c.initialRecord, p.counter.getD 0⟩ items = liftExcept ((c.steps c.start items).map State.machine) := by
  cases hp.symm.trans c.program_eq
  have hm : (⟨c.initialRecord,
      (if c.arguments.isEmpty then none else some c.arguments.length).getD 0⟩ : Machine) = c.start.machine := by
    rw [State.machine, Command.start]
    cases c.arguments <;> rfl
  rw [hm, Command.steps_machine rfl List.suffix_rfl]

lemma run?_eq (h : d.command = .ok c) (hp : c.program = .ok p) (items : List String) :
    p.run? items = some (c.run items) := by
  rw [Program.run?, isBound_of_program hp, initialRecord?_eq h hp]
  change (Machine.record <$> p.steps ⟨c.initialRecord, p.counter.getD 0⟩ items).run = _
  rw [steps_eq hp, Outcome.map_liftExcept, Command.run]
  cases c.steps c.start items <;> rfl

lemma exists_program (h : d.command = .ok c) : ∃ p, c.program = .ok p ∧ ∀ items, p.run? items = some (c.run items) :=
  ⟨_, c.program_eq, run?_eq h c.program_eq⟩

end Definition

end CommandLine
