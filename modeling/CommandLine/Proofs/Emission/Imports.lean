import CommandLine.Proofs.Classification

namespace CommandLine

open Source

namespace Conversion

def Calls (c : Conversion) (module : String) : Prop :=
  ∃ name rest, c.functionTrees = Row.ofLocalPath [module, name] ++ rest

lemma calls_convert_iff (c : Conversion) : c.Calls "convert" ↔ c.isCall = true := by
  cases c with
  | copy => exact iff_of_false (fun ⟨_, _, h⟩ => nomatch h) (by simp [isCall])
  | integer t => exact iff_of_true ⟨"integer", _, rfl⟩ rfl
  | float w => exact iff_of_true ⟨"float", _, rfl⟩ rfl
  | boolean => exact iff_of_true ⟨"boolean", [], rfl⟩ rfl

end Conversion

namespace Imports

lemma statements_render (i : Imports) : ∃ ts, Source.trees? i.render = some ts ∧
    Program.spanImports (Row.statements ts).1 = (i.names, []) := by
  have hlegible : ∀ row ∈ i.names.map importTrees, Tree.LegibleRow row := by
    intro row hr
    obtain ⟨name, hn, rfl⟩ := List.mem_map.mp hr
    exact Program.legible_import (isSpelled_of_mem_names hn)
  have hlacks : ∀ row ∈ i.names.map importTrees, row.Lacks (Tree.isSign ';') := by
    intro row hr
    obtain ⟨name, -, rfl⟩ := List.mem_map.mp hr
    exact Program.lacks_import name
  refine ⟨_, Tree.trees?_renderAll (Tree.legible_ofStatements hlegible trivial), ?_⟩
  have hspan : Program.spanImports (i.names.map importTrees ++ []) = (i.names, []) :=
    Program.spanImports_map i.names nofun
  rw [List.append_nil] at hspan
  rw [Row.statements_ofStatements hlacks (Row.lacks_nil _), hspan]

end Imports

namespace Command

variable {c : Command}

lemma exists_calls_iff (c : Command) : (∃ a ∈ c.chain.assignments, a.conversion.Calls "convert") ↔
    ∃ f ∈ c.emitted, f.kind.needsConversion = true := by
  simp only [assignments_chain, List.mem_map, exists_exists_and_eq_and, Field.assignment,
    Conversion.calls_convert_iff, Conversion.isCall_ofKind]

end Command

namespace Definition

open Command

variable {d : Definition} {c : Command}

lemma exists_kind_iff (h : d.command = .ok c) : (∃ f ∈ c.emitted, f.kind.needsConversion = true) ↔
    ∃ decl ∈ d.fields, ∃ k, Kind.ofType? decl.type = some k ∧ k ≠ .text := by
  have hconversion : ∀ k : Kind, k.needsConversion = true ↔ k ≠ .text := by
    intro k
    cases k <;> simp [Kind.needsConversion]
  simp only [(classified_of_command h).mem_emitted_iff, hconversion]
  refine ⟨?_, ?_⟩
  · rintro ⟨f, hf, hk⟩
    obtain ⟨decl, hd, hdecl⟩ := exists_decl_of_mem h hf
    obtain ⟨p, -, ht, -⟩ := FieldDecl.field_eq_ok hdecl
    exact ⟨decl, hd, f.kind, ht, hk⟩
  · rintro ⟨decl, hd, k, ht, hk⟩
    obtain ⟨f, hf, hdecl⟩ := exists_field_of_mem h hd
    obtain ⟨p, -, ht', -⟩ := FieldDecl.field_eq_ok hdecl
    exact ⟨f, hf, Option.some.inj (ht'.symm.trans ht) ▸ hk⟩

/-- The conversion library is imported exactly if some field is declared with another type than text. -/
theorem convert_imported_iff (accepted : d.command = .ok c) : ∃ p, c.program = .ok p ∧
    "ArgsError" ∈ p.imports ∧ "tokens" ∈ p.imports ∧
    ("convert" ∈ p.imports ↔ ∃ a ∈ p.dispatch.assignments, a.conversion.Calls "convert") ∧
    ("convert" ∈ p.imports ↔ ∃ decl ∈ d.fields, ∃ k, Kind.ofType? decl.type = some k ∧ k ≠ .text) ∧
    ∀ name module, d.Written → c.constructorName = .ok name → c.moduleName = .ok module →
      ∃ text ts, c.generate = .ok text ∧ Source.trees? text = some ts ∧
        Constructor.read? d.declared ts = some { visibility := d.visibility, module, name, program := p } := by
  have hp := c.program_eq
  refine ⟨_, hp, by simp [Imports.names], by simp [Imports.names], ?_, ?_,
    fun name module written named placed => read?_generated written accepted named placed hp⟩
  · rw [convert_mem_imports_iff hp, exists_calls_iff]
  · rw [convert_mem_imports_iff hp, exists_kind_iff accepted]

def switched : Definition where
  ident := ⟨"Switched", false⟩
  fields := [.annotated "input" "String" "", .annotated "verbose" "bool" "type:option name:'' short:v"]

def switchedCommand : Command where
  ident := ⟨"Switched", false⟩
  fields := [
    { ident := ⟨"input", false⟩, name := "input", kind := .text },
    { ident := ⟨"verbose", false⟩, name := "", short := "v", kind := .boolean, role := .option }]

def worded : Definition where
  ident := ⟨"Worded", false⟩
  fields := [
    .annotated "input" "String" "",
    .annotated "note" "String" "type:option default:'use :: clitag :: convert ;'"]

def wordedCommand : Command where
  ident := ⟨"Worded", false⟩
  fields := [
    { ident := ⟨"input", false⟩, name := "input", kind := .text },
    { ident := ⟨"note", false⟩, name := "note", kind := .text, role := .option
      default := some (.text "use :: clitag :: convert ;") }]

theorem switched_convert_imported :
    (∃ text ts p, switchedCommand.generate = .ok text ∧ Source.trees? text = some ts ∧
      Constructor.read? switched.declared ts =
        some { visibility := [], module := none, name := ⟨"new_switched", false⟩, program := p } ∧
      "convert" ∈ p.imports ∧ ∃ a ∈ p.dispatch.assignments, a.conversion.Calls "convert") ∧
    ∃ text ts p, wordedCommand.generate = .ok text ∧ Source.trees? text = some ts ∧
      Constructor.read? worded.declared ts =
        some { visibility := [], module := none, name := ⟨"new_worded", false⟩, program := p } ∧
      "convert" ∉ p.imports := by
  have accepted : switched.command = .ok switchedCommand := by
    rw [command_eq_ok_iff]
    exact ⟨by decide +kernel, rfl, by decide +kernel, rfl⟩
  have accepted' : worded.command = .ok wordedCommand := by
    rw [command_eq_ok_iff]
    exact ⟨by decide +kernel, rfl, by decide +kernel, rfl⟩
  have written : switched.Written := ⟨by decide +kernel, .none, trivial, by decide +kernel⟩
  have written' : worded.Written := ⟨by decide +kernel, .none, trivial, by decide +kernel⟩
  obtain ⟨p, -, -, -, hcalls, hkind, hread⟩ := convert_imported_iff accepted
  obtain ⟨p', -, -, -, -, hkind', hread'⟩ := convert_imported_iff accepted'
  obtain ⟨text, ts, hg, ht, hr⟩ := hread ⟨"new_switched", false⟩ none written (by decide +kernel) rfl
  obtain ⟨text', ts', hg', ht', hr'⟩ := hread' ⟨"new_worded", false⟩ none written' (by decide +kernel) rfl
  have himport : "convert" ∈ p.imports := by
    refine hkind.mpr ⟨.annotated "verbose" "bool" "type:option name:'' short:v", by simp [switched], .boolean, ?_, ?_⟩
    · decide +kernel
    · decide
  refine ⟨⟨text, ts, p, hg, ht, hr, himport, hcalls.mp himport⟩, text', ts', p', hg', ht', hr', fun h => ?_⟩
  obtain ⟨decl, hd, k, ht, hk⟩ := hkind'.mp h
  have htext : ∀ decl ∈ worded.fields, Kind.ofType? decl.type = some .text := by decide +kernel
  exact hk (Option.some.inj (ht.symm.trans (htext decl hd)))

end Definition

end CommandLine
