import CommandLine.Proofs.Emission.Generated

/-! The generated text, as the source language reads it, computes what the command does. -/

namespace CommandLine

open Source

namespace Definition

variable {d : Definition} {c : Command}

/-- The generated text is read as a constructor that computes what the command does. -/
theorem generated_constructor_refines_command {name : Ident} {module : Option Ident}
    (accepted : d.command = .ok c) (written : d.Written) (named : c.constructorName = .ok name)
    (placed : c.moduleName = .ok module) :
    ∃ text ts p, c.generate = .ok text ∧ Source.trees? text = some ts ∧
      Constructor.read? d.declared ts = some { visibility := d.visibility, module, name, program := p } ∧
      c.program = .ok p ∧ p.Implements c ∧ ∀ items, p.run? items = some (c.run items) := by
  have hp := c.program_eq
  obtain ⟨text, ts, hg, ht, hr⟩ := read?_generated written accepted named placed hp
  exact ⟨text, ts, _, hg, ht, hr, hp, implements_of_command accepted hp, run?_eq accepted hp⟩

def scaled : Definition where
  ident := ⟨"Scaled", false⟩
  fields := [
    { ident := some ⟨"scale", false⟩
      type := [.ident ⟨"f64", false⟩]
      attributes := [⟨[.ident ⟨"cli", false⟩], .list .parenthesis
        [.literal (.ofString "type:option short:s default:0.1")]⟩] },
    { ident := some ⟨"input", false⟩, type := [.ident ⟨"String", false⟩] }]

def scaledCommand : Command where
  ident := ⟨"Scaled", false⟩
  fields := [
    { ident := ⟨"scale", false⟩, name := "scale", short := "s", kind := .float .double, role := .option
      default := some (.float .double (.finite false 7205759403792794 (-56))) },
    { ident := ⟨"input", false⟩, name := "input", kind := .text }]

theorem scaled_constructor_refines_command : scaled.command = .ok scaledCommand ∧ scaled.Written ∧
    scaledCommand.constructorName = .ok ⟨"new_scaled", false⟩ ∧ scaledCommand.moduleName = .ok none ∧
    ∃ text ts p, scaledCommand.generate = .ok text ∧ Source.trees? text = some ts ∧
      Constructor.read? scaled.declared ts =
        some { visibility := [], module := none, name := ⟨"new_scaled", false⟩, program := p } ∧
      p.Implements scaledCommand ∧
      p.run? ["\\-in"] = some (.ok [
        (⟨"scale", false⟩, .float .double (.finite false 7205759403792794 (-56))),
        (⟨"input", false⟩, .text "-in")]) ∧
      p.run? ["--scale"] = some (.error (.missingValue "scale" "--scale")) := by
  have accepted : scaled.command = .ok scaledCommand := by
    have ho : scaled.outerErrors = [] := by decide +kernel
    have hf : scaled.fieldResults = scaledCommand.fields.map .ok := by decide +kernel
    simp only [command, ho, hf]
    rfl
  have written : scaled.Written := ⟨by decide +kernel, .none, trivial, by decide +kernel⟩
  have named : scaledCommand.constructorName = .ok ⟨"new_scaled", false⟩ := by decide +kernel
  have placed : scaledCommand.moduleName = .ok none := rfl
  obtain ⟨text, ts, p, hg, ht, hread, -, hi, hr⟩ := generated_constructor_refines_command accepted written named placed
  refine ⟨accepted, written, named, placed, text, ts, p, hg, ht, hread, hi, ?_, ?_⟩
  · rw [hr]
    exact congrArg some (by decide +kernel)
  · rw [hr]
    exact congrArg some (by decide +kernel)

end Definition

end CommandLine
