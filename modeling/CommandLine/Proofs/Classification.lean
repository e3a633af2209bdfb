import CommandLine.Proofs.Emission.Generated

namespace CommandLine

open Source

variable {v : Value} {f : Field}

lemma FieldDecl.isLong_or_isShort {decl : FieldDecl} {owner : Ident} (h : decl.field owner = .ok f)
    (ho : f.isOption = true) : f.isLong = true ∨ f.isShort = true := by
  obtain ⟨p, -, -, -, hf⟩ := field_eq_ok h
  obtain ⟨s, -, -, hr, hf⟩ := fieldOfProps_eq_ok hf
  have hn : f.name = s.name := by rw [hf]
  have hs : f.short = s.short := by rw [hf]
  have hrole : s.role = .option := by
    rw [hf] at ho
    simpa [Field.isOption] using ho
  have hne : ¬ (f.name = "" ∧ f.short = "") := fun he => hr ⟨hrole, hn ▸ he.1, hs ▸ he.2⟩
  simpa [Field.isLong, Field.isShort, ho, ← not_and_or] using hne

namespace Command

variable {c : Command}

structure Classified (c : Command) : Prop where
  arguments : c.arguments = c.fields.filter fun f => f.role = .argument
  longOptions : c.longOptions = c.fields.filter fun f => f.role = .option ∧ f.name ≠ ""
  shortOptions : c.shortOptions = c.fields.filter fun f => f.role = .option ∧ f.short ≠ ""
  apart : ∀ f ∈ c.arguments, f ∉ c.longOptions ∧ f ∉ c.shortOptions
  cover : ∀ f ∈ c.fields, f ∈ c.arguments ∨ f ∈ c.longOptions ∨ f ∈ c.shortOptions

lemma Classified.mem_emitted_iff (h : c.Classified) : f ∈ c.emitted ↔ f ∈ c.fields := by
  refine ⟨mem_emitted, fun hf => ?_⟩
  rw [emitted, List.mem_append, List.mem_append]
  rcases h.cover f hf with ha | hl | hs
  · exact Or.inr ha
  · exact Or.inl (Or.inl hl)
  · exact Or.inl (Or.inr hs)

lemma Classified.exists_assignment (h : c.Classified) (hf : f ∈ c.fields) :
    ∃ a ∈ c.chain.assignments, a.For f := by
  refine ⟨f.assignment, ?_, f.assignment_for⟩
  rw [assignments_chain]
  exact List.mem_map_of_mem (h.mem_emitted_iff.mpr hf)

end Command

namespace Definition

open Command

variable {d : Definition} {c : Command}

lemma classified_of_command (h : d.command = .ok c) : c.Classified where
  arguments := c.arguments_eq
  longOptions := by
    rw [longOptions_eq]
    exact List.filter_congr fun f _ => by simp [Field.isLong, Field.isOption]
  shortOptions := by
    rw [shortOptions_eq]
    exact List.filter_congr fun f _ => by simp [Field.isShort, Field.isOption]
  apart f hf := by
    have ha : f.role = .argument := by simpa [Field.isArgument] using (mem_arguments_iff.mp hf).2
    simp [longOptions_eq, shortOptions_eq, Field.isLong, Field.isShort, Field.isOption, ha]
  cover f hf := by
    obtain ⟨decl, -, hd⟩ := exists_decl_of_mem h hf
    cases hr : f.role with
    | argument => exact Or.inl (mem_arguments_iff.mpr ⟨hf, by simp [Field.isArgument, hr]⟩)
    | option =>
      have ho : f.isOption = true := by simp [Field.isOption, hr]
      rw [longOptions_eq, shortOptions_eq]
      exact Or.inr ((FieldDecl.isLong_or_isShort hd ho).imp (fun hl => List.mem_filter.mpr ⟨hf, hl⟩)
        fun hs => List.mem_filter.mpr ⟨hf, hs⟩)

lemma initializer_of_command (h : d.command = .ok c) (hf : f ∈ c.fields) (hv : f.default = some v) :
    f.initializer.kind? = some f.kind ∧ f.initializer.eval f.kind = some v ∧ f.kind.Holds v := by
  obtain ⟨decl, -, hd⟩ := exists_decl_of_mem h hf
  obtain ⟨source, hs⟩ := FieldDecl.exists_source_of_default hd hv
  have hi : f.initializer = f.kind.initializer v := by simp only [Field.initializer, hv]
  rw [hi]
  exact ⟨Kind.kind?_initializer hs, Kind.eval_initializer hs,
    Kind.holds_of_convert (Kind.readDefault_eq_ok_iff.mp hs).1⟩

lemma ident_and_kind_of_command (h : d.command = .ok c) :
    (c.fieldInits.map fun i => (some i.field, some i.kind)) =
      d.fields.map fun decl => (decl.ident, Kind.ofType? decl.type) := by
  have he : List.Forall₂ (· = ·) (d.fields.map fun decl => (decl.ident, Kind.ofType? decl.type))
      (c.fields.map fun f => (some f.ident, some f.kind)) := by
    rw [List.forall₂_map_left_iff, List.forall₂_map_right_iff]
    refine (forall₂_field_of_command h).imp fun decl f hf => ?_
    obtain ⟨p, hi, hk, -, -⟩ := FieldDecl.field_eq_ok hf
    rw [hi, hk]
  rw [List.forall₂_eq_eq_eq] at he
  rw [he, fieldInits, List.map_map]
  rfl

/-- The tables cover the declared fields, and the generated record sets out with each of them once. -/
theorem command_classified (accepted : d.command = .ok c) :
    List.Forall₂ (fun decl f => decl.field d.ident = .ok f ∧ decl.ident = some f.ident) d.fields c.fields ∧
    c.Classified ∧
    (∀ f ∈ c.fields, ∀ v, f.default = some v →
      f.initializer.kind? = some f.kind ∧ f.initializer.eval f.kind = some v ∧ f.kind.Holds v) ∧
    ∃ p, c.program = .ok p ∧
      (p.fields.map fun i => (some i.field, some i.kind)) =
        d.fields.map (fun decl => (decl.ident, Kind.ofType? decl.type)) ∧
      List.Forall₂ FieldInit.For p.fields c.fields ∧
      p.dispatch.assignments = (c.longOptions ++ c.shortOptions ++ c.arguments).map Field.assignment ∧
      (∀ f ∈ c.fields, ∃ a ∈ p.dispatch.assignments, a.For f) ∧
      ∀ name module, d.Written → c.constructorName = .ok name → c.moduleName = .ok module →
        ∃ text ts, c.generate = .ok text ∧ Source.trees? text = some ts ∧
          Constructor.read? d.declared ts = some { visibility := d.visibility, module, name, program := p } := by
  have hc := classified_of_command accepted
  have hp := c.program_eq
  refine ⟨?_, hc, fun f hf v hv => initializer_of_command accepted hf hv, _, hp,
    ident_and_kind_of_command accepted, (implements_of_command accepted hp).fields, assignments_chain c,
    fun f hf => hc.exists_assignment hf, fun name module written named placed =>
      read?_generated written accepted named placed hp⟩
  refine (forall₂_field_of_command accepted).imp fun decl f hd => ⟨hd, ?_⟩
  obtain ⟨p, hi, -⟩ := FieldDecl.field_eq_ok hd
  exact hi

def tabled : Definition where
  ident := ⟨"Tabled", false⟩
  fields := [
    .annotated "port" "u16" "type:option short:p default:8080",
    .annotated "input" "String" "default:'-'",
    .annotated "ratio" "f64" "type:option name:'' short:r default:-.5",
    .annotated "force" "bool" "type:option"]

def tabledCommand : Command where
  ident := ⟨"Tabled", false⟩
  fields := [
    { ident := ⟨"port", false⟩, name := "port", short := "p", kind := .integer .u16, role := .option
      default := some (.integer 8080) },
    { ident := ⟨"input", false⟩, name := "input", kind := .text, default := some (.text "-") },
    { ident := ⟨"ratio", false⟩, name := "", short := "r", kind := .float .double, role := .option
      default := some (.float .double (.finite true 4503599627370496 (-53))) },
    { ident := ⟨"force", false⟩, name := "force", kind := .boolean, role := .option }]

theorem tabled_classified : tabled.command = .ok tabledCommand ∧ tabledCommand.Classified ∧
    ∃ text ts p, tabledCommand.generate = .ok text ∧ Source.trees? text = some ts ∧
      Constructor.read? tabled.declared ts =
        some { visibility := [], module := none, name := ⟨"new_tabled", false⟩, program := p } ∧
      p.fields.map FieldInit.field = [⟨"port", false⟩, ⟨"input", false⟩, ⟨"ratio", false⟩, ⟨"force", false⟩] ∧
      p.dispatch.assignments = [
        ⟨⟨"port", false⟩, .integer .u16⟩, ⟨⟨"force", false⟩, .boolean⟩, ⟨⟨"port", false⟩, .integer .u16⟩,
        ⟨⟨"ratio", false⟩, .float .double⟩, ⟨⟨"input", false⟩, .copy⟩] := by
  have accepted : tabled.command = .ok tabledCommand := by
    rw [command_eq_ok_iff]
    exact ⟨by decide +kernel, rfl, by decide +kernel, rfl⟩
  have written : tabled.Written := ⟨by decide +kernel, .none, trivial, by decide +kernel⟩
  have named : tabledCommand.constructorName = .ok ⟨"new_tabled", false⟩ := by decide +kernel
  obtain ⟨-, classified, -, p, hp, fields, -, assignments, -, generated⟩ := command_classified accepted
  obtain ⟨text, ts, hg, ht, hr⟩ := generated _ none written named rfl
  refine ⟨accepted, classified, text, ts, p, hg, ht, hr, ?_, assignments.trans ?_⟩
  · have hf := congrArg (List.map Prod.fst) fields
    rw [List.map_map, List.map_map] at hf
    have hsome : (p.fields.map FieldInit.field).map some = tabled.fields.map FieldDecl.ident := by
      rw [List.map_map]
      exact hf
    exact List.map_injective_iff.mpr (Option.some_injective _) hsome
  · decide +kernel

end Definition

end CommandLine
