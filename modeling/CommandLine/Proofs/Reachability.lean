import CommandLine.Proofs.Emission.Refinement
import CommandLine.Proofs.ItemOrder

/-! Which options a command line can set, and through which table. -/

namespace CommandLine

lemma Kind.exists_convert (k : Kind) : ∃ text v, k.convert text = .ok v := by
  refine ⟨"0", ?_⟩
  cases k with
  | text => exact ⟨.text "0", rfl⟩
  | integer t => exact ⟨.integer 0, by cases t <;> decide⟩
  | float w => exact ⟨.float w w.zero, by cases w <;> decide +kernel⟩
  | boolean => exact ⟨.boolean false, by decide⟩

namespace Command

variable {c : Command} {m : Mark} {item key value : String} {f : Field} {s s' : State} {v : Value}

structure Assigns (c : Command) (m : Mark) (s : State) (item : String) (f : Field) (s' : State) : Prop where
  reads : c.Reads m item
  target : c.target? item = some f
  step : c.step s item = .ok s'

lemma Offers.assigns (h : c.Offers m f) (hv : f.kind.convert value = .ok v) (s : State) :
    c.Assigns m s (m.write (f.label m) value) f ⟨s.record.assign f.ident v, s.pending⟩ where
  reads := h.reads value
  target := (h.gives value).target
  step := step_ok_iff.mpr (Or.inl ⟨f, value, v, h.gives value, hv, rfl⟩)

lemma Reads.offers (h : c.Reads m (m.write key value)) (hk : '=' ∉ key.toList) (hf : c.FirstWith m key f) :
    c.Offers m f := by
  have hl : f.label m = key := by
    obtain ⟨_, _, _, hl, _⟩ := hf
    exact hl
  refine ⟨hl ▸ hf, hl ▸ hk, ?_⟩
  rintro rfl ht hd
  -- an item whose short key starts with a dash is one for the long table
  refine h.2 ⟨ht, ?_⟩
  rw [hl] at hd
  obtain ⟨cs, hc⟩ : ∃ cs, key.toList = '-' :: cs := List.head?_eq_some_iff.mp hd
  simp [Mark.write, Mark.text, hc]

lemma Assigns.offers (h : c.Assigns m s item f s') : c.Offers m f := by
  rcases step_ok_iff.mp h.step with ⟨g, value, v, hg, -, -⟩ | ⟨hp, -⟩
  · obtain rfl : g = f := Option.some.inj (hg.target.symm.trans h.target)
    obtain ⟨m', key, hr, rfl, hk, hf⟩ := hg
    obtain rfl := h.reads.mark_eq hr
    exact hr.offers hk hf
  · exact absurd hp h.reads.not_isPositional

lemma exists_assigns_of_step (h : c.step s item = .ok s') :
    c.IsPositional item ∨ ∃ m f, c.Assigns m s item f s' := by
  rcases step_ok_iff.mp h with ⟨f, value, v, hg, -, -⟩ | ⟨hp, -⟩
  · have ht := hg.target
    obtain ⟨m, key, hr, -⟩ := hg
    exact Or.inr ⟨m, f, hr, ht, h⟩
  · exact Or.inl hp

end Command

namespace Definition

open Command

variable {d : Definition} {c : Command} {m : Mark} {f : Field}

lemma exists_assigns_iff {p : Program} (accepted : d.command = .ok c) (hp : c.program = .ok p) :
    (∃ item v, c.Assigns m c.start item f ⟨c.initialRecord.assign f.ident v, c.arguments⟩ ∧
      p.run? [item] = some (.ok (c.initialRecord.assign f.ident v))) ↔ c.Offers m f := by
  refine ⟨?_, fun h => ?_⟩
  · rintro ⟨item, v, ha, -⟩
    exact ha.offers
  · obtain ⟨text, v, hv⟩ := f.kind.exists_convert
    have ha := h.assigns hv c.start
    refine ⟨_, v, ha, ?_⟩
    rw [run?_eq accepted hp, run, steps_singleton, ha.step]
    rfl

/-- A field can be set through a table exactly if the command offers it there. -/
theorem assignable_iff_offers (accepted : d.command = .ok c) : ∃ p, c.program = .ok p ∧
    (∀ m f,
      ((∃ item v, c.Assigns m c.start item f ⟨c.initialRecord.assign f.ident v, c.arguments⟩ ∧
          p.run? [item] = some (.ok (c.initialRecord.assign f.ident v))) ↔ c.Offers m f) ∧
      (¬ c.Offers m f → ∀ items s item s', c.Reaches items s → ¬ c.Assigns m s item f s')) ∧
    ∀ s item s', c.step s item = .ok s' → c.IsPositional item ∨ ∃ m f, c.Assigns m s item f s' := by
  have hp := c.program_eq
  refine ⟨_, hp, fun m f => ⟨exists_assigns_iff accepted hp, ?_⟩, fun _ _ _ => exists_assigns_of_step⟩
  exact fun hn items s item s' _ ha => hn ha.offers

def listenField : Field where
  ident := ⟨"listen", false⟩
  name := "a=b"
  short := "s"
  kind := .text
  role := .option

def verboseField : Field where
  ident := ⟨"verbose", false⟩
  name := "verbose"
  short := "s"
  kind := .boolean
  role := .option

def depthField : Field where
  ident := ⟨"depth", false⟩
  name := ""
  short := "-d"
  kind := .integer .u8
  role := .option

def shadowed : Definition where
  ident := ⟨"Shadowed", false⟩
  fields := [
    .annotated "listen" "String" "type:option name:a=b short:s",
    .annotated "verbose" "bool" "type:option short:s",
    .annotated "depth" "u8" "type:option name:'' short:-d"]

def shadowedCommand : Command where
  ident := ⟨"Shadowed", false⟩
  fields := [listenField, verboseField, depthField]

theorem shadowed_assignable : shadowed.command = .ok shadowedCommand ∧
    (∃ item v, shadowedCommand.Assigns .short shadowedCommand.start item listenField
      ⟨shadowedCommand.initialRecord.assign ⟨"listen", false⟩ v, []⟩) ∧
    ∀ m f, (m, f) ∈ [(Mark.long, listenField), (.short, verboseField), (.long, depthField), (.short, depthField)] →
      ∀ items s item s', shadowedCommand.Reaches items s → ¬ shadowedCommand.Assigns m s item f s' := by
  have accepted : shadowed.command = .ok shadowedCommand := by
    rw [command_eq_ok_iff]
    exact ⟨by decide +kernel, rfl, by decide +kernel, rfl⟩
  have short : shadowedCommand.FirstWith .short "s" listenField := find?_table_eq_some_iff.mp (by decide +kernel)
  have offers : shadowedCommand.Offers .short listenField := ⟨short, by decide, by decide⟩
  obtain ⟨p, -, assignable, -⟩ := assignable_iff_offers accepted
  refine ⟨accepted, ?_, fun m f hm => (assignable m f).2 fun h => ?_⟩
  · obtain ⟨item, v, ha, -⟩ := (assignable .short listenField).1.mpr offers
    exact ⟨item, v, ha⟩
  · simp only [List.mem_cons, Prod.mk.injEq, List.not_mem_nil, or_false] at hm
    rcases hm with ⟨rfl, rfl⟩ | ⟨rfl, rfl⟩ | ⟨rfl, rfl⟩ | ⟨rfl, rfl⟩
    · exact absurd h.key (by decide +kernel)
    · exact absurd (h.first.unique short) (by decide)
    · exact absurd h.first.mem (by decide +kernel)
    · exact absurd rfl (h.mark rfl (by decide +kernel))

end Definition

end CommandLine
