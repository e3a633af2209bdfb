import CommandLine.Proofs.Reachability

/-! Which options can be matched at all. -/

namespace CommandLine

open Source

namespace Command

variable {c : Command} {m : Mark} {f : Field} {items : List String} {r : Record}

structure Carries (c : Command) (m : Mark) (f : Field) : Prop where
  key : '=' ∉ (f.label m).toList
  mark : m = .short → c.table .long ≠ [] → (f.label .short).toList.head? ≠ some '-'

lemma DistinctLabels.offers_iff (labels : c.DistinctLabels) : c.Offers m f ↔ f ∈ c.table m ∧ c.Carries m f :=
  ⟨fun h => ⟨h.first.mem, h.key, h.mark⟩, fun h => ⟨labels.firstWith_iff.mpr ⟨h.1, rfl⟩, h.2.key, h.2.mark⟩⟩

lemma mem_table_iff (hf : f ∈ c.fields) : f ∈ c.table m ↔ f.joins m = true := by
  rw [table_eq, List.mem_filter, and_iff_right hf]

lemma mem_run_of_not_offers (distinct : (c.fields.map Field.ident).Nodup) (hf : f ∈ c.fields)
    (ho : f.isOption = true) (hn : ∀ m, ¬ c.Offers m f) (hr : c.run items = .ok r) :
    (f.ident, f.initialValue) ∈ r := by
  obtain ⟨s, hs, rfl⟩ := run_eq_ok_iff.mp hr
  obtain ⟨content, he, hh⟩ := hs.holds distinct
  have hgives : ∀ item ∈ items, ∀ value, ¬ c.Gives item f value := by
    rintro item - value ⟨m, key, hreads, rfl, hk, hfirst⟩
    exact hn m (hreads.offers hk hfirst)
  rw [he, ← hh.notGiven f hf ho hgives]
  exact List.mem_map_of_mem hf

end Command

namespace Definition

open Command

variable {d : Definition} {c : Command}

/-- With distinct labels an option can be matched exactly if an item can carry one of them. -/
theorem matched_iff_carries (accepted : d.command = .ok c) (distinct : (c.fields.map Field.ident).Nodup)
    (labels : c.DistinctLabels) : ∃ p, c.program = .ok p ∧ ∀ f ∈ c.fields, f.isOption = true →
      ((∃ m item v, c.Assigns m c.start item f ⟨c.initialRecord.assign f.ident v, c.arguments⟩ ∧
          p.run? [item] = some (.ok (c.initialRecord.assign f.ident v))) ↔
        ∃ m, f.joins m = true ∧ c.Carries m f) ∧
      ((¬ ∃ m, f.joins m = true ∧ c.Carries m f) → ∀ items r, p.run? items = some (.ok r) →
        (f.ident, f.initialValue) ∈ r) := by
  have hp := c.program_eq
  refine ⟨_, hp, fun f hf ho => ?_⟩
  have hoffers : ∀ m, c.Offers m f ↔ f.joins m = true ∧ c.Carries m f := by
    intro m
    rw [labels.offers_iff, mem_table_iff hf]
  refine ⟨exists_congr fun m => (exists_assigns_iff accepted hp).trans (hoffers m), fun hn items r hr => ?_⟩
  have hrun : c.run items = .ok r := Option.some.inj ((run?_eq accepted hp items).symm.trans hr)
  exact mem_run_of_not_offers distinct hf ho (fun m hm => hn ⟨m, (hoffers m).mp hm⟩) hrun

def dashField : Field where
  ident := ⟨"dash", false⟩
  name := ""
  short := "-x"
  kind := .text
  role := .option

def equalsField : Field where
  ident := ⟨"eq", false⟩
  name := ""
  short := "a=b"
  kind := .text
  role := .option

def shortOnly : Definition where
  ident := ⟨"ShortOnly", false⟩
  fields := [
    .annotated "q" "bool" "type:option short:q name:''",
    .annotated "dash" "String" "type:option short:'-x' name:''",
    .annotated "eq" "String" "type:option short:'a=b' name:''",
    .annotated "up" "u8" "type:option short:Q name:''",
    { ident := some ⟨"pos", false⟩, type := [.ident ⟨"String", false⟩] }]

def shortOnlyCommand : Command where
  ident := ⟨"ShortOnly", false⟩
  fields := [
    { ident := ⟨"q", false⟩, name := "", short := "q", kind := .boolean, role := .option }, dashField, equalsField,
    { ident := ⟨"up", false⟩, name := "", short := "Q", kind := .integer .u8, role := .option },
    { ident := ⟨"pos", false⟩, name := "pos", kind := .text }]

lemma shortOnly_command : shortOnly.command = .ok shortOnlyCommand := by
  rw [command_eq_ok_iff]
  exact ⟨by decide +kernel, rfl, by decide +kernel, rfl⟩

lemma shortOnly_distinctLabels : shortOnlyCommand.DistinctLabels := by
  intro m
  cases m <;> decide +kernel

theorem shortOnly_matched : ∃ p, shortOnlyCommand.program = .ok p ∧
    (∃ m item v, shortOnlyCommand.Assigns m shortOnlyCommand.start item dashField
      ⟨shortOnlyCommand.initialRecord.assign ⟨"dash", false⟩ v, shortOnlyCommand.arguments⟩) ∧
    ∀ items r, p.run? items = some (.ok r) → (⟨"eq", false⟩, .text "") ∈ r := by
  obtain ⟨p, hp, hmatched⟩ := matched_iff_carries shortOnly_command (by decide) shortOnly_distinctLabels
  obtain ⟨hdash, -⟩ := hmatched dashField (by simp [shortOnlyCommand]) rfl
  obtain ⟨-, hequals⟩ := hmatched equalsField (by simp [shortOnlyCommand]) rfl
  refine ⟨p, hp, ?_, hequals ?_⟩
  · obtain ⟨m, item, v, ha, -⟩ := hdash.mpr ⟨.short, rfl, by decide, fun _ h => absurd rfl h⟩
    exact ⟨m, item, v, ha⟩
  · rintro ⟨m, hj, hc⟩
    cases m with
    | long => exact absurd hj (by decide)
    | short => exact absurd hc.key (by decide)

theorem shortOnly_unmatched : shortOnly.command = .ok shortOnlyCommand ∧ shortOnlyCommand.DistinctLabels ∧
    equalsField ∈ shortOnlyCommand.fields ∧ equalsField.isOption = true ∧
    (¬ ∃ m item s', shortOnlyCommand.Assigns m shortOnlyCommand.start item equalsField s') ∧
    shortOnlyCommand.run ["-a=b=v"] = .error (.unknownShortOption "a" "-a=b=v") := by
  refine ⟨shortOnly_command, shortOnly_distinctLabels, by simp [shortOnlyCommand], rfl, ?_, by decide +kernel⟩
  rintro ⟨m, item, s', ha⟩
  have hoffers := ha.offers
  cases m with
  | long => exact absurd hoffers.first.mem (by decide +kernel)
  | short => exact absurd hoffers.key (by decide)

end Definition

end CommandLine
