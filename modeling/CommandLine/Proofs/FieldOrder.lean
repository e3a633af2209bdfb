import CommandLine.Proofs.Comparison
import CommandLine.Proofs.Emission.Refinement
import CommandLine.Proofs.Props

namespace CommandLine

open Source

namespace Record

variable {r r' : Record} {i : Ident} {v : Value}

lemma keys_assign (r : Record) (i : Ident) (v : Value) : (r.assign i v).map Prod.fst = r.map Prod.fst := by
  rw [assign, List.map_map]
  refine List.map_congr_left fun e _ => ?_
  by_cases h : e.1 = i <;> simp [h]

structure Reordered (r r' : Record) : Prop where
  perm : r.Perm r'
  distinct : (r.map Prod.fst).Nodup

namespace Reordered

lemma assign (h : Reordered r r') (i : Ident) (v : Value) : Reordered (r.assign i v) (r'.assign i v) :=
  ⟨h.perm.map _, (keys_assign r i v).symm ▸ h.distinct⟩

lemma lookup_eq (h : Reordered r r') (i : Ident) : r'.lookup i = r.lookup i := by
  have hd : (r'.map Prod.fst).Nodup := (h.perm.map Prod.fst).nodup_iff.mp h.distinct
  ext v
  rw [lookup_eq_some_iff_mem hd, lookup_eq_some_iff_mem h.distinct, h.perm.mem_iff]

end Reordered

end Record

namespace Command

variable {c c' : Command}

section

variable (perm : c.fields.Perm c'.fields)
include perm

lemma table_perm (m : Mark) : (c.table m).Perm (c'.table m) := by
  rw [table_eq, table_eq]
  exact perm.filter _

lemma DistinctLabels.of_perm (labels : c.DistinctLabels) : c'.DistinctLabels :=
  fun m => ((table_perm perm m).map _).nodup_iff.mp (labels m)

lemma find?_table_perm (labels : c.DistinctLabels) (m : Mark) (key : String) :
    ((c'.table m).find? fun f => f.label m = key) = (c.table m).find? fun f => f.label m = key := by
  ext f
  rw [find?_table_eq_some_iff, find?_table_eq_some_iff, labels.firstWith_iff,
    (labels.of_perm perm).firstWith_iff, (table_perm perm m).mem_iff]

lemma alike_of_perm (labels : c.DistinctLabels) (item : String) : c.Alike c' item := by
  refine alike_of_find? (fun m => ?_) fun m text _ => find?_table_perm perm labels m _
  rw [← List.length_eq_zero_iff, ← List.length_eq_zero_iff, (table_perm perm m).length_eq]

lemma run_of_perm (labels : c.DistinctLabels) (distinct : (c.fields.map Field.ident).Nodup)
    (arguments : c.arguments = c'.arguments) (items : List String) :
    Follows Record.Reordered (fun _ => True) (c.run items) (c'.run items) := by
  have hkeys : c.initialRecord.map Prod.fst = c.fields.map Field.ident := List.map_map
  have hrecord : Record.Reordered c.initialRecord c'.initialRecord := ⟨perm.map _, hkeys ▸ distinct⟩
  have hkeeps : c.Keeps Record.Reordered := fun f _ v _ _ h => h.assign f.ident v
  exact run_follows arguments.symm hrecord (fun _ _ item h => h.step hkeeps (alike_of_perm perm labels item)) items

end

end Command

namespace Definition

variable {d d' : Definition} {c c' : Command}

/-- Of the order of the fields only that of the arguments matters. -/
theorem run_fields_perm (accepted : d.command = .ok c) (accepted' : d'.command = .ok c')
    (distinct : (c.fields.map Field.ident).Nodup) (perm : c.fields.Perm c'.fields)
    (arguments : c.arguments = c'.arguments) (labels : c.DistinctLabels) :
    ∃ p p', c.program = .ok p ∧ c'.program = .ok p' ∧ ∀ items,
      p.run? items = some (c.run items) ∧ p'.run? items = some (c'.run items) ∧
      (∀ e, c.run items = .error e ↔ c'.run items = .error e) ∧
      ∀ r, c.run items = .ok r → ∃ r', c'.run items = .ok r' ∧ ∀ i, r'.lookup i = r.lookup i := by
  have hp := c.program_eq
  have hp' := c'.program_eq
  refine ⟨_, _, hp, hp', fun items => ⟨run?_eq accepted hp items, run?_eq accepted' hp' items, ?_⟩⟩
  have hrun := c.run_of_perm perm labels distinct arguments items
  refine ⟨fun e => hrun.error_iff, fun r hr => ?_⟩
  obtain ⟨r', hr', h⟩ := hrun.ok r hr
  exact ⟨r', hr', h.lookup_eq⟩

def sourceField : Field where
  ident := ⟨"source", false⟩
  name := "source"
  kind := .text

def targetField : Field where
  ident := ⟨"target", false⟩
  name := "target"
  kind := .text

def forceField : Field where
  ident := ⟨"force", false⟩
  name := "force"
  short := "f"
  kind := .boolean
  role := .option

def levelField : Field where
  ident := ⟨"level", false⟩
  name := ""
  short := "l"
  kind := .integer .u8
  role := .option
  default := some (.integer 3)

def copying (fields : List Field) : Command where
  ident := ⟨"Copying", false⟩
  fields

def copyingDefinition (fields : List FieldDecl) : Definition where
  ident := ⟨"Copying", false⟩
  fields

theorem copying_fields_perm :
    (copying [levelField, sourceField, targetField, forceField]).run ["-f=T", "in", "-l=4", "\\-out"] = .ok [
      (⟨"level", false⟩, .integer 4), (⟨"source", false⟩, .text "in"), (⟨"target", false⟩, .text "-out"),
      (⟨"force", false⟩, .boolean true)] ∧
    (∃ r, (copying [sourceField, forceField, levelField, targetField]).run ["-f=T", "in", "-l=4", "\\-out"] = .ok r ∧
      r.lookup ⟨"level", false⟩ = some (.integer 4) ∧ r.lookup ⟨"target", false⟩ = some (.text "-out")) ∧
    (copying [sourceField, forceField, levelField, targetField]).run ["in", "-l=256"] =
      .error (.integer .positiveOverflow) := by
  have accepted : (copyingDefinition [
      .annotated "level" "u8" "type:option name:'' short:l default:3", .annotated "source" "String" "",
      .annotated "target" "String" "", .annotated "force" "bool" "type:option short:f"]).command =
      .ok (copying [levelField, sourceField, targetField, forceField]) := by
    rw [command_eq_ok_iff]
    exact ⟨by decide +kernel, rfl, by decide +kernel, rfl⟩
  have accepted' : (copyingDefinition [
      .annotated "source" "String" "", .annotated "force" "bool" "type:option short:f",
      .annotated "level" "u8" "type:option name:'' short:l default:3", .annotated "target" "String" ""]).command =
      .ok (copying [sourceField, forceField, levelField, targetField]) := by
    rw [command_eq_ok_iff]
    exact ⟨by decide +kernel, rfl, by decide +kernel, rfl⟩
  have perm : [levelField, sourceField, targetField, forceField].Perm
      [sourceField, forceField, levelField, targetField] := by decide +kernel
  have labels : (copying [levelField, sourceField, targetField, forceField]).DistinctLabels := by
    intro m
    cases m <;> decide +kernel
  obtain ⟨p, p', -, -, hrun⟩ := run_fields_perm accepted accepted' (by decide) perm rfl labels
  obtain ⟨-, -, -, hok⟩ := hrun ["-f=T", "in", "-l=4", "\\-out"]
  obtain ⟨-, -, herror, -⟩ := hrun ["in", "-l=256"]
  have hr : (copying [levelField, sourceField, targetField, forceField]).run ["-f=T", "in", "-l=4", "\\-out"] = .ok [
      (⟨"level", false⟩, .integer 4), (⟨"source", false⟩, .text "in"), (⟨"target", false⟩, .text "-out"),
      (⟨"force", false⟩, .boolean true)] := by decide +kernel
  obtain ⟨r, hr', hl⟩ := hok _ hr
  refine ⟨hr, ⟨r, hr', (hl _).trans (by decide), (hl _).trans (by decide)⟩, (herror _).mp ?_⟩
  decide +kernel

end Definition

end CommandLine
