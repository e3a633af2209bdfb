import CommandLine.Proofs.Comparison
import CommandLine.Proofs.Emission.Refinement

/-! A command with one option more. -/

namespace CommandLine

open Source

lemma filter_insertIdx_of_neg {α : Type} (p : α → Bool) {x : α} (h : p x = false) (i : ℕ) (l : List α) :
    (l.insertIdx i x).filter p = l.filter p := by
  induction l generalizing i with
  | nil => cases i <;> simp [h]
  | cons y l ih =>
    cases i with
    | zero => rw [List.insertIdx_zero, List.filter_cons_of_neg (by simp [h])]
    | succ i => simp only [List.insertIdx_succ_cons, List.filter_cons, ih]

def Field.Explains (g : Field) : ArgsError → Prop
  | .unknownLongOption key _ => g.joins .long = true ∧ key = g.label .long
  | .unknownShortOption key _ => g.joins .short = true ∧ key = g.label .short
  | _ => False

lemma Field.explains_unknownKey {g : Field} {m : Mark} {key item : String} :
    g.Explains (m.unknownKey key item) ↔ g.joins m = true ∧ key = g.label m := by
  cases m <;> rfl

namespace Command

variable {c : Command} {g : Field} {m : Mark} {item key : String} {i : ℕ} {s s' : State}

def insertField (c : Command) (i : ℕ) (g : Field) : Command :=
  { c with fields := c.fields.insertIdx i g }

/-- The option has a name of its own, and it finds each table that it joins in use and its label there free. -/
structure Admits (c : Command) (g : Field) : Prop where
  option : g.isOption = true
  ident : ∀ f ∈ c.fields, f.ident ≠ g.ident
  used : ∀ m, g.joins m = true → c.table m ≠ []
  label : ∀ m, g.joins m = true → ∀ f ∈ c.table m, f.label m ≠ g.label m

lemma table_insertField_of_not_joins (h : g.joins m = false) (i : ℕ) :
    (c.insertField i g).table m = c.table m := by
  rw [table_eq, table_eq]
  exact filter_insertIdx_of_neg (fun f => f.joins m) h i c.fields

lemma find?_insertField (h : g.joins m = true → g.label m ≠ key) (i : ℕ) :
    ((c.insertField i g).table m).find? (fun f => f.label m = key) =
      (c.table m).find? fun f => f.label m = key := by
  have hg : (decide (g.label m = key) && g.joins m) = false := by
    cases hj : g.joins m with
    | false => exact Bool.and_false _
    | true => rw [Bool.and_true, decide_eq_false (h hj)]
  rw [← List.head?_filter, ← List.head?_filter, table_eq, table_eq, List.filter_filter, List.filter_filter]
  exact congrArg List.head? (filter_insertIdx_of_neg (fun f => decide (f.label m = key) && f.joins m) hg i c.fields)

def Inserted (i : ℕ) (g : Field) (r r' : Record) : Prop :=
  r' = r.insertIdx i (g.ident, g.initialValue)

namespace Admits

lemma table_eq_nil_iff (h : c.Admits g) (i : ℕ) (m : Mark) :
    (c.insertField i g).table m = [] ↔ c.table m = [] := by
  cases hj : g.joins m with
  | false => rw [table_insertField_of_not_joins hj]
  | true =>
    obtain ⟨f, hf⟩ := List.exists_mem_of_ne_nil _ (h.used m hj)
    have hf' : f ∈ (c.insertField i g).table m := by
      rw [table_eq, List.mem_filter] at hf ⊢
      exact ⟨List.subset_insertIdx _ _ _ hf.1, hf.2⟩
    exact iff_of_false (List.ne_nil_of_mem hf') (List.ne_nil_of_mem hf)

lemma arguments (h : c.Admits g) (i : ℕ) : (c.insertField i g).arguments = c.arguments := by
  have ha : g.isArgument = false := by simpa [isOption_eq] using h.option
  rw [arguments_eq, arguments_eq]
  exact filter_insertIdx_of_neg Field.isArgument ha i c.fields

lemma keeps (h : c.Admits g) (i : ℕ) : c.Keeps (Inserted i g) := by
  rintro f hf v r _ rfl
  have hne : g.ident ≠ f.ident := fun he => h.ident f hf he.symm
  rw [Inserted, Record.assign, Record.assign, List.map_insertIdx, if_neg hne]

lemma step (h : c.Admits g) (i : ℕ) (hs : c.Matched (Inserted i g) s s') (item : String) :
    Follows (c.Matched (Inserted i g)) (fun e => ¬ g.Explains e) (c.step s item)
      ((c.insertField i g).step s' item) := by
  by_cases hk : ∃ m text, c.route item = m.route text ∧ g.joins m = true ∧ (Item.splitOption text).1 = g.label m
  · -- the old command fails here, and the new field is why
    obtain ⟨m, text, hr, hj, hk⟩ := hk
    have hn : ((c.table m).find? fun f => f.label m = g.label m) = none := by
      rw [List.find?_eq_none]
      intro f hf
      simpa using h.label m hj f hf
    have he : c.step s item = .error (m.unknownKey (g.label m) item) := by
      rw [step_of_route hr, readOption]
      simp only [hk, hn]
    have hg : g.Explains (m.unknownKey (g.label m) item) := Field.explains_unknownKey.mpr ⟨hj, rfl⟩
    rw [he]
    exact .of_not_counts (fun hc => hc hg) _
  · refine hs.step (h.keeps i) (alike_of_find? (h.table_eq_nil_iff i) fun m text hr => ?_)
    exact find?_insertField (fun hj hl => hk ⟨m, text, hr, hj, hl.symm⟩) i

lemma run (h : c.Admits g) (i : ℕ) (items : List String) :
    Follows (Inserted i g) (fun e => ¬ g.Explains e) (c.run items) ((c.insertField i g).run items) := by
  have hrecord : Inserted i g c.initialRecord (c.insertField i g).initialRecord := List.map_insertIdx _ _ _ _
  exact run_follows (h.arguments i) hrecord (fun _ _ item hs => h.step i hs item) items

end Admits

end Command

namespace Definition

variable {d : Definition} {c : Command} {decl : FieldDecl} {g : Field} {i : ℕ}

def insertField (d : Definition) (i : ℕ) (decl : FieldDecl) : Definition :=
  { d with fields := d.fields.insertIdx i decl }

lemma command_insertField (accepted : d.command = .ok c) (declared : decl.field d.ident = .ok g) (i : ℕ) :
    (d.insertField i decl).command = .ok (c.insertField i g) := by
  obtain ⟨ho, hg, hr, hc⟩ := command_eq_ok_iff.mp accepted
  have hf : (d.insertField i decl).fieldResults = (c.insertField i g).fields.map .ok := by
    simp only [fieldResults, insertField, Command.insertField, List.map_insertIdx, declared] at hr ⊢
    rw [hr]
  have ho' : (d.insertField i decl).outerErrors = [] := outerErrors_eq_nil_iff.mpr (outerErrors_eq_nil_iff.mp ho :)
  refine command_eq_ok_iff.mpr ⟨ho', hg, hf, ?_⟩
  rw [Command.insertField, hc]
  rfl

/-- An option may be added anywhere, and only complaints about its own key go away. -/
theorem run_insertField (accepted : d.command = .ok c) (declared : decl.field d.ident = .ok g)
    (admits : c.Admits g) (place : i ≤ d.fields.length) :
    (d.insertField i decl).command = .ok (c.insertField i g) ∧ i ≤ c.fields.length ∧
    ∃ p p', c.program = .ok p ∧ (c.insertField i g).program = .ok p' ∧ ∀ items,
      p.run? items = some (c.run items) ∧ p'.run? items = some ((c.insertField i g).run items) ∧
      (∀ r, c.run items = .ok r →
        (c.insertField i g).run items = .ok (r.insertIdx i (g.ident, g.initialValue))) ∧
      ∀ e, c.run items = .error e → ¬ g.Explains e → (c.insertField i g).run items = .error e := by
  have accepted' := command_insertField accepted declared i
  have hp := c.program_eq
  have hp' := (c.insertField i g).program_eq
  have hlength : d.fields.length = c.fields.length := (forall₂_field_of_command accepted).length_eq
  refine ⟨accepted', hlength ▸ place, _, _, hp, hp', fun items => ⟨run?_eq accepted hp items,
    run?_eq accepted' hp' items, fun r hr => ?_, fun e he hg => (admits.run i items).error e hg he⟩⟩
  obtain ⟨r', hr', rfl⟩ := (admits.run i items).ok r hr
  exact hr'

def serving : Definition where
  ident := ⟨"Serving", false⟩
  fields := [.annotated "port" "u16" "type:option short:p", .annotated "root" "String" ""]

def servingCommand : Command where
  ident := ⟨"Serving", false⟩
  fields := [
    { ident := ⟨"port", false⟩, name := "port", short := "p", kind := .integer .u16, role := .option },
    { ident := ⟨"root", false⟩, name := "root", kind := .text }]

def quietField : Field where
  ident := ⟨"quiet", false⟩
  name := "quiet"
  short := "q"
  kind := .boolean
  role := .option
  default := some (.boolean true)

theorem serving_insertField : servingCommand.Admits quietField ∧
    (serving.insertField 1 (.annotated "quiet" "bool" "type:option short:q default:T")).command =
      .ok (servingCommand.insertField 1 quietField) ∧
    (servingCommand.insertField 1 quietField).run ["-p=1", "\\-q", "--port=80"] = .ok [
      (⟨"port", false⟩, .integer 80), (⟨"quiet", false⟩, .boolean true), (⟨"root", false⟩, .text "-q")] ∧
    (servingCommand.insertField 1 quietField).run ["--quit=T"] = .error (.unknownLongOption "quit" "--quit=T") := by
  have accepted : serving.command = .ok servingCommand := by
    rw [command_eq_ok_iff]
    exact ⟨by decide +kernel, rfl, by decide +kernel, rfl⟩
  have declared : (FieldDecl.annotated "quiet" "bool" "type:option short:q default:T").field ⟨"Serving", false⟩ =
      .ok quietField := by decide +kernel
  have admits : servingCommand.Admits quietField := by
    refine ⟨rfl, by decide, fun m _ => ?_, fun m _ => ?_⟩
    · cases m <;> decide +kernel
    · cases m <;> decide +kernel
  obtain ⟨accepted', -, p, p', -, -, hrun⟩ := run_insertField accepted declared admits (i := 1) (by decide)
  obtain ⟨-, -, hok, -⟩ := hrun ["-p=1", "\\-q", "--port=80"]
  obtain ⟨-, -, -, herror⟩ := hrun ["--quit=T"]
  refine ⟨admits, accepted', ?_, ?_⟩
  · exact hok [(⟨"port", false⟩, .integer 80), (⟨"root", false⟩, .text "-q")] (by decide +kernel)
  · refine herror _ (by decide +kernel) ?_
    rintro ⟨-, hl⟩
    exact absurd hl (by decide +kernel)

-- the first option of a table takes payloads away
example : ({ servingCommand with fields := servingCommand.arguments } : Command).run ["-5"] =
      .ok [(⟨"root", false⟩, .text "-5")] ∧
    (Command.insertField { servingCommand with fields := servingCommand.arguments } 0 quietField).run ["-5"] =
      .error (.unknownShortOption "5" "-5") := by
  decide +kernel

end Definition

end CommandLine
