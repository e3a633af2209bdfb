import CommandLine.Command
import Mathlib.Data.List.Forall2
import Mathlib.Tactic.Common

/-! What is known of the fields of a command that a definition was accepted for. -/

namespace CommandLine

variable {d : Definition} {c : Command} {decl : FieldDecl} {owner : Source.Ident} {f : Field}
  {ident : Source.Ident} {kind : Kind} {p : Props} {v : Value}

lemma failures_map_ok {ε α : Type} (as : List α) : failures (as.map (Except.ok : α → Except ε α)) = [] := by
  induction as with
  | nil => rfl
  | cons a as ih => exact ih

lemma successes_map_ok {ε α : Type} (as : List α) : successes (as.map (Except.ok : α → Except ε α)) = as := by
  induction as with
  | nil => rfl
  | cons a as ih => exact congrArg (a :: ·) ih

lemma map_ok_successes {ε α : Type} {results : List (Except ε α)} (h : failures results = []) :
    (successes results).map Except.ok = results := by
  induction results with
  | nil => rfl
  | cons r results ih =>
    cases r with
    | error e => cases h
    | ok a => exact congrArg (.ok a :: ·) (ih h)

lemma mapError_eq_ok_iff {ε ε' α : Type} {x : Except ε α} {g : ε → ε'} {a : α} :
    x.mapError g = .ok a ↔ x = .ok a := by
  cases x <;> simp [Except.mapError]

lemma map_eq_error_iff {ε α β : Type} {x : Except ε α} {g : α → β} {e : ε} :
    x.map g = .error e ↔ x = .error e := by
  cases x <;> simp [Except.map]

lemma map_eq_ok_iff {ε α β : Type} {x : Except ε α} {g : α → β} {b : β} :
    x.map g = .ok b ↔ ∃ a, x = .ok a ∧ g a = b := by
  cases x <;> simp [Except.map]

namespace FieldDecl

lemma Settings.defaultValue_eq_ok {s : Settings} {o : Option Value} (h : s.defaultValue kind = .ok o) :
    (s.default = none → o = none) ∧
      ∀ source, s.default = some source → ∃ v, kind.readDefault source = .ok v ∧ o = some v := by
  rw [defaultValue] at h
  cases hd : s.default with
  | none => simpa [hd, eq_comm] using h
  | some source => cases hr : kind.readDefault source <;> simp_all [eq_comm]

lemma fieldOfProps_eq_ok (h : fieldOfProps ident kind p = .ok f) : ∃ s : Settings,
    Settings.setAll { name := ident.name } p.entries = .ok s ∧ s.defaultValue kind = .ok f.default ∧
      ¬ (s.role = .option ∧ s.name = "" ∧ s.short = "") ∧
      f = { ident, name := s.name, short := s.short, kind, role := s.role, default := f.default } := by
  rw [fieldOfProps] at h
  split at h
  · cases h
  · rename_i s hs
    split at h
    · cases h
    · rename_i hd
      split at h
      · cases h
      · rename_i hr
        cases h
        exact ⟨s, hs, hd, hr, rfl⟩

lemma field_eq_ok (h : decl.field owner = .ok f) : ∃ p, decl.ident = some f.ident ∧
    Kind.ofType? decl.type = some f.kind ∧ decl.props = .ok p ∧ fieldOfProps f.ident f.kind p = .ok f := by
  rw [field] at h
  split at h
  · cases h
  · rename_i ident hi
    rw [mapError_eq_ok_iff, namedField] at h
    split at h
    · cases h
    · rename_i kind hk
      split at h
      · cases h
      · rename_i p hp
        obtain ⟨s, -, -, -, hf⟩ := fieldOfProps_eq_ok h
        have hi' : f.ident = ident := by rw [hf]
        have hk' : f.kind = kind := by rw [hf]
        rw [hi', hk']
        exact ⟨p, hi, hk, hp, h⟩

def annotated (name type metadata : String) : FieldDecl where
  ident := some ⟨name, false⟩
  type := [.ident ⟨type, false⟩]
  attributes := [⟨[.ident ⟨"cli", false⟩], .list .parenthesis [.literal (.ofString metadata)]⟩]

lemma exists_source_of_default (h : decl.field owner = .ok f) (hv : f.default = some v) :
    ∃ source, f.kind.readDefault source = .ok v := by
  obtain ⟨p, -, -, -, hf⟩ := field_eq_ok h
  obtain ⟨s, -, hd, -, -⟩ := fieldOfProps_eq_ok hf
  rw [hv] at hd
  obtain ⟨hnone, hsome⟩ := Settings.defaultValue_eq_ok hd
  cases hs : s.default with
  | none => cases hnone hs
  | some source =>
    obtain ⟨v', hr, hv'⟩ := hsome source hs
    cases hv'
    exact ⟨source, hr⟩

end FieldDecl

namespace Definition

lemma outerErrors_eq_nil_iff :
    d.outerErrors = [] ↔ (Settings.ofAttributes d.attributes).faults = [] ∧ d.shape = .named := by
  cases h : d.shape <;> simp [outerErrors, shapeFault?, h]

lemma command_eq_ok_iff :
    d.command = .ok c ↔ d.outerErrors = [] ∧ d.isGeneric = false ∧
      d.fieldResults = c.fields.map .ok ∧
      c = { ident := d.ident
            visibility := d.visibility
            module := (Settings.ofAttributes d.attributes).module
            constructor := (Settings.ofAttributes d.attributes).constructor
            fields := c.fields } := by
  rw [command]
  refine ⟨fun h => ?_, ?_⟩
  · split_ifs at h with ho hg
    split at h
    · rename_i hf
      cases h
      exact ⟨not_not.mp ho, by simpa using hg, (map_ok_successes hf).symm, rfl⟩
    · cases h
  · rintro ⟨ho, hg, hf, hc⟩
    simp only [ho, hg, hf, failures_map_ok, successes_map_ok, ne_eq, not_true_eq_false, ↓reduceIte,
      Bool.false_eq_true]
    exact congrArg _ hc.symm

lemma forall₂_field_of_command (h : d.command = .ok c) :
    List.Forall₂ (fun decl f => FieldDecl.field decl d.ident = .ok f) d.fields c.fields := by
  obtain ⟨-, -, hr, -⟩ := command_eq_ok_iff.mp h
  have he : List.Forall₂ (· = ·) d.fieldResults (c.fields.map .ok) := List.forall₂_eq_eq_eq ▸ hr
  rwa [fieldResults, List.forall₂_map_left_iff, List.forall₂_map_right_iff] at he

lemma exists_decl_of_mem (h : d.command = .ok c) (hf : f ∈ c.fields) :
    ∃ decl ∈ d.fields, decl.field d.ident = .ok f := by
  obtain ⟨-, -, hr, -⟩ := command_eq_ok_iff.mp h
  have hm : .ok f ∈ d.fieldResults := hr ▸ List.mem_map_of_mem hf
  exact List.mem_map.mp hm

lemma exists_field_of_mem (h : d.command = .ok c) (hd : decl ∈ d.fields) :
    ∃ f ∈ c.fields, decl.field d.ident = .ok f := by
  obtain ⟨-, -, hr, -⟩ := command_eq_ok_iff.mp h
  have hm : decl.field d.ident ∈ c.fields.map .ok := hr ▸ List.mem_map_of_mem hd
  obtain ⟨f, hf, he⟩ := List.mem_map.mp hm
  exact ⟨f, hf, he.symm⟩

end Definition

end CommandLine
