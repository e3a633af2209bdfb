import CommandLine.Proofs.Definition

namespace CommandLine

open Source

section

variable {α β γ ε : Type} {check : β → Except ε α} {report : ε → γ} {bs : List β} {es : List γ}

lemma failures_eq_nil_iff : failures (bs.map check) = [] ↔ ∀ b ∈ bs, ∃ a, check b = .ok a := by
  induction bs with
  | nil => simp [failures]
  | cons b bs ih => cases hb : check b <;> simp [failures, hb, ih]

lemma map_failures_eq_iff : (failures (bs.map check)).map report = es ↔
    List.Forall₂ (fun b e => ∃ error, check b = .error error ∧ e = report error)
      (bs.filter fun b => !(check b).isOk) es := by
  induction bs generalizing es with
  | nil => simp [failures, eq_comm]
  | cons b bs ih =>
    cases hb : check b with
    | ok a => simpa [failures, hb, Except.isOk, Except.toBool] using ih
    | error e =>
      have hr : failures ((b :: bs).map check) = e :: failures (bs.map check) := by simp [failures, hb]
      have hf : ((b :: bs).filter fun b => !(check b).isOk) = b :: bs.filter fun b => !(check b).isOk := by
        simp [hb, Except.isOk, Except.toBool]
      rw [hr, hf, List.map_cons, List.forall₂_cons_left_iff]
      refine ⟨?_, ?_⟩
      · rintro rfl
        exact ⟨_, _, ⟨e, hb, rfl⟩, ih.mp rfl, rfl⟩
      · rintro ⟨_, es, ⟨e', he, rfl⟩, hes, rfl⟩
        rw [ih.mpr hes, Except.error.inj (hb.symm.trans he)]

end

namespace Definition

variable {d : Definition} {c : Command} {errors : List DefinitionError}

def AtFault (d : Definition) : Prop :=
  (Settings.ofAttributes d.attributes).faults ≠ [] ∨ d.shape ≠ .named

instance (d : Definition) : Decidable d.AtFault :=
  inferInstanceAs (Decidable (_ ∨ _))

lemma outerErrors_ne_nil_iff : d.outerErrors ≠ [] ↔ d.AtFault := by
  rw [AtFault, ne_eq, outerErrors_eq_nil_iff, not_and_or]

section

variable (sound : ¬ d.AtFault) (plain : d.isGeneric = false)
include sound plain

lemma command_of_failures : d.command =
    if failures d.fieldResults = [] then
      .ok { ident := d.ident
            visibility := d.visibility
            module := (Settings.ofAttributes d.attributes).module
            constructor := (Settings.ofAttributes d.attributes).constructor
            fields := successes d.fieldResults }
    else .error ((failures d.fieldResults).map .field) := by
  rw [command, if_neg (outerErrors_ne_nil_iff.not.mpr sound), if_neg (by simp [plain])]
  cases hf : failures d.fieldResults <;> simp

lemma exists_command_iff :
    (∃ c, d.command = .ok c) ↔ ∀ decl ∈ d.fields, ∃ f, decl.field d.ident = .ok f := by
  rw [command_of_failures sound plain, ← failures_eq_nil_iff, ← fieldResults]
  split <;> simp [*]

lemma command_eq_error_iff : d.command = .error errors ↔ errors ≠ [] ∧
    List.Forall₂ (fun decl e => ∃ error, decl.field d.ident = .error error ∧ e = .field error)
      (d.fields.filter fun decl => !(decl.field d.ident).isOk) errors := by
  rw [command_of_failures sound plain, ← map_failures_eq_iff, ← fieldResults]
  split
  · rename_i hf
    simp [hf, eq_comm]
  · rename_i hf
    refine ⟨?_, fun h => congrArg _ h.2⟩
    rintro ⟨⟩
    exact ⟨by simpa using hf, rfl⟩

end

/-- The first of three stages that finds a fault reports it, and the last one reports every field that fails. -/
theorem command_stages (d : Definition) :
    (d.AtFault → d.command =
      .error ((Settings.ofAttributes d.attributes).faults.map .setting ++ d.shapeFault?.toList.map .shape)) ∧
    (¬ d.AtFault → d.isGeneric = true → d.command = .error [.generic]) ∧
    (¬ d.AtFault → d.isGeneric = false →
      ((∃ c, d.command = .ok c) ↔ ∀ decl ∈ d.fields, ∃ f, decl.field d.ident = .ok f) ∧
      (∀ c, d.command = .ok c → List.Forall₂ (fun decl f => decl.field d.ident = .ok f) d.fields c.fields) ∧
      ∀ errors, d.command = .error errors ↔ errors ≠ [] ∧
        List.Forall₂ (fun decl e => ∃ error, decl.field d.ident = .error error ∧ e = .field error)
          (d.fields.filter fun decl => !(decl.field d.ident).isOk) errors) := by
  refine ⟨fun h => ?_, fun h hg => ?_, fun h hg => ?_⟩
  · rw [command, if_pos (outerErrors_ne_nil_iff.mpr h), outerErrors]
  · rw [command, if_neg (outerErrors_ne_nil_iff.not.mpr h), if_pos hg]
  · exact ⟨exists_command_iff h hg, fun _ => forall₂_field_of_command, fun _ => command_eq_error_iff h hg⟩

def mistaken : Definition where
  ident := ⟨"Mistaken", false⟩
  fields := [
    .annotated "letter" "char" "",
    .annotated "input" "String" "type:argument",
    .annotated "label" "String" "name:'Oops",
    .annotated "size" "u8" "type:option default:3",
    .annotated "force" "bool" "type:option name:''"]

def misplaced : Definition where
  ident := ⟨"Misplaced", false⟩
  shape := .enumeration
  generics := [.punct '<' false, .ident ⟨"T", false⟩, .punct '>' false]
  attributes := [⟨[.ident ⟨"command", false⟩], .list .parenthesis [
    .ident ⟨"modul", false⟩, .punct '=' false, .literal (.ofString "args"), .punct ',' false,
    .ident ⟨"constructor", false⟩, .punct '=' false, .literal (.ofString "make"), .punct ',' false,
    .ident ⟨"constructor", false⟩]⟩]

theorem mistaken_stages :
    (¬ mistaken.AtFault ∧ mistaken.isGeneric = false ∧ mistaken.command = .error [
      .field ⟨⟨"Mistaken", false⟩, some ⟨"letter", false⟩, .unsupportedType "char"⟩,
      .field ⟨⟨"Mistaken", false⟩, some ⟨"label", false⟩, .metadata ⟨'\'', 5⟩⟩,
      .field ⟨⟨"Mistaken", false⟩, some ⟨"force", false⟩, .unreachable⟩]) ∧
    misplaced.AtFault ∧ misplaced.isGeneric = true ∧ misplaced.command = .error [
      .setting (.unknown "modul" (some "module")), .setting (.duplicate .constructor), .shape .enumeration] := by
  have sound : ¬ mistaken.AtFault := by decide +kernel
  have fault : misplaced.AtFault := by decide +kernel
  have letter : (FieldDecl.annotated "letter" "char" "").field ⟨"Mistaken", false⟩ =
      .error ⟨⟨"Mistaken", false⟩, some ⟨"letter", false⟩, .unsupportedType "char"⟩ := by decide +kernel
  have label : (FieldDecl.annotated "label" "String" "name:'Oops").field ⟨"Mistaken", false⟩ =
      .error ⟨⟨"Mistaken", false⟩, some ⟨"label", false⟩, .metadata ⟨'\'', 5⟩⟩ := by decide +kernel
  have force : (FieldDecl.annotated "force" "bool" "type:option name:''").field ⟨"Mistaken", false⟩ =
      .error ⟨⟨"Mistaken", false⟩, some ⟨"force", false⟩, .unreachable⟩ := by decide +kernel
  have input : ((FieldDecl.annotated "input" "String" "type:argument").field ⟨"Mistaken", false⟩).isOk = true := by
    decide +kernel
  have size : ((FieldDecl.annotated "size" "u8" "type:option default:3").field ⟨"Mistaken", false⟩).isOk = true := by
    decide +kernel
  have failing : (mistaken.fields.filter fun decl => !(decl.field mistaken.ident).isOk) = [
      .annotated "letter" "char" "", .annotated "label" "String" "name:'Oops",
      .annotated "force" "bool" "type:option name:''"] := by
    simp only [mistaken, List.filter_cons, letter, input, label, size, force]
    rfl
  obtain ⟨-, -, errors⟩ := (command_stages mistaken).2.2 sound rfl
  refine ⟨⟨sound, rfl, (errors _).mpr ⟨by simp, ?_⟩⟩, fault, rfl, ?_⟩
  · rw [failing]
    exact .cons ⟨_, letter, rfl⟩ (.cons ⟨_, label, rfl⟩ (.cons ⟨_, force, rfl⟩ .nil))
  · rw [(command_stages misplaced).1 fault]
    exact congrArg _ (by decide +kernel)

end Definition

end CommandLine
