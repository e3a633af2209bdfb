import CommandLine.Proofs.Emission.Refinement
import CommandLine.Proofs.Naming
import CommandLine.Proofs.Text.Identifier

namespace CommandLine

open Source

namespace Words

variable {c : Char} {name : String}

lemma isIdentifierContinue_snake (h : ∀ c ∈ name.toList, Text.isIdentifierContinue c = true) :
    ∀ x ∈ (snake name).toList, Text.isIdentifierContinue x = true := by
  rw [snake, join, String.toList_ofList]
  refine forall_mem_intercalate (by decide) (List.forall_mem_map.mpr fun w hw => ?_)
  refine Text.isIdentifierContinue_lowerFrom (fun c hc => h c ?_) []
  obtain ⟨x, hx, hc⟩ := List.mem_flatten.mp hc
  exact Text.mem_of_mem_clusters (mem_of_mem_split hw hx) hc

lemma mem_snake (hc : c ∈ name.toList) (keeps : ∀ b ∈ allBoundaries, b ≠ .separator c) (hs : c ≠ 'Σ')
    (hl : Text.lowerChar c = [c]) : c ∈ (snake name).toList := by
  rw [← Text.flatten_clustersFrom [] name.toList] at hc
  obtain ⟨x, hx, hc⟩ := List.mem_flatten.mp hc
  have hdrops : ∀ b ∈ allBoundaries, b.drops x = false := by
    intro b hb
    cases b with
    | separator d =>
      rw [Boundary.drops, decide_eq_false_iff_not]
      rintro rfl
      exact keeps _ hb (congrArg _ (List.mem_singleton.mp hc).symm)
    | _ => rfl
  obtain ⟨w, hw, hxw⟩ := exists_mem_split hx hdrops
  rw [snake, join, String.toList_ofList]
  refine mem_intercalate (List.mem_map_of_mem hw) ?_
  exact Text.mem_lowerFrom (List.mem_flatten.mpr ⟨x, hxw, hc⟩) hs hl []

end Words

namespace Command

open Words

variable {c : Command} {role role' : NameRole} {name text : String} {i : Ident} {e : NameError}

def configured (c : Command) : NameRole → Option String
  | .constructor => c.constructor
  | .module => c.module

def nameOf (c : Command) : NameRole → Except NameError (Option Ident)
  | .constructor => c.constructorName.map some
  | .module => c.moduleName

def Refuses (c : Command) (role : NameRole) (name : String) : Prop :=
  c.configured role = some name ∧ ∀ i, singleIdent? name = some i → i.isKeyword = true

def TakesRaw (c : Command) (role : NameRole) : Prop :=
  (∃ name i, c.configured role = some name ∧ singleIdent? name = some i ∧ i.raw = true) ∨
    role = .constructor ∧ c.constructor = none ∧ c.ident.raw = true

def Sound (c : Command) (role : NameRole) : Prop :=
  (∀ name, ¬ c.Refuses role name) ∧ ¬ c.TakesRaw role

lemma plainIdent_new (h : ∀ x ∈ text.toList, Text.isIdentifierContinue x = true) :
    plainIdent ("new_" ++ text) = .ok ⟨"new_" ++ text, false⟩ := by
  rw [plainIdent, Ident.plain?, spanName_new_of_continue text h]

lemma plainIdent_of_mark (h : '#' ∈ text.toList) : plainIdent text = .error (.aborted text) := by
  have hn : Ident.plain? text = none := by
    rw [Ident.plain?]
    split
    · rename_i name hs
      rw [← Ident.append_of_spanName hs, List.append_nil] at h
      exact absurd (Ident.chars_of_spanName hs '#' h) (by decide)
    · rfl
  rw [plainIdent, hn]

lemma plainIdent_text (h : i.IsSpelled) : plainIdent i.text = if i.raw then .error (.aborted i.text) else .ok i := by
  rw [plainIdent, h.plain?]
  cases i.raw <;> rfl

lemma plainIdent_new_snake (h : i.IsSpelled) : plainIdent ("new_" ++ snake i.text) =
    if i.raw then .error (.aborted ("new_" ++ snake i.text)) else .ok ⟨"new_" ++ snake i.text, false⟩ := by
  obtain ⟨name, raw⟩ := i
  cases raw with
  | false => exact plainIdent_new (isIdentifierContinue_snake h.chars)
  | true =>
    have hmark : '#' ∈ (Ident.text ⟨name, true⟩).toList := by simp [Ident.toList_text_raw]
    have hsnake := mem_snake hmark (by decide) (by decide) (by decide)
    refine plainIdent_of_mark ?_
    rw [String.toList_append]
    exact List.mem_append_right _ hsnake

lemma not_isKeyword_of_raw (h : i.raw = true) : i.isKeyword = false := by
  simp [Ident.isKeyword, h]

lemma configuredName_of_none (h : singleIdent? name = none) :
    configuredName role name = .error (.invalid role name) := by
  rw [configuredName, h]

lemma configuredName_of_some (h : singleIdent? name = some i) : configuredName role name =
    if i.isKeyword then .error (.invalid role name) else if i.raw then .error (.aborted i.text) else .ok i := by
  rw [← plainIdent_text (isSpelled_of_singleIdent? h), configuredName, h]

lemma configuredName_eq_invalid_iff : configuredName role name = .error (.invalid role' text) ↔
    role = role' ∧ name = text ∧ ∀ i, singleIdent? name = some i → i.isKeyword = true := by
  cases hs : singleIdent? name with
  | none => simp [configuredName_of_none hs]
  | some i =>
    rw [configuredName_of_some hs]
    cases hk : i.isKeyword <;> cases hr : i.raw <;> simp [hk]

lemma exists_configuredName_aborted_iff : (∃ text, configuredName role name = .error (.aborted text)) ↔
    ∃ i, singleIdent? name = some i ∧ i.raw = true := by
  cases hs : singleIdent? name with
  | none => simp [configuredName_of_none hs]
  | some i =>
    rw [configuredName_of_some hs]
    cases hr : i.raw with
    | false => cases hk : i.isKeyword <;> simp [hr]
    | true => simp [hr, not_isKeyword_of_raw hr]

lemma nameOf_of_configured (h : c.configured role = some name) :
    c.nameOf role = (configuredName role name).map some := by
  cases role with
  | constructor =>
    have hc : c.constructor = some name := h
    rw [nameOf, constructorName, hc]
  | module =>
    have hm : c.module = some name := h
    rw [nameOf, moduleName, hm]

lemma nameOf_of_unset (spelled : c.ident.IsSpelled) (h : c.configured role = none) :
    (∃ o, c.nameOf role = .ok o) ∧ ¬ c.TakesRaw role ∨
      c.TakesRaw role ∧ ∃ text, c.nameOf role = .error (.aborted text) := by
  have hset : ¬ ∃ name i, c.configured role = some name ∧ singleIdent? name = some i ∧ i.raw = true := by simp [h]
  rw [TakesRaw, or_iff_right hset]
  cases role with
  | constructor =>
    have hc : c.constructor = none := h
    rw [nameOf, constructorName, hc]
    simp only [plainIdent_new_snake spelled]
    cases hr : c.ident.raw with
    | false => exact Or.inl ⟨⟨_, rfl⟩, by simp⟩
    | true => exact Or.inr ⟨by simp, _, rfl⟩
  | module =>
    have hm : c.module = none := h
    rw [nameOf, moduleName, hm]
    exact Or.inl ⟨⟨_, rfl⟩, by simp⟩

lemma nameOf_eq_invalid_iff (spelled : c.ident.IsSpelled) :
    c.nameOf role = .error (.invalid role' name) ↔ role = role' ∧ c.Refuses role name := by
  cases hc : c.configured role with
  | some configured =>
    rw [nameOf_of_configured hc, map_eq_error_iff, configuredName_eq_invalid_iff, Refuses, hc, Option.some.injEq]
    refine and_congr_right fun _ => and_congr_right ?_
    rintro rfl
    rfl
  | none =>
    refine iff_of_false (fun h => ?_) fun h => absurd (hc.symm.trans h.2.1) (by simp)
    rcases nameOf_of_unset spelled hc with ⟨⟨o, ho⟩, -⟩ | ⟨-, text, ht⟩
    · cases ho.symm.trans h
    · cases ht.symm.trans h

lemma exists_nameOf_aborted_iff (spelled : c.ident.IsSpelled) :
    (∃ text, c.nameOf role = .error (.aborted text)) ↔ c.TakesRaw role := by
  cases hc : c.configured role with
  | some name =>
    have hdefault : ¬ (role = .constructor ∧ c.constructor = none ∧ c.ident.raw = true) := by
      rintro ⟨rfl, hn, -⟩
      cases hc.symm.trans hn
    simp only [nameOf_of_configured hc, map_eq_error_iff, exists_configuredName_aborted_iff, TakesRaw,
      or_iff_left hdefault, hc, Option.some.injEq, exists_eq_left', exists_and_left]
  | none =>
    rcases nameOf_of_unset spelled hc with ⟨⟨o, ho⟩, hn⟩ | ⟨hr, ht⟩
    · refine iff_of_false ?_ hn
      rintro ⟨text, ht⟩
      cases ho.symm.trans ht
    · exact iff_of_true ht hr

lemma exists_nameOf_iff (spelled : c.ident.IsSpelled) : (∃ o, c.nameOf role = .ok o) ↔ c.Sound role := by
  rw [Sound, ← exists_nameOf_aborted_iff spelled]
  have hinvalid : ∀ name, c.Refuses role name ↔ c.nameOf role = .error (.invalid role name) := by
    simp [nameOf_eq_invalid_iff spelled]
  simp only [hinvalid]
  cases hr : c.nameOf role with
  | ok o => simp
  | error e =>
    cases e with
    | aborted text => simp
    | invalid role' name =>
      obtain ⟨rfl, -⟩ := (nameOf_eq_invalid_iff spelled).mp hr
      simp

lemma exists_generate_iff : (∃ text, c.generate = .ok text) ↔ ∀ role, ∃ o, c.nameOf role = .ok o := by
  have hp := c.program_eq
  have hroles : (∀ role, ∃ o, c.nameOf role = .ok o) ↔
      (∃ o, c.nameOf .constructor = .ok o) ∧ ∃ o, c.nameOf .module = .ok o :=
    ⟨fun h => ⟨h _, h _⟩, fun h role => by cases role <;> simp [h]⟩
  rw [hroles, nameOf, nameOf, generate, hp]
  cases c.constructorName <;> cases c.moduleName <;> simp [Except.map]

lemma generate_eq_error_iff : c.generate = .error (.name e) ↔ c.nameOf .constructor = .error e ∨
    (∃ o, c.nameOf .constructor = .ok o) ∧ c.nameOf .module = .error e := by
  have hp := c.program_eq
  rw [nameOf, nameOf, generate, hp]
  cases c.constructorName <;> cases c.moduleName <;> simp [Except.map]

lemma generate_ne_chain (c : Command) (e : ChainError) : c.generate ≠ .error (.chain e) := by
  have hp := c.program_eq
  rw [generate, hp]
  cases c.constructorName <;> cases c.moduleName <;> simp

end Command

namespace Definition

open Command

variable {d : Definition} {c : Command}

lemma ofDefinition_eq_aborted_iff (accepted : d.command = .ok c) :
    Expansion.ofDefinition d = .aborted ↔ ∃ text, c.generate = .error (.name (.aborted text)) := by
  rw [Expansion.ofDefinition, accepted]
  cases hg : c.generate with
  | ok text => simp [hg]
  | error e =>
    cases e with
    | name e => cases e <;> simp [hg, GenerationError.message?, NameError.message?]
    | chain e => exact absurd hg (c.generate_ne_chain e)

/-- Generation is cut off exactly where a raw identifier would have to be carried over. -/
theorem generation_outcomes (accepted : d.command = .ok c) (spelled : d.ident.IsSpelled) :
    ((∃ text, c.generate = .ok text) ↔ ∀ role, c.Sound role) ∧
    (∀ name, c.generate = .error (.name (.invalid .constructor name)) ↔ c.Refuses .constructor name) ∧
    (∀ name, c.generate = .error (.name (.invalid .module name)) ↔ c.Sound .constructor ∧ c.Refuses .module name) ∧
    (Expansion.ofDefinition d = .aborted ↔ c.TakesRaw .constructor ∨ c.Sound .constructor ∧ c.TakesRaw .module) := by
  obtain ⟨-, -, -, hc⟩ := command_eq_ok_iff.mp accepted
  have hi : c.ident.IsSpelled := by
    rw [hc]
    exact spelled
  refine ⟨?_, fun name => ?_, fun name => ?_, ?_⟩
  · simp only [exists_generate_iff, exists_nameOf_iff hi]
  · simp [generate_eq_error_iff, nameOf_eq_invalid_iff hi]
  · simp [generate_eq_error_iff, nameOf_eq_invalid_iff hi, exists_nameOf_iff hi]
  · simp only [ofDefinition_eq_aborted_iff accepted, generate_eq_error_iff, exists_or, exists_and_left,
      exists_nameOf_aborted_iff hi, exists_nameOf_iff hi]

def rawType : Definition where
  ident := ⟨"type", true⟩

theorem rawType_aborted : rawType.ident.IsSpelled ∧ Expansion.ofDefinition rawType = .aborted ∧
    ¬ ∀ (d : Definition) (c : Command), d.ident.IsSpelled → d.command = .ok c →
      (∃ text, c.generate = .ok text) ∨ ∃ role name, c.generate = .error (.name (.invalid role name)) := by
  have spelled : rawType.ident.IsSpelled := by decide +kernel
  have accepted : rawType.command = .ok { ident := ⟨"type", true⟩ } := rfl
  have unnamed : Command.constructorName { ident := ⟨"type", true⟩ } = .error (.aborted "new_r#type") := by
    decide +kernel
  have aborted : Command.generate { ident := ⟨"type", true⟩ } = .error (.name (.aborted "new_r#type")) := by
    rw [Command.generate, unnamed]
  refine ⟨spelled, (ofDefinition_eq_aborted_iff accepted).mpr ⟨_, aborted⟩, fun total => ?_⟩
  rcases total _ _ spelled accepted with ⟨text, h⟩ | ⟨role, name, h⟩
  · cases aborted.symm.trans h
  · cases aborted.symm.trans h

def setting (key value : String) : List Tree :=
  [.ident ⟨key, false⟩, .punct '=' false, .literal (.ofString value)]

def named (constructor module : String) : Definition where
  ident := ⟨"Größe", false⟩
  attributes := [⟨[.ident ⟨"command", false⟩],
    .list .parenthesis (setting "constructor" constructor ++ .punct ',' false :: setting "module" module)⟩]

def namedCommand (constructor module : String) : Command where
  ident := ⟨"Größe", false⟩
  constructor := some constructor
  module := some module

theorem named_outcomes :
    (named "mach" "type").command = .ok (namedCommand "mach" "type") ∧
    (namedCommand "mach" "type").generate = .error (.name (.invalid .module "type")) ∧
    (named "r#new" "args").command = .ok (namedCommand "r#new" "args") ∧
    Expansion.ofDefinition (named "r#new" "args") = .aborted := by
  have spelled : (⟨"Größe", false⟩ : Ident).IsSpelled := by decide +kernel
  have keyword : (named "mach" "type").command = .ok (namedCommand "mach" "type") := by
    rw [command_eq_ok_iff]
    exact ⟨by decide +kernel, rfl, rfl, rfl⟩
  have raw : (named "r#new" "args").command = .ok (namedCommand "r#new" "args") := by
    rw [command_eq_ok_iff]
    exact ⟨by decide +kernel, rfl, rfl, rfl⟩
  have mach : singleIdent? "mach" = some ⟨"mach", false⟩ := by decide +kernel
  have type : singleIdent? "type" = some ⟨"type", false⟩ := by decide +kernel
  have new : singleIdent? "r#new" = some ⟨"new", true⟩ := by decide +kernel
  obtain ⟨-, -, refused, -⟩ := generation_outcomes keyword spelled
  obtain ⟨-, -, -, aborted⟩ := generation_outcomes raw spelled
  refine ⟨keyword, (refused _).mpr ⟨⟨?_, ?_⟩, rfl, ?_⟩, raw, aborted.mpr (.inl (.inl ⟨"r#new", _, rfl, new, rfl⟩))⟩
  · rintro name ⟨hname, hkeyword⟩
    obtain rfl : "mach" = name := Option.some.inj hname
    exact absurd (hkeyword _ mach) (by decide)
  · rintro (⟨name, i, hname, hi, hr⟩ | ⟨-, hunset, -⟩)
    · obtain rfl : "mach" = name := Option.some.inj hname
      obtain rfl := Option.some.inj (mach.symm.trans hi)
      cases hr
    · cases hunset
  · intro i hi
    obtain rfl := Option.some.inj (type.symm.trans hi)
    decide

end Definition

end CommandLine
