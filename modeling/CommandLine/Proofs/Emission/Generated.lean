import CommandLine.Expansion
import CommandLine.Proofs.Emission.Implementation
import CommandLine.Proofs.Emission.Legible
import CommandLine.Proofs.Emission.ReadBack

/-! The text that is generated for a definition is read as the constructor that was meant. -/

namespace CommandLine

open Source Source.Tree

variable {d : Definition} {c : Command} {p : Program} {name : Ident} {module : Option Ident}

/-- The identifiers and the visibility of a definition are written as the language has them. -/
structure Definition.Written (d : Definition) : Prop where
  ident : d.ident.IsSpelled
  visibility : Constructor.Visibility d.visibility
  scope : LegibleRow d.visibility
  fields : ∀ f ∈ d.fields, ∀ i, f.ident = some i → i.IsSpelled

namespace Source.Ident

lemma isSpelled_of_plain? {text : String} {i : Ident} (h : plain? text = some i) : i.IsSpelled := by
  rw [plain?] at h
  split at h
  · rename_i hs
    obtain rfl := Option.some.inj h
    exact isSpelled_of_span? (span?_of_spanName (spanName_name hs))
  · cases h

end Source.Ident

namespace Command

lemma isSpelled_of_plainIdent {text : String} {i : Ident} (h : plainIdent text = .ok i) : i.IsSpelled := by
  rw [plainIdent] at h
  split at h
  · rename_i hp
    obtain rfl := Except.ok.inj h
    exact Ident.isSpelled_of_plain? hp
  · cases h

lemma isSpelled_of_configuredName {role : NameRole} {text : String} {i : Ident}
    (h : configuredName role text = .ok i) : i.IsSpelled := by
  rw [configuredName] at h
  split at h
  · split_ifs at h
    exact isSpelled_of_plainIdent h
  · cases h

lemma isSpelled_of_constructorName (h : c.constructorName = .ok name) : name.IsSpelled := by
  rw [constructorName] at h
  split at h
  · exact isSpelled_of_configuredName h
  · exact isSpelled_of_plainIdent h

lemma isSpelled_of_moduleName (h : c.moduleName = .ok module) : ∀ i, module = some i → i.IsSpelled := by
  rintro i rfl
  rw [moduleName] at h
  split at h
  · obtain ⟨j, hj, hi⟩ := map_eq_ok_iff.mp h
    obtain rfl := Option.some.inj hi
    exact isSpelled_of_configuredName hj
  · cases h

end Command

namespace Command

lemma spelled_keyBlock (m : Mark) {options : List Field} (h : ∀ f ∈ options, f.ident.IsSpelled) :
    (keyBlock m options).Spelled := by
  constructor
  · intro body hb s hs
    simp only [Block.bodies, keyBlock, List.mem_cons, List.map_map, List.mem_map] at hb
    rcases hb with rfl | ⟨f, hf, rfl⟩
    · obtain rfl := List.mem_singleton.mp hs
      trivial
    · simp only [Function.comp_apply, Field.keyArm, List.mem_cons, List.not_mem_nil, or_false] at hs
      rcases hs with rfl | rfl
      · trivial
      · exact h f hf
  · rintro arms otherwise hk a ha
    obtain ⟨rfl, -⟩ := Selection.key.inj hk
    obtain ⟨f, -, rfl⟩ := List.mem_map.mp ha
    exact ⟨_, rfl⟩

lemma spelled_turnArms {arguments : List Field} (h : ∀ f ∈ arguments, f.ident.IsSpelled) :
    ∀ a ∈ turnArms arguments, ∀ s ∈ a.body, s.Spelled := by
  induction arguments with
  | nil => simp [turnArms]
  | cons f rest ih =>
    obtain ⟨hf, hrest⟩ := List.forall_mem_cons.mp h
    refine List.forall_mem_cons.mpr ⟨fun s hs => ?_, ih hrest⟩
    simp only [Field.turnArm, List.mem_cons, List.not_mem_nil, or_false] at hs
    rcases hs with rfl | rfl
    · exact hf
    · trivial

lemma spelled_turnBlock {arguments : List Field} (h : ∀ f ∈ arguments, f.ident.IsSpelled) :
    (turnBlock arguments).Spelled := by
  rw [turnBlock]
  split
  · exact ⟨by simp [Block.bodies, Statement.Spelled], by simp⟩
  · refine ⟨List.forall_mem_cons.mpr ⟨by simp [Statement.Spelled], ?_⟩, by simp⟩
    intro body hb
    obtain ⟨a, ha, rfl⟩ := List.mem_map.mp hb
    exact spelled_turnArms h a ha

lemma spelled_chain (h : ∀ f ∈ c.fields, f.ident.IsSpelled) : ∀ b ∈ c.chain.blocks, b.Spelled := by
  have htable : ∀ m, ∀ b ∈ (c.tableBranch m).map Prod.snd, b.Spelled := by
    intro m b hb
    rw [tableBranch] at hb
    split at hb
    · cases hb
    · obtain rfl := List.mem_singleton.mp hb
      exact spelled_keyBlock m fun f hf => h f (mem_table hf).1
  intro b hb
  rw [Chain.blocks, chain, List.map_append, List.mem_append, List.mem_append, Option.toList_some,
    List.mem_singleton] at hb
  rcases hb with (hb | hb) | rfl
  · exact htable .long b hb
  · exact htable .short b hb
  · exact spelled_turnBlock fun f hf => h f (mem_arguments_iff.mp hf).1

end Command

open Command

namespace Definition

lemma ident_of_command (h : d.command = .ok c) : c.ident = d.ident ∧ c.visibility = d.visibility := by
  obtain ⟨-, -, -, hc⟩ := command_eq_ok_iff.mp h
  rw [hc]
  exact ⟨rfl, rfl⟩

lemma Written.field (hw : d.Written) (h : d.command = .ok c) {f : Field} (hf : f ∈ c.fields) : f.ident.IsSpelled := by
  obtain ⟨decl, hd, hdecl⟩ := exists_decl_of_mem h hf
  obtain ⟨-, hi, -, -, -⟩ := FieldDecl.field_eq_ok hdecl
  exact hw.fields decl hd f.ident hi

lemma initializer_written (h : d.command = .ok c) {f : Field} (hf : f ∈ c.fields) : f.initializer.Written := by
  obtain ⟨decl, -, hd⟩ := exists_decl_of_mem h hf
  rw [Field.initializer]
  split
  · rename_i v hv
    obtain ⟨source, hs⟩ := FieldDecl.exists_source_of_default hd hv
    exact (Kind.denoted_of_readDefault hs).written
  · trivial

lemma Written.program (hw : d.Written) (h : d.command = .ok c) (hp : c.program = .ok p) : p.Spelled := by
  cases hp.symm.trans c.program_eq
  refine ⟨(ident_of_command h).1 ▸ hw.ident, fun name hn => Imports.isSpelled_of_mem_names hn, fun i hi => ?_,
    spelled_chain fun f hf => hw.field h hf⟩
  obtain ⟨f, hf, rfl⟩ := List.mem_map.mp hi
  exact ⟨hw.field h hf, initializer_written h hf⟩

lemma declared_eq (h : d.command = .ok c) (hp : c.program = .ok p) :
    d.declared = p.fields.map FieldInit.declared := by
  cases hp.symm.trans c.program_eq
  have hall := forall₂_field_of_command h
  rw [declared, fieldInits, List.map_map]
  -- field by field, since each declaration names the kind of its field
  generalize d.fields = decls at hall ⊢
  generalize c.fields = fields at hall ⊢
  induction hall with
  | nil => rfl
  | cons hf _ ih =>
    obtain ⟨-, hi, hk, -, -⟩ := FieldDecl.field_eq_ok hf
    rw [List.filterMap_cons_some (by rw [hi, hk]; rfl), ih]
    rfl

lemma read?_generated (hw : d.Written) (h : d.command = .ok c) (hn : c.constructorName = .ok name)
    (hm : c.moduleName = .ok module) (hp : c.program = .ok p) : ∃ text ts, c.generate = .ok text ∧
      Source.trees? text = some ts ∧
      Constructor.read? d.declared ts = some { visibility := d.visibility, module, name, program := p } := by
  let k : Constructor := { visibility := d.visibility, module, name, program := p }
  have hk : k.Spelled := ⟨hw.scope, isSpelled_of_moduleName hm, isSpelled_of_constructorName hn, hw.program h hp⟩
  refine ⟨k.render, k.trees, ?_, Constructor.trees?_render hk, ?_⟩
  · simp only [Command.generate, hn, hm, hp, (ident_of_command h).2]
    rfl
  · rw [declared_eq h hp]
    exact Constructor.read?_trees (k := k) hw.visibility fun f hf => (hk.program.fields f hf).2

end Definition

end CommandLine
