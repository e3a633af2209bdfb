import CommandLine.Proofs.Constant

/-! The tokens of a generated constructor can be read from its text. -/

namespace CommandLine

open Source Source.Row Source.Tree

namespace Source.Tree

variable {α : Type} {rows : List Row} {t : Tree}

lemma legible_flatMap {f : α → Row} {as : List α} (h : ∀ a ∈ as, LegibleRow (f a)) : LegibleRow (as.flatMap f) := by
  induction as with
  | nil => trivial
  | cons a as ih =>
    obtain ⟨ha, has⟩ := List.forall_mem_cons.mp h
    exact ha.append (ih has)

lemma legible_separated (ht : LegibleRow [t]) (h : ∀ row ∈ rows, LegibleRow row) : LegibleRow (separated t rows) := by
  induction rows with
  | nil => trivial
  | cons row rows ih =>
    obtain ⟨hrow, hrows⟩ := List.forall_mem_cons.mp h
    cases rows with
    | nil => rwa [separated, List.intercalate_singleton]
    | cons row' rows =>
      rw [separated, List.intercalate_cons_cons]
      exact (hrow.append ht).append (ih hrows)

lemma legible_ofStatements {last : Row} (h : ∀ row ∈ rows, LegibleRow row) (hl : LegibleRow last) :
    LegibleRow (ofStatements rows last) := by
  have hsign : LegibleRow (ofSigns [';']) := legible_plain _ (by decide)
  refine legible_separated hsign fun row hr => ?_
  rcases List.mem_append.mp hr with hr | hr
  · exact h row hr
  · rwa [List.mem_singleton.mp hr]

lemma legible_ofString (s : String) : LegibleRow [.literal (.ofString s)] :=
  legibleRow_cons (Or.inl ⟨s, rfl⟩) rfl trivial

lemma legible_ofNat (n : ℕ) : LegibleRow [.literal ⟨toString n⟩] := by
  have hdigits : Lexer.PlainDecimal (toString n).toList := by
    rw [Nat.toString_eq_ofList_toDigits, String.toList_ofList]
    exact .whole Nat.toDigits_ne_nil fun c hc => Nat.isDigit_of_mem_toDigits (by decide) le_rfl hc
  exact legibleRow_cons (Or.inr ⟨_, [], (List.append_nil _).symm, hdigits, Or.inr rfl⟩) rfl trivial

end Source.Tree

lemma Mark.legible_guard (m : Mark) : LegibleRow m.guardTrees := by
  cases m <;> exact legible_plain _ (by decide)

lemma Operand.legible_trees (o : Operand) : LegibleRow o.trees := by
  cases o <;> exact legible_plain _ (by decide)

namespace Refusal

lemma legible_trees (r : Refusal) : LegibleRow r.trees := by
  cases r with
  | unknown mark => cases mark <;> exact legible_plain _ (by decide)
  | missingValue => exact legible_plain _ (by decide)
  | unexpected text => cases text <;> exact legible_plain _ (by decide)

lemma legible_returnTrees (r : Refusal) : LegibleRow r.returnTrees :=
  .append (legible_plain _ (by decide)) (legible_ofGroup r.legible_trees)

end Refusal

namespace Conversion

lemma legible_function (c : Conversion) : LegibleRow c.functionTrees := by
  cases c with
  | copy => exact legible_plain _ (by decide)
  | integer t => cases t <;> exact legible_plain _ (by decide)
  | float w => cases w <;> exact legible_plain _ (by decide)
  | boolean => exact legible_plain _ (by decide)

lemma legible_question (c : Conversion) : LegibleRow c.questionTrees := by
  cases c with
  | copy => trivial
  | _ => exact legible_plain (ofSigns ['?']) (by decide)

end Conversion

namespace Statement

def Spelled : Statement → Prop
  | assign a _ => a.field.IsSpelled
  | _ => True

lemma legible_trees {s : Statement} (h : s.Spelled) : LegibleRow s.trees := by
  cases s with
  | splitOption => exact legible_plain _ (by decide)
  | bindItem text => exact .append (legible_plain _ (by decide)) text.legible_trees
  | requireValue otherwise =>
    have herror : LegibleRow (ofSigns ['|', '|'] ++ otherwise.trees) :=
      .append (legible_plain _ (by decide)) otherwise.legible_trees
    exact .append (.append (legible_plain _ (by decide)) (legible_ofGroup herror)) (legible_plain _ (by decide))
  | assign a text =>
    have hfield : LegibleRow (ofWord "command" ++ ofSigns ['.'] ++ [.ident a.field] ++ ofSigns ['=']) :=
      .append (.append (legible_plain _ (by decide)) (legible_ofIdent h)) (legible_plain _ (by decide))
    exact .append (.append (.append hfield a.conversion.legible_function) (legible_ofGroup text.legible_trees))
      a.conversion.legible_question
  | countDown => exact .append (legible_plain _ (by decide)) (legible_ofNat 1)
  | refuse r => exact r.legible_returnTrees

lemma legible_map_trees {body : List Statement} (h : ∀ s ∈ body, s.Spelled) :
    ∀ row ∈ body.map trees, LegibleRow row := by
  intro row hr
  obtain ⟨s, hs, rfl⟩ := List.mem_map.mp hr
  exact legible_trees (h s hs)

end Statement

namespace Block

structure Spelled (b : Block) : Prop where
  statements : ∀ body ∈ b.bodies, ∀ s ∈ body, s.Spelled
  labels : ∀ arms otherwise, b.selection = .key arms otherwise → ∀ a ∈ arms, ∃ s, a.pattern = .ofString s

lemma legible_arms {π : Type} {patternTrees : π → Row} {arms : List (Arm π)}
    (hp : ∀ a ∈ arms, LegibleRow (patternTrees a.pattern)) (hs : ∀ a ∈ arms, ∀ s ∈ a.body, s.Spelled) :
    LegibleRow (arms.flatMap (Arm.trees patternTrees)) := by
  refine legible_flatMap fun a ha => .append (.append (hp a ha) (legible_plain _ (by decide))) (legible_ofGroup ?_)
  exact legible_ofStatements (Statement.legible_map_trees (hs a ha)) trivial

lemma legible_default (otherwise : Refusal) : LegibleRow (Selection.defaultTrees otherwise) :=
  .append (.append (legible_plain _ (by decide)) otherwise.legible_returnTrees) (legible_plain _ (by decide))

lemma legible_selection {b : Block} (h : b.Spelled) : LegibleRow b.selection.trees := by
  obtain ⟨statements, selection⟩ := b
  have hbodies := (List.forall_mem_cons.mp h.statements).2
  cases selection with
  | done => trivial
  | key arms otherwise =>
    refine .append (legible_plain _ (by decide)) (legible_ofGroup (.append (legible_arms ?_ ?_) (legible_default _)))
    · intro a ha
      obtain ⟨s, hs⟩ := h.labels arms otherwise rfl a ha
      rw [hs]
      exact legible_ofString s
    · exact fun a ha => hbodies a.body (List.mem_map_of_mem ha)
  | count arms otherwise =>
    refine .append (legible_plain _ (by decide)) (legible_ofGroup (.append (legible_arms ?_ ?_) (legible_default _)))
    · exact fun a _ => legible_ofNat a.pattern
    · exact fun a ha => hbodies a.body (List.mem_map_of_mem ha)

lemma legible_trees {b : Block} (h : b.Spelled) : LegibleRow b.trees :=
  legible_ofStatements (Statement.legible_map_trees (List.forall_mem_cons.mp h.statements).1) (legible_selection h)

end Block

lemma Chain.legible_trees {c : Chain Mark Block} (h : ∀ b ∈ c.blocks, b.Spelled) :
    LegibleRow (c.trees Mark.guardTrees Block.trees) := by
  refine legible_separated (legible_plain _ (by decide)) fun row hr => ?_
  rcases List.mem_append.mp hr with hr | hr
  · obtain ⟨⟨m, b⟩, hb, rfl⟩ := List.mem_map.mp hr
    have hspelled := h b (List.mem_append_left _ (List.mem_map_of_mem hb))
    have hguard : LegibleRow (ofWord "if" ++ m.guardTrees) := .append (legible_plain _ (by decide)) m.legible_guard
    exact hguard.append (legible_ofGroup (Block.legible_trees hspelled))
  · obtain ⟨b, hb, rfl⟩ := List.mem_map.mp hr
    exact legible_ofGroup (Block.legible_trees (h b (List.mem_append_right _ hb)))

namespace Imports

lemma isSpelled_of_mem_names {i : Imports} {name : String} (h : name ∈ i.names) : Ident.IsSpelled ⟨name, false⟩ := by
  have hall : ∀ name ∈ ["ArgsError", "tokens", "convert"], Ident.IsSpelled ⟨name, false⟩ := by decide
  refine hall name ?_
  rw [names] at h
  split at h
  · exact h
  · simpa using Or.imp_right Or.inl (by simpa using h)

end Imports

namespace Program

structure Spelled (p : Program) : Prop where
  target : p.target.IsSpelled
  imports : ∀ name ∈ p.imports, Ident.IsSpelled ⟨name, false⟩
  fields : ∀ f ∈ p.fields, f.field.IsSpelled ∧ f.initializer.Written
  dispatch : ∀ b ∈ p.dispatch.blocks, b.Spelled

variable {p : Program}

lemma legible_import {name : String} (h : Ident.IsSpelled ⟨name, false⟩) : LegibleRow (importTrees name) := by
  have himport : importTrees name =
      ofWord "use" ++ ofPath ["clitag"] ++ ofSigns [':', ':'] ++ [.ident ⟨name, false⟩] := rfl
  rw [himport]
  exact .append (legible_plain _ (by decide)) (legible_ofIdent h)

lemma legible_record (h : p.Spelled) : LegibleRow p.recordTrees := by
  have hfields : LegibleRow (separated (.punct ',' false) (p.fields.map FieldInit.trees)) := by
    refine legible_separated (legible_plain _ (by decide)) fun row hr => ?_
    obtain ⟨f, hf, rfl⟩ := List.mem_map.mp hr
    obtain ⟨hi, hw⟩ := h.fields f hf
    exact .append (.append (legible_ofIdent hi) (legible_plain _ (by decide))) hw.legible
  exact .append (.append (legible_plain _ (by decide)) (legible_ofIdent h.target)) (legible_ofGroup hfields)

lemma legible_counter (total : ℕ) : LegibleRow (counterTrees total) :=
  .append (legible_plain _ (by decide)) (legible_ofNat total)

lemma legible_trees (h : p.Spelled) : LegibleRow p.trees := by
  have hitem : LegibleRow itemTrees := legible_plain _ (by decide)
  have hresult : LegibleRow resultTrees := legible_plain _ (by decide)
  have hloop : LegibleRow p.loopTrees := by
    refine .append (legible_plain _ (by decide)) (legible_ofGroup ?_)
    exact legible_ofStatements (List.forall_mem_singleton.mpr hitem) (Chain.legible_trees h.dispatch)
  refine legible_ofStatements (fun row hr => ?_) (.append hloop hresult)
  rw [List.mem_append, List.mem_append, List.mem_singleton] at hr
  rcases hr with (hr | rfl) | hr
  · obtain ⟨name, hn, rfl⟩ := List.mem_map.mp hr
    exact legible_import (h.imports name hn)
  · exact legible_record h
  · obtain ⟨total, -, rfl⟩ := List.mem_map.mp hr
    exact legible_counter total

end Program

namespace Constructor

variable {k : Constructor}

structure Spelled (k : Constructor) : Prop where
  visibility : LegibleRow k.visibility
  module : ∀ i, k.module = some i → i.IsSpelled
  name : k.name.IsSpelled
  program : k.program.Spelled

lemma legible_doc (text : String) : LegibleRow (docTrees text) := by
  have hbody : LegibleRow (ofWord "doc" ++ ofSigns ['='] ++ [.literal (.ofString text)]) :=
    .append (legible_plain _ (by decide)) (legible_ofString text)
  exact .append (legible_plain _ (by decide)) (legible_ofGroup hbody)

lemma legible_signature {result : Ident} (h : result.IsSpelled) : LegibleRow (signatureTrees result) := by
  have hresult : LegibleRow (resultTrees result) := by
    simp only [resultTrees, List.append_assoc]
    exact .append (legible_plain _ (by decide)) <| .append (legible_plain _ (by decide)) <|
      .append (legible_ofIdent h) (legible_plain _ (by decide))
  exact .append (.append (legible_plain _ (by decide)) hresult) (legible_plain _ (by decide))

lemma legible_function (h : k.Spelled) {visibility : Row} (hv : LegibleRow visibility) :
    LegibleRow (k.functionTrees visibility) := by
  simp only [functionTrees, List.append_assoc]
  exact .append (legible_doc _) <| .append hv <| .append (legible_plain _ (by decide)) <|
    .append (legible_ofIdent h.name) <| .append (legible_signature h.program.target) <|
    legible_ofGroup (Program.legible_trees h.program)

lemma legible_unit (h : k.Spelled) : LegibleRow k.unitTrees := by
  rw [unitTrees]
  split
  · exact legible_function h h.visibility
  · rename_i module hm
    have hbody : LegibleRow (ofWords ["use", "super"] ++ ofSigns [':', ':'] ++ ofSigns ['*'] ++ ofSigns [';'] ++
        k.functionTrees (ofWord "pub")) :=
      .append (legible_plain _ (by decide)) (legible_function h (legible_plain _ (by decide)))
    simp only [List.append_assoc] at hbody ⊢
    exact .append (legible_doc _) <| .append h.visibility <| .append (legible_plain _ (by decide)) <|
      .append (legible_ofIdent (h.module module hm)) (legible_ofGroup hbody)

lemma legible_impl (h : k.Spelled) : LegibleRow k.implTrees := by
  have hpath : LegibleRow k.pathTrees := by
    rw [pathTrees]
    split
    · exact legible_ofIdent h.name
    · rename_i module hm
      have hmodule : LegibleRow ([.ident module] ++ ofSigns [':', ':']) :=
        .append (legible_ofIdent (h.module module hm)) (legible_plain _ (by decide))
      exact hmodule.append (legible_ofIdent h.name)
  have hself : Ident.IsSpelled ⟨"Self", false⟩ := by decide
  have hcall : LegibleRow (k.pathTrees ++ ofGroup .parenthesis (ofWord "items")) :=
    .append hpath (legible_plain _ (by decide))
  have hbody : LegibleRow (ofWords ["fn", "from_args"] ++ signatureTrees ⟨"Self", false⟩ ++
      ofGroup .brace (k.pathTrees ++ ofGroup .parenthesis (ofWord "items"))) :=
    .append (.append (legible_plain _ (by decide)) (legible_signature hself)) (legible_ofGroup hcall)
  exact .append (.append (legible_plain _ (by decide)) (legible_ofIdent h.program.target)) (legible_ofGroup hbody)

theorem trees?_render (h : k.Spelled) : Source.trees? k.render = some k.trees :=
  trees?_renderAll (.append (legible_unit h) (legible_impl h))

end Constructor

end CommandLine
