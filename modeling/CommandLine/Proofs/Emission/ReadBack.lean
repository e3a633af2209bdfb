import CommandLine.Proofs.Constant
import CommandLine.Proofs.Emission.Reading

/-! Every part of a generated constructor is read back from its tokens as it was written. -/

namespace CommandLine

open Source Source.Row

open Reading

namespace Mark

lemma reads_constant (m : Mark) : Reads readConstant m.constantTrees m := by
  cases m with
  | long => exact (reads_word _).bind <| (reads_operator _).bind <| reads_choose_cons (.pure _)
  | short =>
    exact (reads_word _).bind <| (reads_operator _).bind <| reads_choose_of_ne (by decide) <|
      reads_choose_cons (.pure _)

lemma reads_guard (m : Mark) : Reads read m.guardTrees m := by
  simp only [guardTrees, List.append_assoc]
  exact (reads_word _).bind <| (reads_path _).bind <| (reads_within (reads_word _)).bind <|
    (reads_operator _).bind <| (reads_word _).bind <| (reads_operator _).bind <| (reads_word _).bind <|
    reads_within m.reads_constant

end Mark

namespace Operand

lemma reads_trees (o : Operand) : Reads read o.trees o := by
  cases o with
  | item => exact reads_choose_cons (.pure _)
  | value => exact reads_choose_of_ne (by decide) <| reads_choose_cons (.pure _)
  | unescaped =>
    exact reads_choose_of_ne (by decide) <| reads_choose_of_ne (by decide) <| reads_choose_cons <|
      (reads_path _).bind <| (reads_within (reads_word _)).finish rfl

end Operand

namespace Refusal

lemma reads_keyAndItem : Reads readKeyAndItem (ofGroup .parenthesis keyAndItem) () := by
  simp only [keyAndItem, List.append_assoc]
  exact reads_within <| (reads_word _).bind <| (reads_operator _).bind <| reads_word _

lemma reads_trees (r : Refusal) : Reads read r.trees r := by
  cases r with
  | unknown mark =>
    cases mark with
    | long =>
      exact (reads_word _).bind <| (reads_operator _).bind <| reads_choose_cons <| reads_keyAndItem.finish rfl
    | short =>
      exact (reads_word _).bind <| (reads_operator _).bind <| reads_choose_of_ne (by decide) <| reads_choose_cons <|
        reads_keyAndItem.finish rfl
  | missingValue =>
    exact (reads_word _).bind <| (reads_operator _).bind <| reads_choose_of_ne (by decide) <|
      reads_choose_of_ne (by decide) <| reads_choose_cons <| reads_keyAndItem.finish rfl
  | unexpected text =>
    exact (reads_word _).bind <| (reads_operator _).bind <| reads_choose_of_ne (by decide) <|
      reads_choose_of_ne (by decide) <| reads_choose_of_ne (by decide) <| reads_choose_cons <|
      (reads_within text.reads_trees).finish rfl

lemma reads_returnTrees (r : Refusal) : Reads readReturn r.returnTrees r := by
  simp only [returnTrees, List.append_assoc]
  exact (reads_word _).bind <| (reads_path _).bind <| reads_within r.reads_trees

end Refusal

namespace Conversion

lemma reads_typeArgument (name : String) : Reads readTypeArgument (typeArgument name) ⟨name, false⟩ := by
  simp only [typeArgument, List.append_assoc]
  exact (reads_operator _).bind <| (reads_operator _).bind <| (reads_ident _).bind <|
    (reads_operator _).finish rfl

lemma reads_kind {name : String} {k : Kind} (h : Kind.ofName? name = some k) :
    Reads readKind (typeArgument name) k := by
  rw [← List.append_nil (typeArgument name)]
  exact (reads_typeArgument name).bind (.lift h)

lemma reads_function (c : Conversion) : Reads readFunction c.functionTrees c := by
  cases c with
  | copy => exact .left <| (reads_path _).finish rfl
  | integer t =>
    exact .right (fun _ => rfl) <| (reads_word _).bind <| (reads_operator _).bind <| reads_choose_cons <|
      (reads_kind t.ofName?_name).finish rfl
  | float w =>
    exact .right (fun _ => rfl) <| (reads_word _).bind <| (reads_operator _).bind <|
      reads_choose_of_ne (by decide) <| reads_choose_cons <| (reads_kind w.ofName?_name).finish rfl
  | boolean =>
    exact .right (fun _ => rfl) <| (reads_word _).bind <| (reads_operator _).bind <|
      reads_choose_of_ne (by decide) <| reads_choose_of_ne (by decide) <| reads_choose_cons (.pure _)

end Conversion

lemma Assignment.reads_trees (a : Assignment) (text : Operand) :
    Reads Statement.readAssignment (ofSigns ['.'] ++ ([.ident a.field] ++ (ofSigns ['='] ++
      (a.conversion.functionTrees ++ (ofGroup .parenthesis text.trees ++ a.conversion.questionTrees)))))
      (.assign a text) := by
  refine (reads_operator _).bind <| (reads_ident _).bind <| (reads_operator _).bind <|
    a.conversion.reads_function.bind <| (reads_within text.reads_trees).bind ?_
  obtain ⟨field, conversion⟩ := a
  cases conversion with
  | copy => exact .pure _
  | _ => exact (reads_operator _).finish rfl

namespace Statement

lemma reads_trees (s : Statement) : Reads read s.trees s := by
  cases s with
  | splitOption =>
    have hpair : Reads (do word "key"; operator [',']; word "value")
        (ofWord "key" ++ (ofSigns [','] ++ ofWord "value")) () :=
      (reads_word _).bind <| (reads_operator _).bind <| reads_word _
    simp only [trees, List.append_assoc]
    exact reads_choose_cons <| .left <| (reads_within hpair).bind <| (reads_operator _).bind <| (reads_word _).bind <|
      (reads_path _).bind <| (reads_within (reads_word _)).finish rfl
  | bindItem text =>
    exact reads_choose_cons <| .right (fun _ => rfl) <| reads_choose_cons <| (reads_operator _).bind <|
      text.reads_trees.finish rfl
  | requireValue otherwise =>
    have herror : Reads (do operator ['|', '|']; Refusal.read) (ofSigns ['|', '|'] ++ otherwise.trees) otherwise :=
      (reads_operator _).bind otherwise.reads_trees
    simp only [trees, List.append_assoc]
    exact reads_choose_cons <| .right (fun _ => rfl) <| reads_choose_of_ne (by decide) <| reads_choose_cons <|
      (reads_operator _).bind <| (reads_word _).bind <| (reads_operator _).bind <| (reads_word _).bind <|
      (reads_within herror).bind <| (reads_operator _).finish rfl
  | assign a text =>
    simp only [trees, Assignment.trees, List.append_assoc]
    exact reads_choose_of_ne (by decide) <| reads_choose_cons <| a.reads_trees text
  | countDown =>
    have hone : (⟨"1"⟩ : Literal).count? = some 1 := by decide
    simp only [trees, List.append_assoc]
    exact reads_choose_of_ne (by decide) <| reads_choose_of_ne (by decide) <| reads_choose_cons <|
      (reads_operator _).bind <| (reads_literal _).bind <| (reads_guard hone).finish rfl
  | refuse r =>
    simp only [trees, Refusal.returnTrees, List.append_assoc]
    exact reads_choose_of_ne (by decide) <| reads_choose_of_ne (by decide) <| reads_choose_of_ne (by decide) <|
      reads_choose_cons <| (reads_path _).bind <| (reads_within r.reads_trees).finish rfl

lemma lacks_trees (s : Statement) : s.trees.Lacks (Tree.isSign ';') := by
  cases s with
  | splitOption => simp [trees, ofLocalPath, lacks_ofPath, ofSigns, Tree.isSign]
  | bindItem text =>
    cases text <;> simp [trees, Operand.trees, ofWords, ofLocalPath, lacks_ofPath, ofSigns, Tree.isSign]
  | requireValue otherwise => simp [trees, ofWords, ofSigns, Tree.isSign]
  | assign a text =>
    obtain ⟨field, conversion⟩ := a
    cases conversion <;> simp [trees, Assignment.trees, Conversion.functionTrees, Conversion.typeArgument,
      Conversion.questionTrees, ofLocalPath, lacks_ofPath, ofSigns, Tree.isSign]
  | countDown => simp [trees, ofSigns, Tree.isSign]
  | refuse r => simp [trees, Refusal.returnTrees, lacks_ofPath]

lemma readAll?_trees (body : List Statement) : readAll? (body.map trees) = some body :=
  mapM_map_eq (fun s => s.reads_trees.whole) body

end Statement

namespace Source

lemma Literal.count?_ofNat (n : ℕ) : (⟨toString n⟩ : Literal).count? = some n := by
  have hdigits : (Nat.toDigits 10 n).all Char.isDigit = true :=
    List.all_eq_true.mpr fun c hc => Nat.isDigit_of_mem_toDigits (by decide) le_rfl hc
  rw [Literal.count?, Nat.toString_eq_ofList_toDigits, String.toList_ofList, if_pos hdigits,
    Decimal.digitsValue_toDigits]

end Source

namespace Arm

variable {π : Type} {pattern? : Literal → Option π} {literal : π → Literal}

def row (literal : π → Literal) (a : Arm π) : Literal × Row :=
  (literal a.pattern, Row.ofStatements (a.body.map Statement.trees) [])

lemma spanArms_trees (literal : π → Literal) (arms : List (Arm π)) {rest : Row} (h : rest.spanArms = ([], rest)) :
    spanArms (arms.flatMap (trees fun p => [.literal (literal p)]) ++ rest) = (arms.map (row literal), rest) := by
  induction arms with
  | nil => exact h
  | cons a arms ih =>
    have ha : spanArms ((a :: arms).flatMap (trees fun p => [.literal (literal p)]) ++ rest) =
        (a.row literal :: (spanArms (arms.flatMap (trees fun p => [.literal (literal p)]) ++ rest)).1,
          (spanArms (arms.flatMap (trees fun p => [.literal (literal p)]) ++ rest)).2) := rfl
    rw [ha, ih]
    rfl

lemma read?_row (h : ∀ p, pattern? (literal p) = some p) (a : Arm π) : read? pattern? (a.row literal) = some a := by
  have hs : ∀ r ∈ a.body.map Statement.trees, r.Lacks (Tree.isSign ';') := by
    intro r hr
    obtain ⟨s, -, rfl⟩ := List.mem_map.mp hr
    exact s.lacks_trees
  rw [read?, row, h]
  simp only [statements_ofStatements hs (lacks_nil _), Statement.readAll?_trees]
  rfl

lemma readAll?_map_row (h : ∀ p, pattern? (literal p) = some p) (arms : List (Arm π)) :
    readAll? pattern? (arms.map (row literal)) = some arms :=
  mapM_map_eq (read?_row h) arms

end Arm

namespace Selection

variable {π : Type} {pattern? : Literal → Option π} {literal : π → Literal}

lemma reads_default (h : ∀ p, pattern? (literal p) = some p) (arms : List (Arm π)) (otherwise : Refusal) :
    Reads (do
      word "_"
      operator ['=', '>']
      let otherwise ← Refusal.readReturn
      operator [',']
      return (← Arm.readAll? pattern? (arms.map (Arm.row literal)), otherwise))
      (defaultTrees otherwise) (arms, otherwise) := by
  simp only [defaultTrees, List.append_assoc, Arm.readAll?_map_row h]
  exact (reads_word _).bind <| (reads_operator _).bind <| otherwise.reads_returnTrees.bind <|
    (reads_operator _).finish rfl

lemma reads_arms (h : ∀ p, pattern? (literal p) = some p) (arms : List (Arm π)) (otherwise : Refusal) :
    Reads (readArms pattern?)
      (arms.flatMap (Arm.trees fun p => [.literal (literal p)]) ++ defaultTrees otherwise) (arms, otherwise) := by
  intro ts
  -- the arms go on up to the word of the default
  have hspan : spanArms (arms.flatMap (Arm.trees fun p => [.literal (literal p)]) ++
      (defaultTrees otherwise ++ ts)) = (arms.map (Arm.row literal), defaultTrees otherwise ++ ts) :=
    Arm.spanArms_trees literal arms rfl
  have hdefault := reads_default h arms otherwise ts
  rw [List.append_assoc, readArms, StateT.run_bind]
  change (some (spanArms _) >>= _) = _
  rw [hspan]
  exact hdefault

lemma read?_trees (s : Selection) : read? s.trees = some s := by
  cases s with
  | done => rfl
  | key arms otherwise =>
    refine @Reads.whole _ _ (matchTrees _ _ _ _) _ <| (reads_word _).bind <| reads_choose_cons ?_
    exact (reads_within (reads_arms (fun _ => rfl) arms otherwise)).finish rfl
  | count arms otherwise =>
    refine @Reads.whole _ _ (matchTrees _ _ _ _) _ <| (reads_word _).bind <| reads_choose_of_ne (by decide) <|
      reads_choose_cons ?_
    exact (reads_within (reads_arms Literal.count?_ofNat arms otherwise)).finish rfl

lemma lacks_trees (s : Selection) : s.trees.Lacks (Tree.isSign ';') := by
  cases s <;> simp [trees, matchTrees, ofWords]

end Selection

namespace Block

lemma read?_trees (b : Block) : read? b.trees = some b := by
  have hs : ∀ r ∈ b.statements.map Statement.trees, r.Lacks (Tree.isSign ';') := by
    intro r hr
    obtain ⟨s, -, rfl⟩ := List.mem_map.mp hr
    exact s.lacks_trees
  rw [read?, trees]
  simp only [statements_ofStatements hs b.selection.lacks_trees, Statement.readAll?_trees, Selection.read?_trees]
  rfl

end Block

namespace Chain

variable {c : Chain Mark Block}

def parts (c : Chain Mark Block) : List (Option Mark × Block) :=
  c.branches.map (fun b => (some b.1, b.2)) ++ c.fallback.toList.map fun b => (none, b)

def partTrees : Option Mark × Block → Row
  | (some m, b) => ofWord "if" ++ m.guardTrees ++ ofGroup .brace b.trees
  | (none, b) => ofGroup .brace b.trees

lemma trees_eq (c : Chain Mark Block) :
    c.trees Mark.guardTrees Block.trees = separated (.ident ⟨"else", false⟩) (c.parts.map partTrees) := by
  simp [trees, parts, Function.comp_def, partTrees]

lemma reads_block (b : Block) : Reads readBlock (ofGroup .brace b.trees) b := by
  rw [← List.append_nil (ofGroup _ _)]
  exact (reads_group _ _).bind (.lift b.read?_trees)

lemma reads_part (p : Option Mark × Block) : Reads readPart (partTrees p) p := by
  obtain ⟨_ | m, b⟩ := p
  · exact .right (fun _ => rfl) <| (reads_block b).finish rfl
  · simp only [partTrees, List.append_assoc]
    exact .left <| (reads_word _).bind <| m.reads_guard.bind <| (reads_block b).finish rfl

lemma lacks_part (p : Option Mark × Block) : (partTrees p).Lacks (Tree.isWord "else") := by
  obtain ⟨_ | m, b⟩ := p
  · simp [partTrees, ofGroup, Tree.isWord]
  · cases m <;> simp [partTrees, Mark.guardTrees, ofGroup, ofWord, ofPath, ofSigns, Tree.isWord]

lemma partTrees_ne_nil (p : Option Mark × Block) : partTrees p ≠ [] := by
  obtain ⟨_ | m, b⟩ := p <;> simp [partTrees, ofGroup]

lemma ofParts?_parts (c : Chain Mark Block) : ofParts? c.parts = some c := by
  obtain ⟨branches, fallback⟩ := c
  induction branches with
  | nil => cases fallback <;> rfl
  | cons b branches ih =>
    rw [parts] at ih ⊢
    rw [List.map_cons, List.cons_append, ofParts?, ih]
    rfl

lemma read?_trees (c : Chain Mark Block) : read? (c.trees Mark.guardTrees Block.trees) = some c := by
  have hparts : ∀ row ∈ c.parts.map partTrees, row.Lacks (Tree.isWord "else") ∧ row ≠ [] := by
    intro row hr
    obtain ⟨p, -, rfl⟩ := List.mem_map.mp hr
    exact ⟨lacks_part p, partTrees_ne_nil p⟩
  have helse : Tree.isWord "else" (.ident ⟨"else", false⟩) = true := rfl
  rw [read?, trees_eq, parts_separated helse (fun row hr => (hparts row hr).1) fun row hr => (hparts row hr).2,
    mapM_map_eq fun p => (reads_part p).whole]
  exact c.ofParts?_parts

end Chain

namespace Initializer

lemma number?_integer {digits : String} (h : Lexer.PlainDecimal digits.toList) (negative : Bool) (t : IntegerType) :
    number? negative ⟨digits ++ t.name⟩ = some (.integer negative digits t) := by
  obtain ⟨hbody, hsuffix⟩ := span_number h t.suffix_name
  simp only [number?, String.toList_append, hbody, hsuffix, String.ofList_toList, t.ofName?_name]

lemma number?_float {digits : String} (h : Lexer.PlainDecimal digits.toList) (negative : Bool) (w : FloatWidth) :
    number? negative ⟨digits ++ w.name⟩ = some (.float negative digits w) := by
  obtain ⟨hbody, hsuffix⟩ := span_number h w.suffix_name
  simp only [number?, String.toList_append, hbody, hsuffix, String.ofList_toList, w.ofName?_name]

lemma reads_number {i : Initializer} {negative : Bool} {text : String} (h : number? negative ⟨text⟩ = some i) :
    Reads read (ofNumber negative text) i := by
  have hnumber : Reads (do number? negative (← literal)) [.literal ⟨text⟩] i := by
    rw [← List.append_nil [Tree.literal _]]
    exact (reads_literal _).bind (.lift h)
  cases negative with
  | true =>
    exact .right (fun _ => rfl) <| .right (fun _ => rfl) <| .left <| (reads_operator ['-']).bind hnumber
  | false => exact .right (fun _ => rfl) <| .right (fun _ => rfl) <| .right (fun _ => rfl) hnumber

lemma reads_trees {i : Initializer} (h : i.Written) : Reads read i.trees i := by
  cases i with
  | unset =>
    exact .left <| (reads_operator _).bind <| reads_choose_cons <| (reads_path _).bind <| reads_within (.pure _)
  | text l =>
    exact .left <| (reads_operator _).bind <| reads_choose_of_ne (by decide) <| reads_choose_cons <|
      (reads_path _).bind <| (reads_within (reads_literal l)).finish rfl
  | integer negative digits t => exact reads_number (number?_integer h negative t)
  | float negative digits w => exact reads_number (number?_float h negative w)
  | boolean b =>
    cases b with
    | true => exact .right (fun _ => rfl) <| .left <| reads_choose_cons (.pure _)
    | false => exact .right (fun _ => rfl) <| .left <| reads_choose_of_ne (by decide) <| reads_choose_cons (.pure _)

lemma lacks_trees (i : Initializer) : i.trees.Lacks (Tree.isSign ',') := by
  cases i with
  | unset => simp [trees, lacks_ofPath]
  | text l => simp [trees, lacks_ofPath]
  | integer negative digits t => cases negative <;> simp [trees, ofNumber, Tree.isSign]
  | float negative digits w => cases negative <;> simp [trees, ofNumber, Tree.isSign]
  | boolean b => simp [trees]

end Initializer

namespace FieldInit

def declared (f : FieldInit) : Ident × Kind :=
  (f.field, f.kind)

lemma reads_trees {f : FieldInit} (h : f.initializer.Written) : Reads (read f.declared) f.trees f := by
  simp only [trees, List.append_assoc]
  exact (reads_same _).bind <| (reads_operator _).bind <| (Initializer.reads_trees h).finish rfl

lemma readAll?_trees {fields : List FieldInit} (h : ∀ f ∈ fields, f.initializer.Written) :
    readAll? (fields.map declared) (fields.map trees) = some fields := by
  induction fields with
  | nil => rfl
  | cons f fields ih =>
    obtain ⟨hf, hfields⟩ := List.forall_mem_cons.mp h
    rw [List.map_cons, List.map_cons, readAll?, (reads_trees hf).whole, ih hfields]
    rfl

lemma lacks_trees (f : FieldInit) : f.trees.Lacks (Tree.isSign ',') := by
  simp [trees, ofSigns, Tree.isSign, f.initializer.lacks_trees]

end FieldInit

namespace Program

variable {p : Program}

lemma reads_import (name : String) : Reads readImport (importTrees name) name := by
  have hpath : importTrees name = ofWord "use" ++ (ofPath ["clitag"] ++ (ofSigns [':', ':'] ++ ofWord name)) := rfl
  rw [hpath]
  exact (reads_word _).bind <| (reads_path _).bind <| (reads_operator _).bind <| (reads_ident _).finish rfl

lemma spanImports_map (imports : List String) {rows : List Row}
    (h : ∀ row, rows.head? = some row → whole readImport row = none) :
    spanImports (imports.map importTrees ++ rows) = (imports, rows) := by
  induction imports with
  | nil =>
    cases rows with
    | nil => rfl
    | cons row rows => rw [List.map_nil, List.nil_append, spanImports, h row rfl]
  | cons name imports ih =>
    rw [List.map_cons, List.cons_append, spanImports, (reads_import name).whole]
    simp only [ih]

lemma lacks_import (name : String) : (importTrees name).Lacks (Tree.isSign ';') := by
  simp [importTrees, lacks_ofPath]

lemma reads_record (h : ∀ f ∈ p.fields, f.initializer.Written) :
    Reads (readRecord (p.fields.map FieldInit.declared)) p.recordTrees (p.target, p.fields) := by
  have hallow : Reads (do word "allow"; within .parenthesis (word "unused_mut"))
      (ofWord "allow" ++ ofGroup .parenthesis (ofWord "unused_mut")) () :=
    (reads_word _).bind (reads_within (reads_word _))
  have hparts : (separated (.punct ',' false) (p.fields.map FieldInit.trees)).parts (Tree.isSign ',') =
      p.fields.map FieldInit.trees := by
    refine parts_separated rfl ?_ ?_
    all_goals
      intro row hr
      obtain ⟨f, -, rfl⟩ := List.mem_map.mp hr
    · exact f.lacks_trees
    · simp [FieldInit.trees]
  simp only [recordTrees, List.append_assoc]
  refine (reads_operator _).bind <| (reads_within hallow).bind <| (reads_words _).bind <| (reads_operator _).bind <|
    (reads_ident _).bind <| (reads_group _ _).finish ?_
  rw [hparts, FieldInit.readAll?_trees h]
  rfl

lemma reads_counter (total : ℕ) : Reads readCounter (counterTrees total) total := by
  have hliteral : Reads (do (← literal).count?) [.literal ⟨toString total⟩] total := by
    rw [← List.append_nil [Tree.literal _]]
    exact (reads_literal _).bind (.lift (Literal.count?_ofNat total))
  simp only [counterTrees, List.append_assoc]
  exact (reads_words _).bind <| (reads_operator _).bind <| (reads_word _).bind <| (reads_operator _).bind hliteral

lemma reads_item : Reads readItem itemTrees () := by
  have hitem : Reads (do operator ['&']; word "item") (ofSigns ['&'] ++ ofWord "item") () :=
    (reads_operator _).bind (reads_word _)
  simp only [itemTrees, List.append_assoc]
  exact (reads_words _).bind <| (reads_operator _).bind <| (reads_operator _).bind <| (reads_word _).bind <|
    (reads_operator _).bind <| (reads_path _).bind <| (Conversion.reads_typeArgument _).bind <|
    (reads_guard rfl).skip <| (reads_path _).bind <| reads_within hitem

lemma reads_loop (p : Program) : Reads readLoop (p.loopTrees ++ resultTrees) p.dispatch := by
  have hitem : ∀ row ∈ [itemTrees], row.Lacks (Tree.isSign ';') := by
    simp [itemTrees, ofWords, lacks_ofPath, Conversion.typeArgument, ofSigns, Tree.isSign]
  have hchain : (p.dispatch.trees Mark.guardTrees Block.trees).Lacks (Tree.isSign ';') := by
    rw [Chain.trees_eq]
    refine lacks_separated rfl fun row hr => ?_
    obtain ⟨⟨_ | m, b⟩, -, rfl⟩ := List.mem_map.mp hr
    · simp [Chain.partTrees]
    · cases m <;> simp [Chain.partTrees, Mark.guardTrees, lacks_ofPath, ofSigns, Tree.isSign]
  simp only [loopTrees, resultTrees, List.append_assoc]
  refine (reads_words _).bind <| (reads_group _ _).bind ?_
  simp only [statements_ofStatements hitem hchain]
  exact (Reads.lift reads_item.whole).skip <| (Reads.lift p.dispatch.read?_trees).skip <| (reads_path _).bind <|
    (reads_within (reads_word _)).finish rfl

lemma lacks_statements (p : Program) :
    ∀ row ∈ p.imports.map importTrees ++ [p.recordTrees] ++ p.counter.toList.map counterTrees,
      row.Lacks (Tree.isSign ';') := by
  intro row hr
  rw [List.mem_append, List.mem_append, List.mem_singleton] at hr
  rcases hr with (hr | rfl) | hr
  · obtain ⟨name, -, rfl⟩ := List.mem_map.mp hr
    exact lacks_import name
  · simp [recordTrees, ofWords, ofSigns, Tree.isSign]
  · obtain ⟨total, -, rfl⟩ := List.mem_map.mp hr
    simp [counterTrees, ofWords, ofSigns, Tree.isSign]

lemma read?_trees (h : ∀ f ∈ p.fields, f.initializer.Written) :
    read? (p.fields.map FieldInit.declared) p.trees = some p := by
  have hlast : (p.loopTrees ++ resultTrees).Lacks (Tree.isSign ';') := by
    simp [loopTrees, resultTrees, ofWords, lacks_ofPath]
  have hrecord : ∀ row, (p.recordTrees :: p.counter.toList.map counterTrees).head? = some row →
      whole readImport row = none := by
    rintro row hr
    obtain rfl := Option.some.inj hr
    rfl
  have hspan : spanImports (p.imports.map importTrees ++ p.recordTrees :: p.counter.toList.map counterTrees) =
      (p.imports, p.recordTrees :: p.counter.toList.map counterTrees) := spanImports_map p.imports hrecord
  have hrows := statements_ofStatements p.lacks_statements hlast
  rw [List.append_assoc, List.singleton_append] at hrows
  have hcounter : readCounter? (p.counter.toList.map counterTrees) = some p.counter := by
    cases p.counter with
    | none => rfl
    | some total => exact congrArg (Option.map some) (reads_counter total).whole
  rw [read?, trees, List.append_assoc, List.singleton_append]
  simp only [hrows, hspan, (reads_record h).whole, hcounter, (reads_loop p).whole]
  rfl

end Program

namespace Constructor

variable {k : Constructor} {declared : List (Ident × Kind)}

inductive Visibility : Row → Prop
  | none : Visibility []
  | plain : Visibility (ofWord "pub")
  | restricted (scope : Row) : Visibility (ofWord "pub" ++ ofGroup .parenthesis scope)

lemma reads_doc (text : String) : Reads readDoc (docTrees text) (.ofString text) := by
  have hbody : Reads (do word "doc"; operator ['=']; literal)
      (ofWord "doc" ++ (ofSigns ['='] ++ [.literal (.ofString text)])) (.ofString text) :=
    (reads_word _).bind <| (reads_operator _).bind (reads_literal _)
  simp only [docTrees, List.append_assoc]
  exact (reads_operator _).bind (reads_within hbody)

lemma run_visibility {visibility ts : Row} {text : String} (h : Visibility visibility) (hn : text ≠ "pub") :
    readVisibility.run (visibility ++ (ofWord text ++ ts)) = some (visibility, ofWord text ++ ts) := by
  -- where there is no visibility, the word behind it must not be taken for one
  cases h with
  | none => exact (refuses_word hn).bind.run_orElse ts
  | plain => rfl
  | restricted scope => rfl

lemma reads_visibility {α : Type} {f : Row → Reading α} {visibility rest : Row} {text : String} {a : α}
    (h : Visibility visibility) (hn : text ≠ "pub") (hf : Reads (f visibility) (ofWord text ++ rest) a) :
    Reads (readVisibility >>= f) (visibility ++ (ofWord text ++ rest)) a := by
  intro ts
  rw [StateT.run_bind, List.append_assoc, List.append_assoc, run_visibility h hn, ← List.append_assoc]
  exact hf ts

lemma reads_result (result : Ident) : Reads readResult (resultTrees result) result := by
  simp only [resultTrees, List.append_assoc]
  exact (reads_path _).bind <| (reads_operator _).bind <| (reads_ident _).bind <| (reads_operator _).bind <|
    (reads_path _).bind <| (reads_operator _).finish rfl

lemma reads_bounds : Reads readBounds boundTrees () := by
  simp only [boundTrees, ofLocalPath, List.append_assoc]
  exact (reads_words _).bind <| (reads_operator _).bind <| (reads_path _).bind <| (reads_operator _).bind <|
    (reads_word _).bind <| (reads_path _).bind <| (reads_operator _).bind <| (reads_path _).bind <|
    (reads_operator _).bind <| (reads_word _).bind <| (reads_operator _).bind <| reads_operator _

lemma reads_signature (result : Ident) : Reads readSignature (signatureTrees result) result := by
  have hparameter : Reads (do word "items"; operator [':']; word "I")
      (ofWord "items" ++ (ofSigns [':'] ++ ofWord "I")) () :=
    (reads_word _).bind <| (reads_operator _).bind (reads_word _)
  simp only [signatureTrees, List.append_assoc]
  exact (reads_operator _).bind <| (reads_word _).bind <| (reads_operator _).bind <|
    (reads_within hparameter).bind <| (reads_operator _).bind <| (reads_result result).bind <| reads_bounds.finish rfl

lemma reads_function (name : Ident) {p : Program} (h : ∀ f ∈ p.fields, f.initializer.Written) :
    Reads (readFunction (p.fields.map FieldInit.declared))
      ([.ident name] ++ (signatureTrees p.target ++ ofGroup .brace p.trees)) (name, p) := by
  rw [← List.append_nil (ofGroup _ _)]
  exact (reads_ident _).bind <| (reads_signature _).bind <| (reads_group _ _).bind <|
    (Reads.lift (Program.read?_trees h)).skip <| (reads_guard rfl).skip <| .pure _

lemma reads_unit (hv : Visibility k.visibility) (h : ∀ f ∈ k.program.fields, f.initializer.Written) :
    Reads (readUnit (k.program.fields.map FieldInit.declared)) k.unitTrees k := by
  obtain ⟨visibility, _ | module, name, program⟩ := k
  · simp only [unitTrees, functionTrees, List.append_assoc]
    exact (reads_doc _).bind <| reads_visibility hv (by decide) <| reads_choose_cons <|
      (reads_function name h).finish rfl
  · have hbody : Reads (do
        words ["use", "super"]
        operator [':', ':']
        operator ['*']
        operator [';']
        let _ ← readDoc
        word "pub"
        word "fn"
        readFunction (program.fields.map FieldInit.declared))
        (ofWords ["use", "super"] ++ (ofSigns [':', ':'] ++ (ofSigns ['*'] ++ (ofSigns [';'] ++
          functionTrees ⟨visibility, some module, name, program⟩ (ofWord "pub"))))) (name, program) := by
      simp only [functionTrees, List.append_assoc]
      exact (reads_words _).bind <| (reads_operator _).bind <| (reads_operator _).bind <| (reads_operator _).bind <|
        (reads_doc _).bind <| (reads_word _).bind <| (reads_word _).bind <| reads_function name h
    simp only [unitTrees, List.append_assoc]
    exact (reads_doc _).bind <| reads_visibility hv (by decide) <| reads_choose_of_ne (by decide) <|
      reads_choose_cons <| (reads_ident _).bind <| (reads_within hbody).finish rfl

lemma reads_call (k : Constructor) :
    Reads (readCall k) (k.pathTrees ++ ofGroup .parenthesis (ofWord "items")) () := by
  obtain ⟨visibility, _ | module, name, program⟩ := k
  · exact (reads_same _).bind <| reads_within (reads_word _)
  · exact (reads_same _).bind <| (reads_operator _).bind <| (reads_same _).bind <| reads_within (reads_word _)

lemma reads_impl (k : Constructor) : Reads (readImpl k) k.implTrees () := by
  have hbody : Reads (do
      words ["fn", "from_args"]
      guard ((← readSignature) = ⟨"Self", false⟩)
      within .brace (readCall k))
      (ofWords ["fn", "from_args"] ++ (signatureTrees ⟨"Self", false⟩ ++
        ofGroup .brace (k.pathTrees ++ ofGroup .parenthesis (ofWord "items")))) () :=
    (reads_words _).bind <| (reads_signature _).bind <| (reads_guard rfl).skip <| reads_within k.reads_call
  simp only [implTrees, List.append_assoc] at hbody ⊢
  exact (reads_word _).bind <| (reads_path _).bind <| (reads_word _).bind <| (reads_same _).bind <|
    reads_within hbody

theorem read?_trees (hv : Visibility k.visibility) (h : ∀ f ∈ k.program.fields, f.initializer.Written) :
    read? (k.program.fields.map FieldInit.declared) k.trees = some k :=
  ((reads_unit hv h).bind <| k.reads_impl.finish (b := k) rfl).whole

end Constructor

end CommandLine
