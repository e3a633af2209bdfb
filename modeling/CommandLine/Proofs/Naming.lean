import CommandLine.Naming
import CommandLine.Proofs.Label
import CommandLine.Proofs.Source.Ident
import Mathlib.Data.List.Chain

namespace CommandLine

namespace Words

open Text Label

variable {c d x : Char} {cs : List Char} {xs : List Cluster} {name : String}

def Seam (c d : Char) : Prop :=
  c.isAlpha = true ∧ d.isDigit = true ∨ c.isDigit = true ∧ d.isAlpha = true

def IsNameChar (c : Char) : Prop :=
  c.isAlphanum = true ∨ c = '_'

def IsSnakeChar (c : Char) : Prop :=
  c.isLower = true ∨ c.isDigit = true ∨ c = '_'

section Characters

instance (c d : Char) : Decidable (Seam c d) :=
  inferInstanceAs (Decidable (_ ∨ _))

instance (c : Char) : Decidable (IsNameChar c) :=
  inferInstanceAs (Decidable (_ ∨ _))

instance (c : Char) : Decidable (IsSnakeChar c) :=
  inferInstanceAs (Decidable (_ ∨ _))

lemma isAlpha_eq (c : Char) : c.isAlpha = (c.isUpper || c.isLower) := rfl

lemma IsNameChar.ascii (h : IsNameChar c) : c.toNat < 0x80 := by
  rcases h with h | rfl
  · rcases Bool.or_eq_true_iff.mp h with ha | hd
    · exact (Source.Lexer.toNat_of_isAlpha ha).2
    · have hd := Source.Lexer.toNat_of_isDigit hd
      omega
  · decide

lemma IsSnakeChar.isNameChar (h : IsSnakeChar c) : IsNameChar c := by
  rcases h with hl | hd | hu
  · exact .inl (by simp [Char.isAlphanum, isAlpha_eq, hl])
  · exact .inl (by simp [Char.isAlphanum, hd])
  · exact .inr hu

lemma IsNameChar.isSeparator_iff (h : IsNameChar c) : isSeparator c = true ↔ c = '_' :=
  forall_ascii (p := fun c => IsNameChar c → (isSeparator c = true ↔ c = '_')) (by decide +kernel) h.ascii h

lemma IsNameChar.isSnakeChar_toLower (h : IsNameChar c) : IsSnakeChar c.toLower :=
  forall_ascii (p := fun c => IsNameChar c → IsSnakeChar c.toLower) (by decide +kernel) h.ascii h

lemma toLower_eq_underscore_iff (hc : c.toNat < 0x80) : c.toLower = '_' ↔ c = '_' :=
  forall_ascii (p := fun c => c.toLower = '_' ↔ c = '_') (by decide +kernel) hc

lemma IsSnakeChar.toLower (h : IsSnakeChar c) : c.toLower = c :=
  forall_ascii (p := fun c => IsSnakeChar c → c.toLower = c) (by decide +kernel) h.isNameChar.ascii h

lemma IsSnakeChar.isUpper (h : IsSnakeChar c) : c.isUpper = false :=
  forall_ascii (p := fun c => IsSnakeChar c → c.isUpper = false) (by decide +kernel) h.isNameChar.ascii h

lemma classes_toLower (hc : c.toNat < 0x80) : c.toLower.isAlpha = c.isAlpha ∧ c.toLower.isDigit = c.isDigit :=
  forall_ascii (p := fun c => c.toLower.isAlpha = c.isAlpha ∧ c.toLower.isDigit = c.isDigit) (by decide +kernel) hc

lemma seam_toLower (hc : c.toNat < 0x80) (hd : d.toNat < 0x80) (h : Seam c.toLower d.toLower) : Seam c d := by
  rwa [Seam, (classes_toLower hc).1, (classes_toLower hc).2, (classes_toLower hd).1, (classes_toLower hd).2] at h

lemma not_seam_underscore (c : Char) : ¬ Seam '_' c ∧ ¬ Seam c '_' := by
  simp [Seam]

end Characters

section Boundaries

lemma any_drops_allBoundaries (c : Char) : (allBoundaries.any fun b => b.drops [c]) = isSeparator c := by
  simp [allBoundaries, Boundary.drops, isSeparator, Bool.or_assoc]

lemma endsBefore_allBoundaries (hc : c.toNat < 0x80) (hd : d.toNat < 0x80) (xs : List Cluster) :
    endsBefore allBoundaries [c] ([d] :: xs) = true ↔
      c.isLower = true ∧ d.isUpper = true ∨ Seam c d ∨
        c.isUpper = true ∧ d.isUpper = true ∧ xs.head?.any Cluster.isLower = true := by
  simp [endsBefore, allBoundaries, Boundary.cuts, Seam, isAlpha_eq, Cluster.isUpper_singleton hc,
    Cluster.isUpper_singleton hd, Cluster.isLower_singleton hc, Cluster.isLower_singleton hd,
    Cluster.isDigit_singleton]
  tauto

end Boundaries

section Spelling

lemma head?_spell : ∀ x ∈ (spell allBoundaries '_' cs).head?, x = '_' ∨ ∃ d ∈ cs.head?, x = d.toLower := by
  cases cs with
  | nil => simp [spell]
  | cons d cs =>
    rw [spell]
    split_ifs <;> simp

variable (allowed : ∀ c ∈ cs, IsNameChar c)
include allowed

lemma isSnakeChar_of_mem_spell (hx : x ∈ spell allBoundaries '_' cs) : IsSnakeChar x := by
  induction cs with
  | nil => cases hx
  | cons c cs ih =>
    obtain ⟨hc, hcs⟩ := List.forall_mem_cons.mp allowed
    have hunderscore : IsSnakeChar '_' := .inr (.inr rfl)
    rw [spell] at hx
    split_ifs at hx
    · rcases List.mem_cons.mp hx with rfl | hx
      · exact hunderscore
      · exact ih hcs hx
    · rcases List.mem_cons.mp hx with rfl | hx
      · exact hc.isSnakeChar_toLower
      · rcases List.mem_cons.mp hx with rfl | hx
        · exact hunderscore
        · exact ih hcs hx
    · rcases List.mem_cons.mp hx with rfl | hx
      · exact hc.isSnakeChar_toLower
      · exact ih hcs hx

lemma filter_spell : (spell allBoundaries '_' cs).filter (· ≠ '_') = (cs.map Char.toLower).filter (· ≠ '_') := by
  induction cs with
  | nil => rfl
  | cons c cs ih =>
    obtain ⟨hc, hcs⟩ := List.forall_mem_cons.mp allowed
    rw [spell, any_drops_allBoundaries, List.map_cons]
    by_cases hu : c = '_'
    · rw [if_pos (hc.isSeparator_iff.mpr hu), hu, List.filter_cons_of_neg (by simp), ih hcs]
      rfl
    · have hl : c.toLower ≠ '_' := fun h => hu ((toLower_eq_underscore_iff hc.ascii).mp h)
      rw [if_neg fun h => hu (hc.isSeparator_iff.mp h), List.filter_cons_of_pos (by simpa using hl), ← ih hcs]
      split_ifs
      · rw [List.filter_cons_of_pos (by simpa using hl), List.filter_cons_of_neg (by simp)]
      · rw [List.filter_cons_of_pos (by simpa using hl)]

lemma isChain_spell : (spell allBoundaries '_' cs).IsChain fun c d => ¬ Seam c d := by
  induction cs with
  | nil => exact .nil
  | cons c cs ih =>
    obtain ⟨hc, hcs⟩ := List.forall_mem_cons.mp allowed
    have hunderscore : ('_' :: spell allBoundaries '_' cs).IsChain fun c d => ¬ Seam c d :=
      List.isChain_cons.mpr ⟨fun y _ => (not_seam_underscore y).1, ih hcs⟩
    rw [spell]
    split_ifs with hdrop hcut
    · exact hunderscore
    · exact List.isChain_cons_cons.mpr ⟨(not_seam_underscore _).2, hunderscore⟩
    · refine List.isChain_cons.mpr ⟨fun y hy hseam => ?_, ih hcs⟩
      rcases head?_spell y hy with rfl | ⟨d, hd, rfl⟩
      · exact (not_seam_underscore _).2 hseam
      · -- a seam of the small letters would be one of the name, which is cut there
        cases cs with
        | nil => cases hd
        | cons e cs =>
          obtain rfl : e = d := Option.some.inj hd
          have hascii := (hcs e List.mem_cons_self).ascii
          exact hcut ((endsBefore_allBoundaries hc.ascii hascii _).mpr
            (.inr (.inl (seam_toLower hc.ascii hascii hseam))))

end Spelling

lemma spell_of_isSnakeChar (small : ∀ c ∈ cs, IsSnakeChar c) (h : cs.IsChain fun c d => ¬ Seam c d) :
    spell allBoundaries '_' cs = cs := by
  induction cs with
  | nil => rfl
  | cons c cs ih =>
    obtain ⟨hc, hcs⟩ := List.forall_mem_cons.mp small
    obtain ⟨hseam, hchain⟩ := List.isChain_cons.mp h
    have hcut : endsBefore allBoundaries [c] (cs.map fun d => [d]) = false := by
      cases cs with
      | nil => rfl
      | cons d cs =>
        have hd := hcs d List.mem_cons_self
        rw [List.map_cons, ← Bool.not_eq_true, endsBefore_allBoundaries hc.isNameChar.ascii hd.isNameChar.ascii]
        simp [hd.isUpper, hseam d rfl]
    rw [spell, any_drops_allBoundaries, hcut, if_neg Bool.false_ne_true, ih hcs hchain, hc.toLower]
    split_ifs with hs
    · rw [hc.isNameChar.isSeparator_iff.mp hs]
    · rfl

lemma snake_of_isNameChar (h : ∀ c ∈ name.toList, IsNameChar c) :
    snake name = String.ofList (spell allBoundaries '_' name.toList) := by
  have keeps : ∀ b ∈ allBoundaries, b.drops ['\r'] = false ∧ b.drops ['\n'] = false := by decide
  exact join_of_ascii keeps fun c hc => (h c hc).ascii

structure SnakeOf (name s : String) : Prop where
  chars : ∀ c ∈ s.toList, IsSnakeChar c
  kept : s.toList.filter (· ≠ '_') = (name.toList.map Char.toLower).filter (· ≠ '_')
  seams : s.toList.IsChain fun c d => ¬ Seam c d
  stable : snake s = s

lemma snakeOf_snake (h : ∀ c ∈ name.toList, IsNameChar c) : SnakeOf name (snake name) := by
  have hs : (snake name).toList = spell allBoundaries '_' name.toList := by
    rw [snake_of_isNameChar h, String.toList_ofList]
  have hchars : ∀ c ∈ (snake name).toList, IsSnakeChar c := by
    rw [hs]
    exact fun c hc => isSnakeChar_of_mem_spell h hc
  have hseams : (snake name).toList.IsChain fun c d => ¬ Seam c d := hs ▸ isChain_spell h
  refine ⟨hchars, ?_, hseams, ?_⟩
  · rw [hs]
    exact filter_spell h
  · rw [snake_of_isNameChar fun c hc => (hchars c hc).isNameChar, spell_of_isSnakeChar hchars hseams,
      String.ofList_toList]

end Words

namespace Command

open Source Words

variable {c : Command}

lemma isIdentifierContinue_of_isNameChar {x : Char} (h : IsNameChar x) : Text.isIdentifierContinue x = true := by
  rcases h with h | rfl
  · exact Lexer.isWordChar_of_isAlphanum h
  · decide

lemma spanName_new_of_continue (s : String) (h : ∀ x ∈ s.toList, Text.isIdentifierContinue x = true) :
    Ident.spanName ("new_" ++ s).toList = some ("new_" ++ s, []) := by
  have hs : ("new_" ++ s).toList = 'n' :: ("ew_".toList ++ s.toList) := by
    rw [String.toList_append]
    rfl
  have hew : ∀ x ∈ "ew_".toList, Text.isIdentifierContinue x = true := List.all_eq_true.mp (by decide)
  have hcs : ∀ x ∈ "ew_".toList ++ s.toList, Text.isIdentifierContinue x = true := by
    intro x hx
    rcases List.mem_append.mp hx with hx | hx
    · exact hew x hx
    · exact h x hx
  have hspan := Ident.spanName_eq (c := 'n') (by decide) hcs
  rwa [← hs, String.ofList_toList] at hspan

lemma spanName_new (s : String) (h : ∀ x ∈ s.toList, IsNameChar x) :
    Ident.spanName ("new_" ++ s).toList = some ("new_" ++ s, []) :=
  spanName_new_of_continue s fun x hx => isIdentifierContinue_of_isNameChar (h x hx)

lemma isKeyword_new (s : String) : (⟨"new_" ++ s, false⟩ : Ident).isKeyword = false := by
  have hnew : ∀ k ∈ Ident.keywords, ¬ "new_".toList <+: k.toList := by decide +kernel
  have hn : "new_" ++ s ∉ Ident.keywords := by
    intro hk
    apply hnew _ hk
    rw [String.toList_append]
    exact List.prefix_append _ _
  simp [Ident.isKeyword, hn]

theorem constructorName_default (unset : c.constructor = none) (plain : c.ident.raw = false)
    (ascii : ∀ x ∈ c.ident.name.toList, IsNameChar x) :
    SnakeOf c.ident.name (snake c.ident.name) ∧
      c.constructorName = .ok ⟨"new_" ++ snake c.ident.name, false⟩ ∧
      Ident.ofText? ("new_" ++ snake c.ident.name) = some ⟨"new_" ++ snake c.ident.name, false⟩ ∧
      (⟨"new_" ++ snake c.ident.name, false⟩ : Ident).isKeyword = false := by
  have hsnake := snakeOf_snake ascii
  have hspan := spanName_new (snake c.ident.name) fun x hx => (hsnake.chars x hx).isNameChar
  have htext : c.ident.text = c.ident.name := by simp [Ident.text, plain]
  refine ⟨hsnake, ?_, ?_, isKeyword_new _⟩
  · rw [constructorName, unset]
    simp only [plainIdent, Ident.plain?, htext, hspan]
  · rw [Ident.ofText?, Ident.span?]
    · simp only [hspan]
      rfl
    · simp [String.toList_append]

def serving2Ipv4 : Command where
  ident := ⟨"_HTTPServe2Ipv4__X", false⟩

theorem constructorName_serving2Ipv4 : serving2Ipv4.constructor = none ∧
    serving2Ipv4.constructorName = .ok ⟨"new__http_serve_2_ipv_4__x", false⟩ ∧
    snake "_http_serve_2_ipv_4__x" = "_http_serve_2_ipv_4__x" := by
  have ascii : ∀ x ∈ serving2Ipv4.ident.name.toList, IsNameChar x := List.all_iff_forall_prop.mp (by decide +kernel)
  obtain ⟨hsnake, hname, -⟩ := constructorName_default rfl rfl ascii
  have hs : snake serving2Ipv4.ident.name = "_http_serve_2_ipv_4__x" := by decide +kernel
  have hstable := hsnake.stable
  rw [hs] at hname hstable
  exact ⟨rfl, hname, hstable⟩

end Command

end CommandLine
