import CommandLine.Proofs.Source.Lexer
import CommandLine.Source.Token

/-! Token trees that can be read from their text. -/

namespace CommandLine.Source

namespace Delimiter

variable {d : Delimiter} {c : Char} {s : String} {text rest cs : List Char} {ls : List Lexeme}

def opener : Delimiter → Char
  | parenthesis => '('
  | bracket => '['
  | brace => '\x7b'

def closer : Delimiter → Char
  | parenthesis => ')'
  | bracket => ']'
  | brace => '\x7d'

def pad : Delimiter → List Char
  | brace => [' ']
  | _ => []

lemma heads_opener (d : Delimiter) : Lexer.Heads d.opener := by
  cases d <;> exact ⟨by decide, by decide, by decide⟩

lemma heads_closer (d : Delimiter) : Lexer.Heads d.closer := by
  cases d <;> exact ⟨by decide, by decide, by decide⟩

lemma ends_closer (d : Delimiter) (rest : List Char) : Lexer.Ends (d.pad ++ d.closer :: rest) := by
  intro c hc
  cases d <;> obtain rfl := Option.some.inj hc <;> decide

lemma toList_enclose_empty (d : Delimiter) : (Tree.enclose d "").toList = d.opener :: (d.pad ++ [d.closer]) := by
  cases d <;> rfl

lemma toList_enclose (hs : s ≠ "") :
    (Tree.enclose d s).toList = d.opener :: (d.pad ++ (s.toList ++ (d.pad ++ [d.closer]))) := by
  cases d <;> simp [Tree.enclose, hs, opener, closer, pad]

lemma exists_enclose_eq_opener (d : Delimiter) (s : String) : ∃ cs, (Tree.enclose d s).toList = d.opener :: cs := by
  by_cases hs : s = ""
  · exact ⟨_, hs ▸ toList_enclose_empty d⟩
  · exact ⟨_, toList_enclose hs⟩

lemma gives_opener (h : text.head? ≠ some '/') : Lexer.Gives (d.opener :: text) [.opening d] text := by
  refine Lexer.gives_of_next? d.heads_opener ?_ le_rfl
  cases d with
  | parenthesis =>
    -- an error token has a comment behind its bracket
    have hm : Lexer.errorMark.isPrefixOf ('(' :: text) = false := by
      cases text with
      | nil => rfl
      | cons c cs =>
        have hc : c ≠ '/' := fun hc => h (by simp [hc])
        have he : Lexer.errorMark = '(' :: '/' :: "*ERROR*/)".toList := rfl
        simp [he, List.isPrefixOf, hc.symm]
    rw [opener, Lexer.next?, hm]
    rfl
  | bracket => rfl
  | brace => rfl

lemma gives_closer : Lexer.Gives (d.closer :: rest) [.closing d] rest := by
  refine Lexer.gives_of_next? d.heads_closer ?_ le_rfl
  cases d <;> rfl

lemma lexemes_pad (d : Delimiter) (h : Lexer.Gives text ls rest) :
    Lexer.lexemes (d.pad ++ text) = (Lexer.lexemes rest).map (ls ++ ·) := by
  cases d with
  | brace => exact h.2
  | _ => exact h.1

lemma gives_enclose_empty : Lexer.Gives ((Tree.enclose d "").toList ++ rest) [.opening d, .closing d] rest := by
  rw [toList_enclose_empty, List.cons_append, List.append_assoc]
  refine (gives_opener ?_).trans (lexemes_pad d gives_closer)
  cases d <;> simp [pad, closer]

lemma gives_enclose (hs : s.toList = c :: cs) (hc : Lexer.Heads c)
    (h : ∀ rest, Lexer.Ends rest → Lexer.Gives (s.toList ++ rest) ls rest) :
    Lexer.Gives ((Tree.enclose d s).toList ++ rest) (.opening d :: (ls ++ [.closing d])) rest := by
  have hne : s ≠ "" := by
    intro he
    rw [he] at hs
    cases hs
  have hinner := (h _ (ends_closer d rest)).trans (lexemes_pad d gives_closer)
  have htext : (Tree.enclose d s).toList ++ rest =
      d.opener :: (d.pad ++ (s.toList ++ (d.pad ++ d.closer :: rest))) := by
    simp [toList_enclose hne]
  rw [htext]
  refine (gives_opener ?_).trans (lexemes_pad d hinner)
  cases d with
  | brace => simp [pad]
  | _ => simpa [pad, hs] using hc.notSlash

end Delimiter

namespace Tree

variable {t : Tree} {ts : List Tree} {i : Ident} {l : Literal} {c : Char} {glued : Bool} {rest : List Char}

mutual

def lexemes : Tree → List Lexeme
  | group d body => .opening d :: (lexemesAll body ++ [.closing d])
  | t => [.leaf t]

def lexemesAll : List Tree → List Lexeme
  | [] => []
  | t :: ts => t.lexemes ++ lexemesAll ts

end

mutual

/-- A tree of identifiers, signs that begin no comment, texts, and numbers. A sign is only glued to another. -/
def Legible : Tree → Prop
  | ident i => i.IsSpelled
  | punct c _ => c ∈ Lexer.signs ∧ c ≠ '/'
  | literal l => (∃ s, l = .ofString s) ∨
      ∃ body suffix, l.text.toList = body ++ suffix ∧ Lexer.PlainDecimal body ∧
        (Lexer.Suffix suffix ∨ suffix = [])
  | group _ body => LegibleRow body

def LegibleRow : List Tree → Prop
  | [] => True
  | t :: ts => t.Legible ∧ (t.isGlued = true → ∃ c glued ts', ts = punct c glued :: ts') ∧ LegibleRow ts

end

lemma legibleRow_cons (ht : t.Legible) (hu : t.isGlued = false) (hts : LegibleRow ts) : LegibleRow (t :: ts) :=
  ⟨ht, by simp [hu], hts⟩

lemma LegibleRow.append {us : List Tree} (hts : LegibleRow ts) (hus : LegibleRow us) : LegibleRow (ts ++ us) := by
  induction ts with
  | nil => exact hus
  | cons t ts ih =>
    refine ⟨hts.1, fun hg => ?_, ih hts.2.2⟩
    obtain ⟨c, glued, ts', rfl⟩ := hts.2.1 hg
    exact ⟨c, glued, ts' ++ us, rfl⟩

lemma legible_ofIdent (h : i.IsSpelled) : LegibleRow [ident i] :=
  legibleRow_cons h rfl trivial

lemma legible_ofGroup {d : Delimiter} (h : LegibleRow ts) : LegibleRow (Row.ofGroup d ts) :=
  legibleRow_cons (t := group d ts) h rfl trivial

def startsWithPunct : List Tree → Bool
  | punct .. :: _ => true
  | _ => false

mutual

-- A tree of words and signs.
def isPlain : Tree → Bool
  | ident i => i.IsSpelled
  | punct c _ => c ∈ Lexer.signs ∧ c ≠ '/'
  | literal _ => false
  | group _ body => isPlainRow body

def isPlainRow : List Tree → Bool
  | [] => true
  | t :: ts => t.isPlain && (!t.isGlued || startsWithPunct ts) && isPlainRow ts

end

mutual

theorem legible_of_isPlain (t : Tree) (h : t.isPlain = true) : t.Legible := by
  cases t with
  | ident i =>
    have hs : i.IsSpelled := of_decide_eq_true h
    exact hs
  | punct c glued =>
    have hc : c ∈ Lexer.signs ∧ c ≠ '/' := of_decide_eq_true h
    exact hc
  | literal l => cases h
  | group d body => exact legible_plain body h

theorem legible_plain (ts : List Tree) (h : isPlainRow ts = true) : LegibleRow ts := by
  cases ts with
  | nil => trivial
  | cons t ts =>
    rw [isPlainRow, Bool.and_eq_true, Bool.and_eq_true] at h
    obtain ⟨⟨ht, hg⟩, hts⟩ := h
    refine ⟨legible_of_isPlain t ht, fun hu => ?_, legible_plain ts hts⟩
    rw [hu] at hg
    cases ts with
    | nil => cases hg
    | cons u ts =>
      cases u with
      | punct c glued => exact ⟨c, glued, ts, rfl⟩
      | _ => cases hg

end

mutual

theorem nest_lexemes (t : Tree) (outer : List (Delimiter × List Tree)) (before : List Tree) (ls : List Lexeme) :
    Lexer.nest outer before (t.lexemes ++ ls) = Lexer.nest outer (t :: before) ls := by
  cases t with
  | group d body =>
    simp only [lexemes, List.cons_append, List.append_assoc, Lexer.nest, nest_lexemesAll body]
    simp
  | ident i => rfl
  | punct c glued => rfl
  | literal l => rfl

theorem nest_lexemesAll (ts : List Tree) (outer : List (Delimiter × List Tree)) (before : List Tree)
    (ls : List Lexeme) :
    Lexer.nest outer before (lexemesAll ts ++ ls) = Lexer.nest outer (ts.reverse ++ before) ls := by
  cases ts with
  | nil => rfl
  | cons t ts =>
    rw [lexemesAll, List.append_assoc, nest_lexemes t, nest_lexemesAll ts]
    simp

end

lemma head_text (h : i.IsSpelled) : ∃ c cs, i.text.toList = c :: cs ∧ Lexer.Heads c := by
  obtain ⟨name, raw⟩ := i
  cases raw with
  | false =>
    obtain ⟨c, cs, hn, hc, -⟩ := Ident.spanName_eq_some h.spanName
    exact ⟨c, cs, hn, Lexer.heads_of_isIdentifierStart hc⟩
  | true => exact ⟨'r', _, Ident.toList_text_raw name, Lexer.heads_of_isIdentifierStart (by decide)⟩

lemma head_render (h : t.Legible) : ∃ c cs, t.render.toList = c :: cs ∧ Lexer.Heads c := by
  cases t with
  | ident i => exact head_text h
  | punct c glued => exact ⟨c, [], by simp [render], Lexer.heads_of_mem_signs h.1 h.2⟩
  | literal l =>
    rcases h with ⟨s, rfl⟩ | ⟨body, suffix, hl, hb, -⟩
    · have hquote : Lexer.Heads '"' := ⟨by decide, by decide, by decide⟩
      exact ⟨'"', Escape.encode s.toList ++ ['"'], by simp [render, Literal.ofString], hquote⟩
    · obtain ⟨c, cs, rfl, hc⟩ := hb.head
      exact ⟨c, cs ++ suffix, by simp [render, hl], Lexer.heads_of_isDigit hc⟩
  | group d body =>
    obtain ⟨cs, hcs⟩ := d.exists_enclose_eq_opener (renderAll body)
    exact ⟨d.opener, cs, hcs, d.heads_opener⟩

lemma head_renderAll (h : LegibleRow ts) (hn : ts ≠ []) :
    ∃ c cs, (renderAll ts).toList = c :: cs ∧ Lexer.Heads c := by
  obtain ⟨t, ts, rfl⟩ := List.exists_cons_of_ne_nil hn
  obtain ⟨c, cs, ht, hc⟩ := head_render (show t.Legible from h.1)
  refine ⟨c, cs ++ ((if t.isGlued || ts.isEmpty then "" else " ").toList ++ (renderAll ts).toList), ?_, hc⟩
  simp [renderAll, ht]

lemma gives_leaf (h : t.Legible) (hl : t.lexemes = [.leaf t])
    (hn : Lexer.next? (t.render.toList ++ rest) = some ([.leaf t], rest)) :
    Lexer.Gives (t.render.toList ++ rest) t.lexemes rest := by
  obtain ⟨c, cs, ht, hc⟩ := head_render h
  rw [ht, List.cons_append] at hn ⊢
  rw [hl]
  exact Lexer.gives_of_next? hc hn (by simp)

lemma gives_ident (h : (ident i).Legible) (hr : Lexer.Ends rest) :
    Lexer.Gives ((ident i).render.toList ++ rest) (ident i).lexemes rest :=
  gives_leaf h rfl (Lexer.next?_ident h hr)

lemma gives_punct (h : (punct c glued).Legible) (hr : Lexer.startsWithSign rest = glued) :
    Lexer.Gives ((punct c glued).render.toList ++ rest) (punct c glued).lexemes rest := by
  refine gives_leaf h rfl ?_
  have hn : Lexer.next? (c :: rest) = _ := Lexer.next?_sign h.1 h.2
  rw [hr] at hn
  simpa [render] using hn

lemma gives_literal (h : (literal l).Legible) (hr : Lexer.Ends rest) :
    Lexer.Gives ((literal l).render.toList ++ rest) (literal l).lexemes rest := by
  refine gives_leaf h rfl ?_
  rcases h with ⟨s, rfl⟩ | ⟨body, suffix, hl, hb, hs⟩
  · exact Lexer.next?_string s hr
  · have hn := Lexer.next?_number hb hs hr
    have hlit : (⟨String.ofList (body ++ suffix)⟩ : Literal) = l := by
      rw [← hl, String.ofList_toList]
    rw [hlit] at hn
    simpa [render, hl] using hn

mutual

-- The text of a tree is followed by another sign if it is glued to it, and by what ends a token otherwise.
theorem gives_render (t : Tree) (h : t.Legible) {rest : List Char}
    (hg : t.isGlued = true → Lexer.startsWithSign rest = true) (he : t.isGlued = false → Lexer.Ends rest) :
    Lexer.Gives (t.render.toList ++ rest) t.lexemes rest := by
  cases t with
  | ident i => exact gives_ident h (he rfl)
  | punct c glued =>
    refine gives_punct h ?_
    cases glued with
    | true => exact hg rfl
    | false => exact Lexer.startsWithSign_of_ends (he rfl)
  | literal l => exact gives_literal h (he rfl)
  | group d body =>
    by_cases hb : body = []
    · rw [hb]
      exact Delimiter.gives_enclose_empty
    · obtain ⟨c, cs, ht, hc⟩ := head_renderAll (show LegibleRow body from h) hb
      exact Delimiter.gives_enclose ht hc fun rest hr => gives_renderAll body h hb hr

theorem gives_renderAll (ts : List Tree) (h : LegibleRow ts) (hn : ts ≠ []) {rest : List Char}
    (hr : Lexer.Ends rest) : Lexer.Gives ((renderAll ts).toList ++ rest) (lexemesAll ts) rest := by
  cases ts with
  | nil => exact absurd rfl hn
  | cons t ts =>
    obtain ⟨ht, hglue, hts⟩ := h
    by_cases he : ts = []
    · have hu : t.isGlued = false := by
        by_contra hg
        obtain ⟨_, _, _, hsign⟩ := hglue (by simpa using hg)
        rw [he] at hsign
        cases hsign
      have hgive : Lexer.Gives (t.render.toList ++ rest) t.lexemes rest :=
        gives_render t ht (by simp [hu]) fun _ => hr
      simpa [he, renderAll, lexemesAll] using hgive
    · have hrest := gives_renderAll ts hts he hr
      cases hu : t.isGlued with
      | false =>
        have hgive := gives_render t ht (by simp [hu]) fun _ => Lexer.ends_space ((renderAll ts).toList ++ rest)
        simpa [renderAll, lexemesAll, hu, he] using hgive.trans hrest.2
      | true =>
        obtain ⟨c, glued, ts', rfl⟩ := hglue hu
        have hc : (punct c glued).Legible := hts.1
        have hsign : Lexer.startsWithSign ((renderAll (punct c glued :: ts')).toList ++ rest) = true := by
          simpa [renderAll, render] using Lexer.startsWithSign_of_mem hc.1 hc.2
        have hgive := gives_render t ht (fun _ => hsign) (by simp [hu])
        simpa [renderAll, lexemesAll, hu] using hgive.trans hrest.1

end

lemma lexemes_renderAll (h : LegibleRow ts) : Lexer.lexemes (renderAll ts).toList = some (lexemesAll ts) := by
  have hnil : Lexer.lexemes [] = some [] := by simp [Lexer.lexemes, Lexer.skipBlank, Lexer.skipOne?]
  by_cases hn : ts = []
  · rw [hn]
    exact hnil
  · have hgive : Lexer.Gives ((renderAll ts).toList ++ []) (lexemesAll ts) [] :=
      gives_renderAll ts h hn (by simp [Lexer.Ends])
    rw [List.append_nil] at hgive
    rw [hgive.1, hnil]
    simp

lemma dropByteOrderMark_renderAll (h : LegibleRow ts) :
    Lexer.dropByteOrderMark (renderAll ts).toList = (renderAll ts).toList := by
  by_cases hn : ts = []
  · rw [hn]
    rfl
  · obtain ⟨c, cs, ht, hc⟩ := head_renderAll h hn
    rw [ht, Lexer.dropByteOrderMark]
    rintro _ hm
    exact hc.notMark (List.cons.inj hm).1

theorem trees?_renderAll (h : LegibleRow ts) : trees? (renderAll ts) = some ts := by
  have hnest := nest_lexemesAll ts [] [] []
  rw [List.append_nil] at hnest
  rw [trees?, dropByteOrderMark_renderAll h, lexemes_renderAll h, Option.bind_some, hnest]
  simp [Lexer.nest]

end Tree

end CommandLine.Source
