import CommandLine.Proofs.Source.Escape
import CommandLine.Proofs.Source.Ident
import Mathlib.Data.List.TakeWhile

/-! Single tokens in a text: an identifier, a sign, a number, and a quoted literal. -/

namespace CommandLine.Source.Lexer

variable {c d : Char} {cs rest text body suffix word whole fraction xs ys : List Char} {ls ls' : List Lexeme}
  {i : Ident}

section Characters

variable {p : Char → Bool}

lemma ne_of_pred (hc : p c = true) (hd : p d = false) : c ≠ d := by
  intro h
  rw [h, hd] at hc
  cases hc

lemma notMem_of_pred (hc : p c = true) (hx : xs.any p = false) : c ∉ xs := by
  intro h
  rw [List.any_eq_false] at hx
  exact hx c h hc

lemma toNat_of_isAlpha (h : c.isAlpha = true) : 65 ≤ c.toNat ∧ c.toNat < 0x80 := by
  rcases Bool.or_eq_true_iff.mp h with hu | hl
  · have hu : 65 ≤ c.toNat ∧ c.toNat ≤ 90 := of_decide_eq_true hu
    omega
  · have hl : decide (97 ≤ c.toNat) = true ∧ decide (c.toNat ≤ 122) = true := Bool.and_eq_true_iff.mp hl
    rw [decide_eq_true_eq, decide_eq_true_eq] at hl
    omega

lemma toNat_of_isDigit (h : c.isDigit = true) : 48 ≤ c.toNat ∧ c.toNat ≤ 57 := by
  simp only [Char.isDigit, Bool.and_eq_true, decide_eq_true_eq, UInt32.le_iff_toNat_le, ge_iff_le] at h
  exact h

lemma isDigit_of_isAlpha (h : c.isAlpha = true) : c.isDigit = false := by
  have hl := (toNat_of_isAlpha h).1
  by_contra hd
  have hg := (toNat_of_isDigit (by simpa using hd)).2
  omega

lemma isAlpha_of_isDigit (h : c.isDigit = true) : c.isAlpha = false := by
  by_contra ha
  rw [isDigit_of_isAlpha (by simpa using ha)] at h
  cases h

lemma isIdentifierStart_of_isAlpha (h : c.isAlpha = true) : Text.isIdentifierStart c = true := by
  simp [Text.isIdentifierStart, toNat_of_isAlpha h, h]

lemma isIdentifierStart_of_isDigit (h : c.isDigit = true) : Text.isIdentifierStart c = false := by
  have hg := (toNat_of_isDigit h).2
  have hlt : c.toNat < 0x80 := by omega
  have hu : c ≠ '_' := ne_of_pred h (by decide)
  simp [Text.isIdentifierStart, hlt, isAlpha_of_isDigit h, hu]

lemma isWordChar_of_isAlphanum (h : c.isAlphanum = true) : isWordChar c = true := by
  have hlt : c.toNat < 0x80 := by
    rcases Bool.or_eq_true_iff.mp h with ha | hd
    · exact (toNat_of_isAlpha ha).2
    · have hg := (toNat_of_isDigit hd).2
      omega
  simp [isWordChar, Text.isIdentifierContinue, hlt, h]

lemma isDecimalChar_of_isAlpha (h : c.isAlpha = true) : isDecimalChar c = false := by
  have hu : c ≠ '_' := ne_of_pred h (by decide)
  simp [isDecimalChar, isDigit_of_isAlpha h, hu]

structure Heads (c : Char) : Prop where
  notBlank : Text.isBlank c = false
  notSlash : c ≠ '/'
  notMark : c ≠ '\ufeff'

def wideBlanks : List Nat :=
  [0x85, 0xa0, 0x1680, 0x2028, 0x2029, 0x202f, 0x205f, 0x3000, 0x200e, 0x200f] ++ List.range' 0x2000 11

lemma mem_wideBlanks (h : Text.isBlank c = true) (hc : ¬ c.toNat < 0x80) : c.toNat ∈ wideBlanks := by
  rw [Text.isBlank, if_neg hc, Bool.or_eq_true, decide_eq_true_eq, Bool.and_eq_true, decide_eq_true_eq,
    decide_eq_true_eq] at h
  rw [wideBlanks, List.mem_append]
  rcases h with h | h
  · simp only [List.mem_cons, List.not_mem_nil, or_false] at h
    rcases h with rfl | rfl | rfl | rfl | rfl | rfl | rfl | rfl | rfl | rfl <;> simp
  · exact Or.inr (List.mem_range'_1.mpr (by omega))

lemma isBlank_of_isIdentifierStart (h : Text.isIdentifierStart c = true) : Text.isBlank c = false := by
  by_contra hb
  have hb : Text.isBlank c = true := by simpa using hb
  by_cases hc : c.toNat < 0x80
  · rw [Text.isBlank, if_pos hc] at hb
    rw [Text.isIdentifierStart, if_pos hc] at h
    have hstart : 65 ≤ c.toNat := by
      rcases Bool.or_eq_true_iff.mp h with ha | hu
      · exact (toNat_of_isAlpha ha).1
      · rw [of_decide_eq_true hu]
        decide
    rcases Bool.or_eq_true_iff.mp hb with hs | hs
    · rw [of_decide_eq_true hs] at hstart
      exact absurd hstart (by decide)
    · simp only [Bool.and_eq_true, decide_eq_true_eq] at hs
      omega
  · have hwide : wideBlanks.all (fun n => !Text.startRanges.containsWithin n 0 Text.startRanges.size) = true := by
      decide +kernel
    have hn := List.all_eq_true.mp hwide _ (mem_wideBlanks hb hc)
    rw [Text.isIdentifierStart, if_neg hc, Text.RangeTable.contains] at h
    simp [h] at hn

lemma heads_of_isIdentifierStart (h : Text.isIdentifierStart c = true) : Heads c :=
  ⟨isBlank_of_isIdentifierStart h, ne_of_pred h (by decide), ne_of_pred h (by decide +kernel)⟩

lemma heads_of_isDigit (h : c.isDigit = true) : Heads c := by
  have ht := toNat_of_isDigit h
  have hlt : c.toNat < 0x80 := by omega
  have hs : c ≠ ' ' := ne_of_pred h (by decide)
  refine ⟨?_, ne_of_pred h (by decide), ne_of_pred h (by decide)⟩
  simp [Text.isBlank, hlt, hs]
  omega

lemma heads_of_mem_signs (h : c ∈ signs) (hs : c ≠ '/') : Heads c := by
  have hsigns : signs.all (fun c => !Text.isBlank c && c != '\ufeff') = true := by decide
  have hc := List.all_eq_true.mp hsigns c h
  simp only [Bool.and_eq_true, Bool.not_eq_true', bne_iff_ne] at hc
  exact ⟨hc.1, hs, hc.2⟩

end Characters

lemma skipBlank_of_heads (h : Heads c) : skipBlank (c :: cs) = c :: cs := by
  have hs : skipOne? (c :: cs) = none := by
    rw [skipOne?, h.notBlank]
    · rfl
    · rintro _ rfl
      exact absurd rfl h.notSlash
    · rintro _ rfl
      exact absurd rfl h.notSlash
  rw [skipBlank, hs]

lemma skipBlank_space (cs : List Char) : skipBlank (' ' :: cs) = skipBlank cs := by
  have hs : skipOne? (' ' :: cs) = some cs := by simp [skipOne?, Text.isBlank]
  rw [skipBlank, hs]
  simp

/-- The text gives the lexemes and leaves the rest, whether or not a space stands in front. -/
def Gives (text : List Char) (ls : List Lexeme) (rest : List Char) : Prop :=
  lexemes text = (lexemes rest).map (ls ++ ·) ∧ lexemes (' ' :: text) = (lexemes rest).map (ls ++ ·)

lemma gives_of_next? (hc : Heads c) (h : next? (c :: cs) = some (ls, rest)) (hl : rest.length ≤ cs.length) :
    Gives (c :: cs) ls rest := by
  have hplain : rest.length < cs.length + 1 := by omega
  have hspaced : rest.length < cs.length + 2 := by omega
  constructor
  · rw [lexemes, skipBlank_of_heads hc]
    simp [h, hplain]
  · rw [lexemes, skipBlank_space, skipBlank_of_heads hc]
    simp [h, hspaced]

lemma Gives.trans (h : Gives text ls xs) (hx : lexemes xs = (lexemes rest).map (ls' ++ ·)) :
    Gives text (ls ++ ls') rest := by
  have hmap : (lexemes xs).map (ls ++ ·) = (lexemes rest).map (ls ++ ls' ++ ·) := by
    rw [hx, Option.map_map]
    simp [Function.comp_def]
  exact ⟨h.1.trans hmap, h.2.trans hmap⟩

def Ends (cs : List Char) : Prop :=
  ∀ c, cs.head? = some c → c ∈ [' ', ')', ']', '}']

lemma Ends.head (h : Ends (c :: cs)) :
    isWordChar c = false ∧ Text.isIdentifierStart c = false ∧ c ∉ '\'' :: signs := by
  have hends : [' ', ')', ']', '}'].all (fun c =>
      !isWordChar c && !Text.isIdentifierStart c && c ∉ '\'' :: signs) = true := by decide +kernel
  have hc := List.all_eq_true.mp hends c (h c rfl)
  simpa only [Bool.and_eq_true, Bool.not_eq_true', decide_eq_true_eq, and_assoc] using hc

lemma ends_space (cs : List Char) : Ends (' ' :: cs) := by
  intro c hc
  obtain rfl := Option.some.inj hc
  decide

lemma spanWord_append (hw : ∀ c ∈ word, c.isAlphanum = true) (hr : Ends rest) :
    spanWord (word ++ rest) = (word, rest) := by
  have hword : ∀ c ∈ word, isWordChar c = true := fun c hc => isWordChar_of_isAlphanum (hw c hc)
  rw [spanWord, List.takeWhile_append_of_pos hword, List.dropWhile_append_of_pos hword]
  cases rest with
  | nil => simp
  | cons c cs => simp [hr.head]

lemma docComment?_of_ne (h : c ≠ '/') : docComment? (c :: cs) = none := by
  have ht : docText? (c :: cs) = none := by
    rw [docText?] <;> simp [h]
  rw [docComment?, ht]

lemma next?_of_literal {l : Literal} (hb : c ∉ ['(', '[', '{', ')', ']', '}']) (hc : c ≠ '/')
    (hl : literal? (c :: cs) = some (l, rest)) : next? (c :: cs) = some ([.leaf (.literal l)], rest) := by
  simp only [List.mem_cons, List.not_mem_nil, or_false, not_or] at hb
  simp [next?, docComment?_of_ne hc, hl, hb]

lemma next?_of_punct {t : Tree} (hb : c ∉ ['(', '[', '{', ')', ']', '}']) (hc : c ≠ '/')
    (hl : literal? (c :: cs) = none) (hp : punct? (c :: cs) = some (t, rest)) :
    next? (c :: cs) = some ([.leaf t], rest) := by
  simp only [List.mem_cons, List.not_mem_nil, or_false, not_or] at hb
  simp [next?, docComment?_of_ne hc, hl, hp, hb]

lemma next?_of_ident {i : Ident} (hb : c ∉ ['(', '[', '{', ')', ']', '}']) (hc : c ≠ '/')
    (hl : literal? (c :: cs) = none) (hp : punct? (c :: cs) = none) (hi : ident? (c :: cs) = some (i, rest)) :
    next? (c :: cs) = some ([.leaf (.ident i)], rest) := by
  simp only [List.mem_cons, List.not_mem_nil, or_false, not_or] at hb
  simp [next?, docComment?_of_ne hc, hl, hp, hi, hb]

lemma literal?_eq_none (hc : c ∉ ['"', '\'', 'b', 'c', 'r']) (hd : c.isDigit = false) :
    literal? (c :: cs) = none := by
  simp only [List.mem_cons, List.not_mem_nil, or_false, not_or] at hc
  rw [literal?, hd]
  · simp
  all_goals simp [hc]

section Signs

lemma startsWithSign_cons (h : c ≠ '/') : startsWithSign (c :: cs) = (c ∈ signs || c = '\'') := by
  rw [startsWithSign] <;> simp [h]

lemma startsWithSign_of_mem (hc : c ∈ signs) (hs : c ≠ '/') : startsWithSign (c :: cs) = true := by
  rw [startsWithSign_cons hs]
  simp [hc]

lemma startsWithSign_of_ends (h : Ends cs) : startsWithSign cs = false := by
  cases cs with
  | nil => rfl
  | cons c cs =>
    have hc := h.head.2.2
    rw [List.mem_cons, not_or] at hc
    have hs : c ≠ '/' := fun hs => hc.2 (by simp [hs, signs])
    rw [startsWithSign_cons hs]
    simp [hc]

lemma punct?_cons (h : c ≠ '\'') :
    punct? (c :: cs) = if startsWithSign (c :: cs) then some (.punct c (startsWithSign cs), cs) else none := by
  rw [punct?]
  simp [h]

lemma next?_sign (hc : c ∈ signs) (hs : c ≠ '/') :
    next? (c :: cs) = some ([.leaf (.punct c (startsWithSign cs))], cs) := by
  have hsigns : signs.all (fun c =>
      c ∉ ['(', '[', '{', ')', ']', '}'] && c ∉ ['"', '\'', 'b', 'c', 'r'] && !c.isDigit) = true := by decide
  have hsign := List.all_eq_true.mp hsigns c hc
  simp only [Bool.and_eq_true, decide_eq_true_eq, Bool.not_eq_true'] at hsign
  obtain ⟨⟨hb, hl⟩, hd⟩ := hsign
  have hq : c ≠ '\'' := fun h => hl (by simp [h])
  refine next?_of_punct hb hs (literal?_eq_none hl hd) ?_
  rw [punct?_cons hq, startsWithSign_of_mem hc hs, if_pos rfl]

end Signs

section Identifiers

def Unquoted (cs : List Char) : Prop :=
  ∀ c, cs.head? = some c → c ∉ ['"', '\'', '#']

lemma unquoted_append (hw : ∀ c ∈ word, Text.isIdentifierContinue c = true) (hr : Ends rest) :
    Unquoted (word ++ rest) := by
  intro c hc
  cases word with
  | nil =>
    have hends : [' ', ')', ']', '}'].all (fun c => c ∉ ['"', '\'', '#']) = true := by decide
    exact of_decide_eq_true (List.all_eq_true.mp hends c (hr c hc))
  | cons x word =>
    obtain rfl : x = c := Option.some.inj hc
    exact notMem_of_pred (hw x (by simp)) (by decide)

lemma spanRawString_of_unquoted (h : Unquoted cs) : spanRawString cs = none := by
  cases cs with
  | nil => rfl
  | cons c cs =>
    have hc := h c rfl
    simp only [List.mem_cons, List.not_mem_nil, or_false, not_or] at hc
    simp [spanRawString, hc]

lemma span_isIdentifierContinue (hw : ∀ c ∈ word, Text.isIdentifierContinue c = true) (hr : Ends rest) :
    (word ++ rest).takeWhile Text.isIdentifierContinue = word ∧
      (word ++ rest).dropWhile Text.isIdentifierContinue = rest := by
  have hend : ∀ c, rest.head? = some c → Text.isIdentifierContinue c = false := by
    intro c hc
    cases rest with
    | nil => cases hc
    | cons x rest =>
      obtain rfl : x = c := Option.some.inj hc
      exact hr.head.1
  rw [List.takeWhile_append_of_pos hw, List.dropWhile_append_of_pos hw]
  cases rest with
  | nil => simp
  | cons c cs => simp [hend c rfl]

lemma spanName_append {name : String} (h : Ident.spanName name.toList = some (name, [])) (hr : Ends rest) :
    Ident.spanName (name.toList ++ rest) = some (name, rest) := by
  obtain ⟨c, xs, hn, hc, hx⟩ := Ident.spanName_eq_some h
  obtain ⟨ht, hd⟩ := span_isIdentifierContinue hx hr
  rw [hn, List.cons_append, Ident.spanName, if_pos hc, ht, hd, ← hn, String.ofList_toList]

lemma notMem_of_isIdentifierStart (h : Text.isIdentifierStart c = true) :
    c ∉ ['(', '[', '{', ')', ']', '}'] ∧ c ∉ '\'' :: signs ∧ c ∉ ['"', '\'', '#'] ∧ c.isDigit = false := by
  refine ⟨notMem_of_pred h (by decide), notMem_of_pred h (by decide), notMem_of_pred h (by decide), ?_⟩
  by_contra hd
  rw [isIdentifierStart_of_isDigit (by simpa using hd)] at h
  cases h

lemma punct?_of_isIdentifierStart (h : Text.isIdentifierStart c = true) : punct? (c :: cs) = none := by
  have hs := (notMem_of_isIdentifierStart h).2.1
  rw [List.mem_cons, not_or] at hs
  rw [punct?_cons hs.1, startsWithSign_cons (heads_of_isIdentifierStart h).notSlash]
  simp [hs]

lemma literal?_of_isIdentifierStart (h : Text.isIdentifierStart c = true) (hn : Unquoted cs)
    (hr : ∀ cs', cs = 'r' :: cs' → Unquoted cs') : literal? (c :: cs) = none := by
  -- The letters that begin some literals begin a word where no quote and no mark follows.
  obtain ⟨-, -, hq, hd⟩ := notMem_of_isIdentifierStart h
  simp only [List.mem_cons, List.not_mem_nil, or_false, not_or] at hq
  have hne : ∀ x xs, cs = x :: xs → x ≠ '"' ∧ x ≠ '\'' ∧ x ≠ '#' := by
    rintro x xs rfl
    simpa using hn x rfl
  rw [literal?.eq_def]
  split
  case h_6 rest heq =>
    obtain ⟨-, rfl⟩ := List.cons.inj heq
    rw [spanRawString_of_unquoted (hr rest rfl), quotedLiteral]
  case h_8 rest heq =>
    obtain ⟨-, rfl⟩ := List.cons.inj heq
    rw [spanRawString_of_unquoted (hr rest rfl), quotedLiteral]
  case h_10 c' cs' _ _ _ _ _ _ _ _ _ heq =>
    obtain ⟨rfl, -⟩ := List.cons.inj heq
    rw [hd]
    rfl
  case h_11 heq => cases heq
  all_goals
    rename_i heq
    obtain ⟨rfl, rfl⟩ := List.cons.inj heq
    simp at hq hne

lemma literalStarts_of_unquoted (hn : Unquoted cs) (hr : ∀ cs', cs = 'r' :: cs' → Unquoted cs') :
    (literalStarts.any fun s => s.isPrefixOf (c :: cs)) = false := by
  cases cs with
  | nil => simp [literalStarts, List.isPrefixOf]
  | cons x cs =>
    have hx := hn x rfl
    simp only [List.mem_cons, List.not_mem_nil, or_false, not_or] at hx
    cases cs with
    | nil => simp [literalStarts, List.isPrefixOf, Ne.symm, hx]
    | cons y cs =>
      by_cases hxr : x = 'r'
      · have hy := hr (y :: cs) (by rw [hxr]) y rfl
        simp only [List.mem_cons, List.not_mem_nil, or_false, not_or] at hy
        simp [literalStarts, List.isPrefixOf, hxr, Ne.symm hy.1, Ne.symm hy.2.2]
      · simp [literalStarts, List.isPrefixOf, Ne.symm hxr, Ne.symm hx.1, Ne.symm hx.2.1, Ne.symm hx.2.2]

lemma unquoted_of_word (hw : ∀ c ∈ word, Text.isIdentifierContinue c = true) (hr : Ends rest) :
    Unquoted (word ++ rest) ∧ ∀ cs', word ++ rest = 'r' :: cs' → Unquoted cs' := by
  refine ⟨unquoted_append hw hr, fun cs' hcs => ?_⟩
  cases word with
  | nil =>
    rw [List.nil_append] at hcs
    exact absurd (hcs ▸ hr).head.2.1 (by decide)
  | cons x word =>
    obtain ⟨-, rfl⟩ := List.cons.inj hcs
    exact unquoted_append (fun c hc => hw c (by simp [hc])) hr

lemma next?_name {name : String} (h : Ident.spanName name.toList = some (name, [])) (hr : Ends rest) :
    next? (name.toList ++ rest) = some ([.leaf (.ident ⟨name, false⟩)], rest) := by
  have hspan := spanName_append h hr
  obtain ⟨c, xs, hn, hc, hx⟩ := Ident.spanName_eq_some h
  obtain ⟨hquote, hletter⟩ := unquoted_of_word hx hr
  rw [hn, List.cons_append] at hspan ⊢
  refine next?_of_ident (notMem_of_isIdentifierStart hc).1 (heads_of_isIdentifierStart hc).notSlash
    (literal?_of_isIdentifierStart hc hquote hletter) (punct?_of_isIdentifierStart hc) ?_
  rw [ident?, literalStarts_of_unquoted hquote hletter, Ident.span?, hspan]
  · rfl
  · intro after hafter
    exact hquote '#' (by rw [(List.cons.inj hafter).2]; rfl) (by simp)

lemma next?_rawName {name : String} (h : Ident.spanName name.toList = some (name, [])) (hm : name ∉ Ident.neverRaw)
    (hr : Ends rest) : next? ('r' :: '#' :: (name.toList ++ rest)) = some ([.leaf (.ident ⟨name, true⟩)], rest) := by
  -- Behind the mark of a raw identifier comes no quote and no other mark, as in a text.
  have hspan := spanName_append h hr
  obtain ⟨c, xs, hn, hc, -⟩ := Ident.spanName_eq_some h
  have hquote := (notMem_of_isIdentifierStart hc).2.2.1
  simp only [List.mem_cons, List.not_mem_nil, or_false, not_or] at hquote
  have hstart : Text.isIdentifierStart 'r' = true := by decide
  refine next?_of_ident (by decide) (by decide) ?_ (punct?_of_isIdentifierStart hstart) ?_
  · rw [literal?, hn]
    simp [spanRawString, quotedLiteral, hquote]
  · rw [ident?, Ident.span?, hspan]
    simp [literalStarts, List.isPrefixOf, hn, hm, Ne.symm, hquote]

lemma next?_ident (h : i.IsSpelled) (hr : Ends rest) :
    next? (i.text.toList ++ rest) = some ([.leaf (.ident i)], rest) := by
  obtain ⟨name, raw⟩ := i
  cases raw with
  | false => exact next?_name h.spanName hr
  | true =>
    rw [Ident.toList_text_raw]
    exact next?_rawName h.spanName (h.notMem_neverRaw rfl) hr

end Identifiers

section Numbers

inductive PlainDecimal : List Char → Prop
  | whole {digits : List Char} (nonempty : digits ≠ []) (allDigits : ∀ c ∈ digits, c.isDigit = true) :
      PlainDecimal digits
  | point {whole fraction : List Char} (whole_nonempty : whole ≠ []) (fraction_nonempty : fraction ≠ [])
      (whole_digits : ∀ c ∈ whole, c.isDigit = true) (fraction_digits : ∀ c ∈ fraction, c.isDigit = true) :
      PlainDecimal (whole ++ '.' :: fraction)

lemma PlainDecimal.head (h : PlainDecimal body) : ∃ c cs, body = c :: cs ∧ c.isDigit = true := by
  cases h with
  | whole nonempty allDigits =>
    obtain ⟨c, cs, rfl⟩ := List.exists_cons_of_ne_nil nonempty
    exact ⟨c, cs, rfl, allDigits c (by simp)⟩
  | point whole_nonempty fraction_nonempty whole_digits fraction_digits =>
    obtain ⟨c, cs, rfl⟩ := List.exists_cons_of_ne_nil whole_nonempty
    exact ⟨c, _, rfl, whole_digits c (by simp)⟩

def Suffix (cs : List Char) : Prop :=
  ∃ c suffix, cs = c :: suffix ∧ c.isAlpha = true ∧ c ∉ ['e', 'E', 'x', 'o', 'b'] ∧
    ∀ x ∈ suffix, x.isAlphanum = true

def Stops (cs : List Char) : Prop :=
  ∀ c, cs.head? = some c → isDecimalChar c = false ∧ c ∉ ['.', 'e', 'E', 'x', 'o', 'b']

lemma stops_of_ends (h : Ends cs) : Stops cs := by
  have hends : [' ', ')', ']', '}'].all (fun c =>
      !isDecimalChar c && c ∉ ['.', 'e', 'E', 'x', 'o', 'b']) = true := by decide
  intro c hc
  have hstop := List.all_eq_true.mp hends c (h c hc)
  simpa only [Bool.and_eq_true, Bool.not_eq_true', decide_eq_true_eq] using hstop

lemma stops_of_suffix (h : Suffix suffix) (cs : List Char) : Stops (suffix ++ cs) := by
  obtain ⟨c, suffix, rfl, hc, hm, -⟩ := h
  intro x hx
  obtain rfl : c = x := Option.some.inj hx
  have hp : c ≠ '.' := ne_of_pred hc (by decide)
  exact ⟨isDecimalChar_of_isAlpha hc, by simpa [hp] using hm⟩

lemma withSuffix_append (body : List Char) (hs : Suffix suffix) (hr : Ends rest) :
    withSuffix (body, suffix ++ rest) = some (body ++ suffix, rest) := by
  obtain ⟨c, cs, rfl, hc, -, hw⟩ := hs
  have hword : ∀ x ∈ c :: cs, x.isAlphanum = true :=
    List.forall_mem_cons.mpr ⟨by simp [Char.isAlphanum, hc], hw⟩
  rw [List.cons_append, withSuffix, if_pos (isIdentifierStart_of_isAlpha hc), ← List.cons_append,
    spanWord_append hword hr]

lemma withSuffix_of_ends (body : List Char) (hr : Ends rest) : withSuffix (body, rest) = some (body, rest) := by
  cases rest with
  | nil => rfl
  | cons c cs => simp [withSuffix, hr.head]

lemma hexDigit?_of_isDigit (h : c.isDigit = true) : ∃ d < 10, Escape.hexDigit? c = some d := by
  have ht := toNat_of_isDigit h
  have hle : '0' ≤ c ∧ c ≤ '9' := ht
  have hzero : '0'.toNat = 48 := rfl
  exact ⟨c.toNat - '0'.toNat, by omega, by rw [Escape.hexDigit?, if_pos hle]⟩

lemma isDigit_of_hexDigit? {d : ℕ} (h : Escape.hexDigit? c = some d) (hd : d < 10) : c.isDigit = true := by
  rw [Escape.hexDigit?] at h
  split_ifs at h with h₁ h₂ h₃
  · simpa [Char.isDigit, Char.le_def] using h₁
  · have hv := Option.some.inj h
    omega
  · have hv := Option.some.inj h
    omega

lemma spanDigits_of_stops (h : Stops cs) : spanDigits 10 true cs = some ([], cs) := by
  cases cs with
  | nil => rfl
  | cons c cs =>
    obtain ⟨hd, -⟩ := h c rfl
    simp only [isDecimalChar, Bool.or_eq_false_iff, decide_eq_false_iff_not] at hd
    rw [spanDigits, if_neg hd.2]
    cases hx : Escape.hexDigit? c with
    | none => rfl
    | some d =>
      -- the character may be a digit of base sixteen, but it is none of base ten
      have hlt : ¬ d < 10 := fun h => by simp [isDigit_of_hexDigit? hx h] at hd
      simp [hlt, hd]

lemma spanDigits_append (hb : ∀ x ∈ body, x.isDigit = true) (h : Stops cs) (found : Bool)
    (hf : found = true ∨ body ≠ []) : spanDigits 10 found (body ++ cs) = some (body, cs) := by
  induction body generalizing found with
  | nil =>
    obtain rfl : found = true := by simpa using hf
    exact spanDigits_of_stops h
  | cons x xs ih =>
    obtain ⟨d, hd, hx⟩ := hexDigit?_of_isDigit (hb x (by simp))
    have hr := ih (fun y hy => hb y (by simp [hy])) true (Or.inl rfl)
    rw [List.cons_append, spanDigits, if_neg (ne_of_pred (hb x (by simp)) (by decide))]
    simp [hx, hd, hr]

lemma spanInteger_eq (h : ∀ x ∈ cs.tail.head?, x ∉ ['x', 'o', 'b']) : spanInteger cs = spanDigits 10 false cs := by
  rw [spanInteger]
  all_goals
    rintro digits rfl
    simp at h

lemma spanInteger_append (hb : ∀ x ∈ body, x.isDigit = true) (hn : body ≠ []) (h : Stops cs) :
    spanInteger (body ++ cs) = some (body, cs) := by
  rw [spanInteger_eq, spanDigits_append hb h false (Or.inr hn)]
  obtain ⟨d, ds, rfl⟩ := List.exists_cons_of_ne_nil hn
  intro x hx
  cases ds with
  | nil =>
    have hm := (h x hx).2
    simp only [List.mem_cons, List.not_mem_nil, or_false, not_or] at hm ⊢
    exact ⟨hm.2.2.2.1, hm.2.2.2.2.1, hm.2.2.2.2.2⟩
  | cons d' ds =>
    obtain rfl : d' = x := by simpa using hx
    have hd := hb d' (by simp)
    exact notMem_of_pred hd (by decide)

lemma span_isDecimalChar (hb : ∀ x ∈ body, x.isDigit = true)
    (h : ∀ c, cs.head? = some c → isDecimalChar c = false) :
    (body ++ cs).takeWhile isDecimalChar = body ∧ (body ++ cs).dropWhile isDecimalChar = cs := by
  have hd : ∀ x ∈ body, isDecimalChar x = true := fun x hx => by simp [isDecimalChar, hb x hx]
  rw [List.takeWhile_append_of_pos hd, List.dropWhile_append_of_pos hd]
  cases cs with
  | nil => simp
  | cons c cs => simp [h c rfl]

lemma spanScaled_of_stops (h : Stops cs) (before : List Char) (point : Bool) :
    spanScaled before point cs = if point then some (before, cs) else none := by
  cases cs with
  | nil => rfl
  | cons c cs =>
    have hc := (h c rfl).2
    simp only [List.mem_cons, List.not_mem_nil, or_false, not_or] at hc
    simp [spanScaled, hc]

lemma spanFloat_whole (hb : ∀ x ∈ body, x.isDigit = true) (h : Stops cs) : spanFloat (body ++ cs) = none := by
  obtain ⟨htake, hdrop⟩ := span_isDecimalChar hb fun c hc => (h c hc).1
  rw [spanFloat, htake, hdrop]
  split
  · exact absurd (h '.' rfl).2 (by decide)
  · exact spanScaled_of_stops h body false

lemma spanFloat_point (hw : ∀ x ∈ whole, x.isDigit = true) (hf : ∀ x ∈ fraction, x.isDigit = true)
    (hn : fraction ≠ []) (h : Stops cs) :
    spanFloat (whole ++ '.' :: (fraction ++ cs)) = some (whole ++ '.' :: fraction, cs) := by
  have hdot : ∀ c, ('.' :: (fraction ++ cs)).head? = some c → isDecimalChar c = false := by
    intro c hc
    obtain rfl := Option.some.inj hc
    decide
  obtain ⟨hwhole, hpoint⟩ := span_isDecimalChar hw hdot
  obtain ⟨hfraction, hrest⟩ := span_isDecimalChar hf fun c hc => (h c hc).1
  have hhead : ((fraction ++ cs).head?.any fun c => c = '.' || Text.isIdentifierStart c) = false := by
    obtain ⟨d, ds, rfl⟩ := List.exists_cons_of_ne_nil hn
    have hd := hf d (by simp)
    have hp : d ≠ '.' := ne_of_pred hd (by decide)
    simp [hp, isIdentifierStart_of_isDigit hd]
  simp only [spanFloat, hwhole, hpoint, hfraction, hrest, hhead, spanScaled_of_stops h]
  simp

lemma spanNumber_append (hb : PlainDecimal body) (hs : Stops cs) (hc : withSuffix (body, cs) = some (text, rest)) :
    spanNumber (body ++ cs) = some (text, rest) := by
  cases hb with
  | whole nonempty allDigits =>
    rw [spanNumber, spanFloat_whole allDigits hs, spanInteger_append allDigits nonempty hs]
    exact hc
  | point whole_nonempty fraction_nonempty whole_digits fraction_digits =>
    rw [spanNumber, List.append_assoc, List.cons_append,
      spanFloat_point whole_digits fraction_digits fraction_nonempty hs, Option.bind_some, hc]

lemma literal?_digit (h : c.isDigit = true) :
    literal? (c :: cs) = (spanNumber (c :: cs)).map fun (body, rest) => (⟨String.ofList body⟩, rest) := by
  have hc : c ∉ ['"', '\'', 'b', 'c', 'r'] := notMem_of_pred h (by decide)
  simp only [List.mem_cons, List.not_mem_nil, or_false, not_or] at hc
  rw [literal?, if_pos h]
  all_goals simp [hc]

lemma next?_number (hb : PlainDecimal body) (hs : Suffix suffix ∨ suffix = []) (hr : Ends rest) :
    next? (body ++ (suffix ++ rest)) = some ([.leaf (.literal ⟨String.ofList (body ++ suffix)⟩)], rest) := by
  have hn : spanNumber (body ++ (suffix ++ rest)) = some (body ++ suffix, rest) := by
    rcases hs with hs | rfl
    · exact spanNumber_append hb (stops_of_suffix hs rest) (withSuffix_append body hs hr)
    · rw [List.append_nil]
      exact spanNumber_append hb (stops_of_ends hr) (withSuffix_of_ends body hr)
  obtain ⟨c, cs, rfl, hd⟩ := hb.head
  rw [List.cons_append] at hn ⊢
  refine next?_of_literal (notMem_of_pred hd (by decide)) (ne_of_pred hd (by decide)) ?_
  rw [literal?_digit hd, hn]
  rfl

end Numbers

section Quoted

def Passes (segment : List Char) : Prop :=
  ∀ rest, spanQuoted '"' (segment ++ rest) = (spanQuoted '"' rest).map fun (body, after) => (segment ++ body, after)

lemma Passes.append (hx : Passes xs) (hy : Passes ys) : Passes (xs ++ ys) := by
  intro rest
  rw [List.append_assoc, hx, hy, Option.map_map]
  simp [Function.comp_def]

lemma passes_plain (h : ∀ x ∈ xs, x ≠ '"' ∧ x ≠ '\\') : Passes xs := by
  intro rest
  induction xs with
  | nil => simp
  | cons x xs ih =>
    obtain ⟨hq, hb⟩ := h x (by simp)
    rw [List.cons_append, spanQuoted, if_neg hq, ih fun y hy => h y (by simp [hy]), Option.map_map]
    · rfl
    · simp [hb]

lemma passes_pair (c : Char) : Passes ['\\', c] := by
  intro rest
  simp [spanQuoted]

lemma digitChar_of_mem_toDigits {n : ℕ} (h : c ∈ Nat.toDigits 16 n) : ∃ d < 16, c = d.digitChar := by
  induction n using Nat.strongRecOn with
  | ind n ih =>
    rw [Nat.toDigits_eq_if (by decide)] at h
    split at h
    · rename_i hn
      exact ⟨n, hn, by simpa using h⟩
    · rcases List.mem_append.mp h with h | h
      · exact ih (n / 16) (by omega) h
      · exact ⟨n % 16, by omega, by simpa using h⟩

lemma passes_codePoint (c : Char) : Passes (Escape.codePoint c) := by
  have hhex : ∀ d < 16, d.digitChar ≠ '"' ∧ d.digitChar ≠ '\\' := by decide
  have hdigits : Passes (Nat.toDigits 16 c.toNat) := by
    refine passes_plain fun x hx => ?_
    obtain ⟨d, hd, rfl⟩ := digitChar_of_mem_toDigits hx
    exact hhex d hd
  have hopen : Passes ['{'] := passes_plain (by simp)
  have hclose : Passes ['}'] := passes_plain (by simp)
  have htext : Escape.codePoint c = ['\\', 'u'] ++ (['{'] ++ (Nat.toDigits 16 c.toNat ++ ['}'])) := by
    simp [Escape.codePoint]
  rw [htext]
  exact (passes_pair 'u').append (hopen.append (hdigits.append hclose))

lemma passes_encodeChar (c : Char) : Passes (Escape.encodeChar c) := by
  rw [Escape.encodeChar]
  split_ifs with hq hb
  · exact passes_pair _
  · exact passes_pair _
  · exact passes_pair _
  · exact passes_pair _
  · exact passes_pair _
  · exact passes_plain (by simp [hq, hb])
  · exact passes_codePoint c

lemma passes_encodeNul (after : List Char) : Passes (Escape.encodeNul after) := by
  have hdigits : Passes ['0', '0'] := passes_plain (by simp)
  rw [Escape.encodeNul]
  split
  · split
    · exact (passes_pair 'x').append hdigits
    · exact passes_pair _
  · exact passes_pair _

lemma passes_encode (cs : List Char) : Passes (Escape.encode cs) := by
  induction cs with
  | nil => exact passes_plain (by simp [Escape.encode])
  | cons c cs ih =>
    rw [Escape.encode]
    split
    · exact (passes_encodeNul cs).append ih
    · exact (passes_encodeChar c).append ih

lemma quotedLiteral_of_ends (letters body : List Char) (hr : Ends rest) :
    quotedLiteral letters (some (body, rest)) = some (⟨String.ofList (letters ++ body)⟩, rest) := by
  cases rest with
  | nil => rfl
  | cons c cs => simp [quotedLiteral, hr.head]

lemma next?_string (s : String) (hr : Ends rest) :
    next? ((Literal.ofString s).text.toList ++ rest) = some ([.leaf (.literal (.ofString s))], rest) := by
  have hspan : spanQuoted '"' (Escape.encode s.toList ++ '"' :: rest) =
      some (Escape.encode s.toList ++ ['"'], rest) := by
    rw [passes_encode s.toList]
    simp [spanQuoted]
  have htext : (Literal.ofString s).text.toList ++ rest = '"' :: (Escape.encode s.toList ++ '"' :: rest) := by
    simp [Literal.ofString]
  rw [htext]
  refine next?_of_literal (by decide) (by decide) ?_
  rw [literal?, hspan, quotedLiteral_of_ends _ _ hr]
  rfl

end Quoted

end CommandLine.Source.Lexer
