import CommandLine.Source.Lexer
import Mathlib.Data.List.TakeWhile
import Mathlib.Tactic.Common

namespace CommandLine.Source

namespace Ident

variable {c : Char} {cs rest : List Char} {name : String} {i j : Ident}

def IsSpelled (i : Ident) : Prop :=
  ofText? i.text = some i

instance (i : Ident) : Decidable i.IsSpelled :=
  inferInstanceAs (Decidable (_ = _))

lemma IsSpelled.text_inj (hi : i.IsSpelled) (hj : j.IsSpelled) (h : i.text = j.text) : i = j :=
  Option.some.inj (hi.symm.trans ((congrArg ofText? h).trans hj))

lemma spanName_eq (hc : Text.isIdentifierStart c = true) (h : ∀ x ∈ cs, Text.isIdentifierContinue x = true) :
    spanName (c :: cs) = some (String.ofList (c :: cs), []) := by
  rw [spanName, if_pos hc, List.takeWhile_eq_self_iff.mpr h, List.dropWhile_eq_nil_iff.mpr h]

lemma spanName_eq_some (h : spanName cs = some (name, rest)) : ∃ c xs, name.toList = c :: xs ∧
    Text.isIdentifierStart c = true ∧ ∀ x ∈ xs, Text.isIdentifierContinue x = true := by
  cases cs with
  | nil => cases h
  | cons c cs =>
    rw [spanName] at h
    split_ifs at h with hc
    obtain ⟨rfl, -⟩ := Prod.mk.inj (Option.some.inj h)
    exact ⟨c, cs.takeWhile Text.isIdentifierContinue, String.toList_ofList, hc, fun x hx => List.mem_takeWhile_imp hx⟩

lemma append_of_spanName (h : spanName cs = some (name, rest)) : name.toList ++ rest = cs := by
  cases cs with
  | nil => cases h
  | cons c cs =>
    rw [spanName] at h
    split_ifs at h
    obtain ⟨rfl, rfl⟩ := Prod.mk.inj (Option.some.inj h)
    rw [String.toList_ofList, List.cons_append, List.takeWhile_append_dropWhile]

lemma isIdentifierContinue_of_start (h : Text.isIdentifierStart c = true) : Text.isIdentifierContinue c = true := by
  rw [Text.isIdentifierStart] at h
  rw [Text.isIdentifierContinue]
  split_ifs at h ⊢
  · rcases Bool.or_eq_true_iff.mp h with ha | hu
    · simp [Char.isAlphanum, ha]
    · simp [hu]
  · rw [h, Bool.true_or]

lemma chars_of_spanName (h : spanName cs = some (name, rest)) :
    ∀ x ∈ name.toList, Text.isIdentifierContinue x = true := by
  obtain ⟨c, xs, hn, hc, hx⟩ := spanName_eq_some h
  rw [hn]
  exact List.forall_mem_cons.mpr ⟨isIdentifierContinue_of_start hc, hx⟩

lemma spanName_name (h : spanName cs = some (name, rest)) : spanName name.toList = some (name, []) := by
  obtain ⟨c, xs, hn, hc, hx⟩ := spanName_eq_some h
  have hs := spanName_eq hc hx
  rwa [← hn, String.ofList_toList] at hs

lemma spanName_mark (xs : List Char) : spanName ('r' :: '#' :: xs) = some ("r", '#' :: xs) := by
  have hr : Text.isIdentifierStart 'r' = true := by decide
  have hm : Text.isIdentifierContinue '#' = false := by decide
  simp [spanName, hr, hm]

lemma span?_of_spanName (h : spanName cs = some (name, [])) : span? cs = some (⟨name, false⟩, []) := by
  have unmarked : ∀ xs, cs = 'r' :: '#' :: xs → False := by
    rintro xs rfl
    simp [spanName_mark] at h
  rw [span?, h]
  · rfl
  · exact unmarked

lemma toList_text_raw (name : String) : (text ⟨name, true⟩).toList = 'r' :: '#' :: name.toList :=
  String.toList_append

lemma span?_cases (h : span? cs = some (i, rest)) :
    (i.raw = false ∧ spanName cs = some (i.name, rest)) ∨
      i.raw = true ∧ i.name ∉ neverRaw ∧ ∃ xs, cs = 'r' :: '#' :: xs ∧ spanName xs = some (i.name, rest) := by
  rw [span?.eq_def] at h
  split at h
  · rename_i xs
    split at h
    · rename_i name after hs
      split_ifs at h with hn
      obtain ⟨rfl, rfl⟩ := Prod.mk.inj (Option.some.inj h)
      exact Or.inr ⟨rfl, hn, xs, rfl, hs⟩
    · cases h
  · obtain ⟨p, hs, hp⟩ := Option.map_eq_some_iff.mp h
    obtain ⟨rfl, rfl⟩ := Prod.mk.inj hp
    exact Or.inl ⟨rfl, hs⟩

lemma span?_text (hs : spanName i.name.toList = some (i.name, [])) (hn : i.raw = true → i.name ∉ neverRaw) :
    span? i.text.toList = some (i, []) := by
  obtain ⟨name, raw⟩ := i
  cases raw with
  | false => exact span?_of_spanName hs
  | true =>
    rw [toList_text_raw, span?]
    simp only [hs, if_neg (hn rfl)]

lemma isSpelled_of_span? (h : span? cs = some (i, rest)) : i.IsSpelled := by
  have hs : spanName i.name.toList = some (i.name, []) ∧ (i.raw = true → i.name ∉ neverRaw) := by
    rcases span?_cases h with ⟨hr, hs⟩ | ⟨-, hn, xs, -, hs⟩
    · refine ⟨spanName_name hs, fun ht => ?_⟩
      rw [hr] at ht
      cases ht
    · exact ⟨spanName_name hs, fun _ => hn⟩
  rw [IsSpelled, ofText?, span?_text hs.1 hs.2]

lemma IsSpelled.spanName (h : i.IsSpelled) : spanName i.name.toList = some (i.name, []) := by
  rw [IsSpelled, ofText?] at h
  split at h
  · rename_i hs
    obtain rfl := Option.some.inj h
    rcases span?_cases hs with ⟨-, hn⟩ | ⟨-, -, xs, -, hn⟩
    · exact spanName_name hn
    · exact spanName_name hn
  · cases h

lemma IsSpelled.notMem_neverRaw (h : i.IsSpelled) (hr : i.raw = true) : i.name ∉ neverRaw := by
  rw [IsSpelled, ofText?] at h
  split at h
  · rename_i hs
    obtain rfl := Option.some.inj h
    rcases span?_cases hs with ⟨hf, -⟩ | ⟨-, hm, -⟩
    · rw [hr] at hf
      cases hf
    · exact hm
  · cases h

lemma IsSpelled.chars (h : i.IsSpelled) : ∀ x ∈ i.name.toList, Text.isIdentifierContinue x = true :=
  chars_of_spanName h.spanName

lemma IsSpelled.plain? (h : i.IsSpelled) : plain? i.text = if i.raw then none else some i := by
  obtain ⟨name, raw⟩ := i
  cases raw with
  | false =>
    have hs : Ident.spanName name.toList = some (name, []) := h.spanName
    simp only [Ident.plain?, text, Bool.false_eq_true, ↓reduceIte, hs]
  | true => simp only [Ident.plain?, toList_text_raw, spanName_mark, ↓reduceIte]

end Ident

namespace Lexer

variable {cs rest : List Char} {ls : List Lexeme} {l : Lexeme} {ts before : List Tree} {i : Ident}

lemma punct?_isPunct {t : Tree} (h : punct? cs = some (t, rest)) : ∃ c joint, t = .punct c joint := by
  unfold punct? at h
  split at h
  · split at h
    · cases h
    · split_ifs at h
      cases h
      exact ⟨_, _, rfl⟩
    · cases h
      exact ⟨_, _, rfl⟩
    · cases h
  · split_ifs at h
    cases h
    exact ⟨_, _, rfl⟩
  · cases h

lemma docComment?_spelled (h : docComment? cs = some (ls, rest)) (hi : .leaf (.ident i) ∈ ls) : i.IsSpelled := by
  rw [docComment?] at h
  split at h
  · rename_i inner text after _
    obtain ⟨_, hd, he⟩ := Option.map_eq_some_iff.mp h
    obtain ⟨rfl, -⟩ := Prod.mk.inj he
    rw [docLexemes] at hd
    split_ifs at hd
    all_goals
      obtain rfl := Option.some.inj hd
      obtain rfl : i = ⟨"doc", false⟩ := by simpa using hi
      decide +kernel
  · cases h

lemma ident?_spelled (h : ident? cs = some (i, rest)) : i.IsSpelled := by
  rw [ident?] at h
  split_ifs at h
  exact Ident.isSpelled_of_span? h

lemma next?_spelled (h : next? cs = some (ls, rest)) (hi : .leaf (.ident i) ∈ ls) : i.IsSpelled := by
  unfold next? at h
  split at h
  case h_1 => split_ifs at h <;> cases h <;> simp at hi
  case h_7 =>
    split at h
    · rename_i hd
      rw [h] at hd
      exact docComment?_spelled hd hi
    · split at h
      · cases h
        simp at hi
      · split at h
        · rename_i hp
          obtain ⟨c, joint, rfl⟩ := punct?_isPunct hp
          cases h
          simp at hi
        · obtain ⟨⟨j, after⟩, hw, he⟩ := Option.map_eq_some_iff.mp h
          obtain ⟨rfl, -⟩ := Prod.mk.inj he
          obtain rfl : i = j := by simpa using hi
          exact ident?_spelled hw
  all_goals
    cases h
    simp at hi

lemma lexemes_spelled (h : lexemes cs = some ls) (hi : .leaf (.ident i) ∈ ls) : i.IsSpelled := by
  fun_induction lexemes cs generalizing ls with
  | case1 =>
    cases h
    cases hi
  | case2 => cases h
  | case3 cs c after _ ls' rest hn _ ih =>
    obtain ⟨ls'', hl, rfl⟩ := Option.map_eq_some_iff.mp h
    rcases List.mem_append.mp hi with hi | hi
    · exact next?_spelled hn hi
    · exact ih hl hi
  | case4 => cases h

lemma mem_nest {outer : List (Delimiter × List Tree)} {p : Tree → Prop} (group : ∀ d us, p (.group d us))
    (leaf : ∀ t, .leaf t ∈ ls → p t) (behind : ∀ t ∈ before, p t) (above : ∀ o ∈ outer, ∀ t ∈ o.2, p t)
    (h : nest outer before ls = some ts) : ∀ t ∈ ts, p t := by
  induction ls generalizing outer before with
  | nil =>
    rw [nest] at h
    split_ifs at h
    obtain rfl := Option.some.inj h
    intro t ht
    exact behind t (List.mem_reverse.mp ht)
  | cons l ls ih =>
    have hls : ∀ t, .leaf t ∈ ls → p t := fun t ht => leaf t (List.mem_cons_of_mem _ ht)
    cases l with
    | opening d =>
      refine ih hls ?_ ?_ h
      · simp
      · exact List.forall_mem_cons.mpr ⟨behind, above⟩
    | leaf t => exact ih hls (List.forall_mem_cons.mpr ⟨leaf t List.mem_cons_self, behind⟩) above h
    | closing d =>
      cases outer with
      | nil => cases h
      | cons o outer =>
        obtain ⟨ho, above⟩ := List.forall_mem_cons.mp above
        rw [nest] at h
        split_ifs at h
        exact ih hls (List.forall_mem_cons.mpr ⟨group d _, ho⟩) above h

end Lexer

lemma isSpelled_of_singleIdent? {s : String} {i : Ident} (h : singleIdent? s = some i) : i.IsSpelled := by
  rw [singleIdent?] at h
  split at h
  · rename_i ht
    obtain rfl := Option.some.inj h
    obtain ⟨ls, hl, hn⟩ := Option.bind_eq_some_iff.mp ht
    have hall := Lexer.mem_nest (p := fun t => ∀ i, t = .ident i → i.IsSpelled) (by simp)
      (fun t ht i hi => Lexer.lexemes_spelled hl (hi ▸ ht)) (by simp) (by simp) hn
    exact hall _ (List.mem_singleton.mpr rfl) _ rfl
  · cases h

end CommandLine.Source
