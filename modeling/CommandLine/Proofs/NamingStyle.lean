import CommandLine.Proofs.Label

/-! Styles of writing words as one name, which all come to the same label. -/

namespace CommandLine

open Text Label

structure IsWord (w : List Char) : Prop where
  small : ∀ c ∈ w, isSmall c = true
  letter : w.head?.any Char.isLower = true

instance (w : List Char) : Decidable (IsWord w) :=
  decidable_of_iff (w.all isSmall = true ∧ w.head?.any Char.isLower = true)
    ⟨fun h => ⟨List.all_eq_true.mp h.1, h.2⟩, fun h => ⟨List.all_eq_true.mpr h.small, h.letter⟩⟩

lemma IsWord.exists_cons {w : List Char} (h : IsWord w) : ∃ c cs, w = c :: cs ∧ c.isLower = true := by
  cases w with
  | nil => cases h.letter
  | cons c cs => exact ⟨c, cs, rfl, h.letter⟩

def capital : List Char → List Char
  | [] => []
  | c :: cs => c.toUpper :: cs

inductive NamingStyle
  | snake | kebab | spaced | camel | pascal
  deriving DecidableEq, Repr

namespace NamingStyle

def capitalize (w : String) : String :=
  String.ofList (capital w.toList)

def write : NamingStyle → List String → String
  | snake, ws => "_".intercalate ws
  | kebab, ws => "-".intercalate ws
  | spaced, ws => " ".intercalate ws
  | camel, [] => ""
  | camel, w :: ws => String.join (w :: ws.map capitalize)
  | pascal, ws => String.join (ws.map capitalize)

variable {c : Char} {before : Option Char} {w : List Char} {ws : List (List Char)}

lemma pieces_of_small (h : ∀ c ∈ w, isSmall c = true) (before : Option Char) : pieces before w = w := by
  induction w generalizing before with
  | nil => rfl
  | cons c w ih =>
    obtain ⟨hc, hw⟩ := List.forall_mem_cons.mp h
    rw [pieces, piece_small hc, ih hw]
    rfl

lemma capital_of_isLower (h : c.isLower = true) : c.toUpper.isUpper = true ∧ c.toUpper.toLower = c :=
  forall_ascii (p := fun c => c.isLower = true → c.toUpper.isUpper = true ∧ c.toUpper.toLower = c)
    (by decide +kernel) (toNat_of_isSmall (by simp [isSmall, h])) h

lemma pieces_capital (h : IsWord w) (before : Option Char) :
    pieces before (capital w) = (if before.any isSmall then ['-'] else []) ++ w := by
  obtain ⟨c, cs, rfl, hc⟩ := h.exists_cons
  obtain ⟨hu, hl⟩ := capital_of_isLower hc
  rw [capital, pieces, piece_upper hu, hl, pieces_of_small fun x hx => h.small x (List.mem_cons_of_mem _ hx),
    List.append_assoc]
  rfl

lemma any_getLast?_word (h : IsWord w) (before : Option Char) : (w.getLast?.or before).any isSmall = true := by
  obtain ⟨c, cs, rfl, -⟩ := h.exists_cons
  rw [List.getLast?_eq_some_getLast (List.cons_ne_nil c cs), Option.some_or, Option.any_some]
  exact h.small _ (List.getLast_mem _)

lemma any_getLast?_capital (h : IsWord w) (long : 2 ≤ w.length) (before : Option Char) :
    ((capital w).getLast?.or before).any isSmall = true := by
  obtain ⟨c, cs, rfl, -⟩ := h.exists_cons
  cases cs with
  | nil => simp at long
  | cons d ds =>
    rw [capital, List.getLast?_cons_cons, List.getLast?_eq_some_getLast (List.cons_ne_nil d ds), Option.some_or,
      Option.any_some]
    exact h.small _ (List.mem_cons_of_mem _ (List.getLast_mem _))

lemma pieces_separated (hc : isSeparator c = true) (words : ∀ w ∈ ws, IsWord w) (before : Option Char) :
    pieces before ([c].intercalate ws) = ['-'].intercalate ws := by
  induction ws generalizing before with
  | nil => rfl
  | cons w ws ih =>
    obtain ⟨hw, hws⟩ := List.forall_mem_cons.mp words
    cases ws with
    | nil => rw [List.intercalate_singleton, List.intercalate_singleton, pieces_of_small hw.small]
    | cons v vs =>
      rw [List.intercalate_cons_cons, List.intercalate_cons_cons, pieces_append, pieces_append,
        pieces_of_small hw.small, pieces, piece_separator hc, ih hws]
      rfl

lemma pieces_capitals (words : ∀ v ∈ w :: ws, IsWord v) (long : ∀ v ∈ (w :: ws).dropLast, 2 ≤ v.length)
    (before : Option Char) : pieces before ((w :: ws).flatMap capital) =
      (if before.any isSmall then ['-'] else []) ++ ['-'].intercalate (w :: ws) := by
  induction ws generalizing w before with
  | nil =>
    rw [List.flatMap_singleton, pieces_capital (words w List.mem_cons_self), List.intercalate_singleton]
  | cons v vs ih =>
    obtain ⟨hw, hws⟩ := List.forall_mem_cons.mp words
    obtain ⟨hlong, hlongs⟩ := List.forall_mem_cons.mp long
    rw [List.flatMap_cons, pieces_append, pieces_capital hw, ih hws hlongs,
      if_pos (any_getLast?_capital hw hlong before), List.intercalate_cons_cons]
    simp only [List.append_assoc]

lemma pieces_camel (words : ∀ v ∈ w :: ws, IsWord v) (long : ∀ v ∈ (w :: ws).dropLast, 2 ≤ v.length) :
    pieces none (w ++ ws.flatMap capital) = ['-'].intercalate (w :: ws) := by
  obtain ⟨hw, hws⟩ := List.forall_mem_cons.mp words
  rw [pieces_append, pieces_of_small hw.small]
  cases ws with
  | nil => simp [pieces]
  | cons v vs =>
    obtain ⟨-, hlongs⟩ := List.forall_mem_cons.mp long
    rw [pieces_capitals hws hlongs, if_pos (any_getLast?_word hw none), List.intercalate_cons_cons, List.append_assoc]

section Ascii

lemma ascii_capital (h : IsWord w) : ∀ x ∈ capital w, x.toNat < 0x80 := by
  obtain ⟨c, cs, rfl, hc⟩ := h.exists_cons
  intro x hx
  rcases List.mem_cons.mp hx with rfl | hx
  · exact toNat_of_isUpper (capital_of_isLower hc).1
  · exact toNat_of_isSmall (h.small x (List.mem_cons_of_mem _ hx))

lemma ascii_capitals (words : ∀ w ∈ ws, IsWord w) : ∀ x ∈ ws.flatMap capital, x.toNat < 0x80 := by
  intro x hx
  obtain ⟨w, hw, hx⟩ := List.mem_flatMap.mp hx
  exact ascii_capital (words w hw) x hx

end Ascii

lemma toList_capitalized (ws : List String) :
    (String.join (ws.map capitalize)).toList = (ws.map String.toList).flatMap capital := by
  rw [String.toList_join, List.flatMap_map, List.flatMap_map]
  simp only [capitalize, String.toList_ofList]

lemma toList_camel (w : String) (ws : List String) :
    (camel.write (w :: ws)).toList = w.toList ++ (ws.map String.toList).flatMap capital := by
  rw [write, String.toList_join, List.flatMap_cons, ← String.toList_join, toList_capitalized]

lemma toList_write {ws : List String} (words : ∀ w ∈ ws.map String.toList, IsWord w)
    (long : ∀ w ∈ (ws.map String.toList).dropLast, 2 ≤ w.length) (style : NamingStyle) :
    (∀ x ∈ (style.write ws).toList, x.toNat < 0x80) ∧
      pieces none (style.write ws).toList = ['-'].intercalate (ws.map String.toList) := by
  have hsmall : ∀ w ∈ ws.map String.toList, ∀ x ∈ w, x.toNat < 0x80 :=
    fun w hw x hx => toNat_of_isSmall ((words w hw).small x hx)
  cases style with
  | snake =>
    rw [write, String.toList_intercalate]
    exact ⟨Words.forall_mem_intercalate (by decide) hsmall, pieces_separated (by decide) words none⟩
  | kebab =>
    rw [write, String.toList_intercalate]
    exact ⟨Words.forall_mem_intercalate (by decide) hsmall, pieces_separated (by decide) words none⟩
  | spaced =>
    rw [write, String.toList_intercalate]
    exact ⟨Words.forall_mem_intercalate (by decide) hsmall, pieces_separated (by decide) words none⟩
  | camel =>
    cases ws with
    | nil => exact ⟨by simp [write], rfl⟩
    | cons w ws =>
      rw [toList_camel]
      refine ⟨?_, pieces_camel words long⟩
      intro x hx
      rcases List.mem_append.mp hx with hx | hx
      · exact hsmall _ List.mem_cons_self x hx
      · exact ascii_capitals (fun v hv => words v (List.mem_cons_of_mem _ hv)) x hx
  | pascal =>
    rw [write, toList_capitalized]
    refine ⟨ascii_capitals words, ?_⟩
    cases ws with
    | nil => rfl
    | cons w ws => exact pieces_capitals words long none

/-- Words have one label in all the styles, if no word but the last is a single letter. -/
theorem long_write {ws : List String} (words : ∀ w ∈ ws, IsWord w.toList)
    (long : ∀ w ∈ ws.dropLast, 2 ≤ w.length) (style : NamingStyle) :
    Label.long (style.write ws) = "-".intercalate ws := by
  have hwords : ∀ w ∈ ws.map String.toList, IsWord w := List.forall_mem_map.mpr words
  have hlong : ∀ w ∈ (ws.map String.toList).dropLast, 2 ≤ w.length := by
    rw [← List.map_dropLast]
    exact List.forall_mem_map.mpr long
  obtain ⟨ascii, hpieces⟩ := toList_write hwords hlong style
  rw [← String.toList_inj, toList_long ascii, hpieces, String.toList_intercalate]
  rfl

theorem long_http2ServerX : NamingStyle.pascal.write ["http2", "server", "x"] = "Http2ServerX" ∧
    Label.long "Http2ServerX" = "http2-server-x" ∧ Label.long "http2ServerX" = "http2-server-x" ∧
    Label.long "http2_server_x" = "http2-server-x" := by
  have words : ∀ w ∈ ["http2", "server", "x"], IsWord w.toList := by decide +kernel
  have long : ∀ w ∈ ["http2", "server", "x"].dropLast, 2 ≤ w.length := by decide +kernel
  have hpascal : NamingStyle.pascal.write ["http2", "server", "x"] = "Http2ServerX" := by decide +kernel
  have hcamel : NamingStyle.camel.write ["http2", "server", "x"] = "http2ServerX" := by decide +kernel
  have hsnake : NamingStyle.snake.write ["http2", "server", "x"] = "http2_server_x" := by decide +kernel
  have hkebab : "-".intercalate ["http2", "server", "x"] = "http2-server-x" := by decide +kernel
  have hlong := long_write words long
  rw [hkebab] at hlong
  exact ⟨hpascal, hpascal ▸ hlong .pascal, hcamel ▸ hlong .camel, hsnake ▸ hlong .snake⟩

-- a single letter and the capital behind it are a run
example : Label.long (NamingStyle.pascal.write ["a", "bc"]) = "abc" := by decide +kernel

end NamingStyle

end CommandLine
