import CommandLine.Emission.Reader
import CommandLine.Proofs.Emission.Simulation
import CommandLine.Proofs.Initializer
import CommandLine.Proofs.Source.Legible

/-! Initializers as constant expressions: numbers of a given type, truth values, and texts. -/

namespace CommandLine

open Source

namespace Source.Row

def spanPath : Row → List String × Row
  | .punct ':' true :: .punct ':' _ :: .ident i :: ts => (i.text :: (spanPath ts).1, (spanPath ts).2)
  | ts => ([], ts)

lemma ofPath_cons (name : String) (names : List String) (ts : Row) : ofPath (name :: names) ++ ts =
    .punct ':' true :: .punct ':' false :: .ident ⟨name, false⟩ :: (ofPath names ++ ts) := rfl

lemma spanPath_ofPath (names : List String) {ts : Row} (h : spanPath ts = ([], ts)) :
    spanPath (ofPath names ++ ts) = (names, ts) := by
  induction names with
  | nil => exact h
  | cons name names ih =>
    rw [ofPath_cons, spanPath, ih]
    rfl

end Source.Row

def number? (negative : Bool) (l : Literal) : Option (Kind × Value) :=
  let body := l.text.toList.takeWhile isDecimalPart
  match Kind.ofName? (String.ofList (l.text.toList.dropWhile isDecimalPart)) with
  | some (.integer t) =>
    let n := IntegerType.signed negative (Decimal.digitsValue body)
    if '.' ∉ body ∧ t.Holds n ∧ (negative = true → t.isSigned = true) then
      some (.integer t, .integer n)
    else
      none
  | some (.float w) =>
    match w.readChars body with
    | .ok x => some (.float w, .float w (if negative then x.negate else x))
    | .error _ => none
  | _ => none

def truth? (i : Ident) : Option (Kind × Value) :=
  if i = ⟨"true", false⟩ then some (.boolean, .boolean true)
  else if i = ⟨"false", false⟩ then some (.boolean, .boolean false)
  else none

def constant? (ts : Row) : Option (Kind × Value) :=
  match ts with
  | [.literal l] => number? false l
  | [.punct '-' _, .literal l] => number? true l
  | [.ident i] => truth? i
  | ts =>
    match Row.spanPath ts with
    | (["std", "string", "String", "from"], [.group .parenthesis [.literal l]]) =>
      l.stringValue?.map fun s => (.text, .text s)
    | _ => none

variable {body suffix digits : List Char} {t : IntegerType} {w : FloatWidth} {n : ℤ} {x : FloatValue} {k : Kind}
  {v : Value} {source : String}

lemma constant?_of_path {ts : Row} {l : Literal} (hn : 2 < ts.length)
    (h : Row.spanPath ts = (["std", "string", "String", "from"], [.group .parenthesis [.literal l]])) :
    constant? ts = l.stringValue?.map fun s => (.text, .text s) := by
  rw [constant?, h]
  all_goals
    intros
    simp_all

lemma constant?_ofNumber (negative : Bool) (text : String) :
    constant? (Row.ofNumber negative text) = number? negative ⟨text⟩ := by
  cases negative <;> rfl

lemma isDecimalPart_of_plain (h : Lexer.PlainDecimal body) : ∀ c ∈ body, isDecimalPart c = true := by
  have hdigit : ∀ c : Char, c.isDigit = true → isDecimalPart c = true := fun c hc => by simp [isDecimalPart, hc]
  intro c hc
  cases h with
  | whole nonempty allDigits => exact hdigit c (allDigits c hc)
  | point whole_nonempty fraction_nonempty whole_digits fraction_digits =>
    rcases List.mem_append.mp hc with hc | hc
    · exact hdigit c (whole_digits c hc)
    · rcases List.mem_cons.mp hc with rfl | hc
      · decide
      · exact hdigit c (fraction_digits c hc)

lemma span_number (hb : Lexer.PlainDecimal body) (hs : Lexer.Suffix suffix) :
    (body ++ suffix).takeWhile isDecimalPart = body ∧ (body ++ suffix).dropWhile isDecimalPart = suffix := by
  obtain ⟨c, cs, rfl, hc, -, -⟩ := hs
  have hp : c ≠ '.' := Lexer.ne_of_pred hc (by decide)
  have hd : isDecimalPart c = false := by simp [isDecimalPart, Lexer.isDigit_of_isAlpha hc, hp]
  have hall := isDecimalPart_of_plain hb
  rw [List.takeWhile_append_of_pos hall, List.dropWhile_append_of_pos hall]
  simp [hd]

lemma number?_eq {name : String} (hb : Lexer.PlainDecimal body) (hs : Lexer.Suffix name.toList) (negative : Bool) :
    number? negative ⟨String.ofList body ++ name⟩ =
      match Kind.ofName? name with
      | some (.integer t) =>
        let n := IntegerType.signed negative (Decimal.digitsValue body)
        if '.' ∉ body ∧ t.Holds n ∧ (negative = true → t.isSigned = true) then
          some (.integer t, .integer n)
        else
          none
      | some (.float w) =>
        match w.readChars body with
        | .ok x => some (.float w, .float w (if negative then x.negate else x))
        | .error _ => none
      | _ => none := by
  obtain ⟨hbody, hsuffix⟩ := span_number hb hs
  have htext : (String.ofList body ++ name).toList = body ++ name.toList := by simp
  simp only [number?, htext, hbody, hsuffix, String.ofList_toList]

lemma IntegerType.suffix_name (t : IntegerType) : Lexer.Suffix t.name.toList := by
  cases t <;> exact ⟨_, _, rfl, by decide, by decide, List.all_eq_true.mp (by decide)⟩

lemma FloatWidth.suffix_name (w : FloatWidth) : Lexer.Suffix w.name.toList := by
  cases w <;> exact ⟨_, _, rfl, by decide, by decide, List.all_eq_true.mp (by decide)⟩

lemma IntegerType.ofName?_name (t : IntegerType) : Kind.ofName? t.name = some (.integer t) := by
  cases t <;> decide

lemma FloatWidth.ofName?_name (w : FloatWidth) : Kind.ofName? w.name = some (.float w) := by
  cases w <;> decide

lemma number?_integer (hd : ∀ c ∈ digits, c.isDigit = true) (hn : digits ≠ []) {negative : Bool}
    (h : n = IntegerType.signed negative (Decimal.digitsValue digits)) (hh : t.Holds n)
    (hs : negative = true → t.isSigned = true) :
    number? negative ⟨String.ofList digits ++ t.name⟩ = some (.integer t, .integer n) := by
  have hpoint : '.' ∉ digits := fun hp => by simpa using hd '.' hp
  rw [number?_eq (.whole hn hd) t.suffix_name, t.ofName?_name]
  simp only [← h]
  exact if_pos ⟨hpoint, hh, hs⟩

lemma number?_float (hb : Lexer.PlainDecimal digits) {negative : Bool} {y : FloatValue}
    (hr : w.readChars digits = .ok y) (h : x = if negative then y.negate else y) :
    number? negative ⟨String.ofList digits ++ w.name⟩ = some (.float w, .float w x) := by
  rw [number?_eq hb w.suffix_name, w.ofName?_name]
  simp only [hr, h]

namespace Initializer

lemma renderAll_ofPath {name : String} {names : List String} {ts : Row} (h : ts ≠ []) :
    Tree.renderAll (Row.ofPath (name :: names) ++ ts) =
      ":: " ++ name ++ " " ++ Tree.renderAll (Row.ofPath names ++ ts) := by
  rw [Row.ofPath_cons]
  simp [Tree.renderAll, Tree.render, Tree.isGlued, Ident.text, h, ← String.toList_inj]

lemma renderAll_text (l : Literal) :
    Tree.renderAll (text l).trees = ":: std :: string :: String :: from (" ++ l.text ++ ")" := by
  have ht : (text l).trees =
      Row.ofPath ["std", "string", "String", "from"] ++ [.group .parenthesis [.literal l]] := rfl
  have hn : [Tree.group .parenthesis [.literal l]] ≠ [] := by simp
  rw [ht, renderAll_ofPath hn, renderAll_ofPath hn, renderAll_ofPath hn, renderAll_ofPath hn]
  simp [Row.ofPath, Tree.renderAll, Tree.render, Tree.isGlued, Tree.enclose, ← String.toList_inj]

lemma renderAll_ofNumber (negative : Bool) (s : String) :
    Tree.renderAll (Row.ofNumber negative s) = signed negative s := by
  cases negative <;> simp [Row.ofNumber, Tree.renderAll, Tree.render, Tree.isGlued, signed]

lemma renderAll_trees (i : Initializer) : Tree.renderAll i.trees = i.render := by
  cases i with
  | unset => decide +kernel
  | text l => exact renderAll_text l
  | integer negative digits t => exact renderAll_ofNumber negative _
  | float negative digits w => exact renderAll_ofNumber negative _
  | boolean b => cases b <;> rfl

def Written : Initializer → Prop
  | text l => ∃ s, l = .ofString s
  | integer _ digits _ => Lexer.PlainDecimal digits.toList
  | float _ digits _ => Lexer.PlainDecimal digits.toList
  | _ => True

lemma legible_ofNumber {digits name : String} (hb : Lexer.PlainDecimal digits.toList)
    (hs : Lexer.Suffix name.toList) (negative : Bool) : Tree.LegibleRow (Row.ofNumber negative (digits ++ name)) := by
  have hl : (Tree.literal ⟨digits ++ name⟩).Legible :=
    Or.inr ⟨digits.toList, name.toList, String.toList_append, hb, Or.inl hs⟩
  have hrow : Tree.LegibleRow [.literal ⟨digits ++ name⟩] := Tree.legibleRow_cons hl rfl trivial
  cases negative with
  | false => exact hrow
  | true =>
    have hminus : '-' ∈ Lexer.signs ∧ '-' ≠ '/' := by decide
    exact Tree.legibleRow_cons hminus rfl hrow

lemma Written.legible {i : Initializer} (h : i.Written) : Tree.LegibleRow i.trees := by
  cases i with
  | unset => exact Tree.legible_plain _ (by decide)
  | text l =>
    obtain ⟨s, rfl⟩ := h
    have hl : Tree.LegibleRow [.literal (.ofString s)] := Tree.legibleRow_cons (Or.inl ⟨s, rfl⟩) rfl trivial
    exact .append (Tree.legible_plain _ (by decide)) (Tree.legible_ofGroup hl)
  | integer negative digits t => exact legible_ofNumber h t.suffix_name negative
  | float negative digits w => exact legible_ofNumber h w.suffix_name negative
  | boolean b => cases b <;> exact Tree.legible_plain _ (by decide)

end Initializer

namespace Decimal

lemma plainDecimal_positional (d : Decimal) : Lexer.PlainDecimal d.positional.toList := by
  obtain ⟨cs, hd, hn, hcases⟩ := d.positional_eq
  have hdigit : ∀ c ∈ cs, c.isDigit = true := fun c hc => (isDigit_eq c).symm.trans (hd c hc)
  rcases hcases with ⟨-, ht, -⟩ | ⟨he, -, whole, fraction, rfl, hw, hf, ht⟩
  · rw [ht]
    exact .whole hn hdigit
  · rw [ht]
    have hfraction : fraction ≠ [] := List.ne_nil_of_length_pos (by omega)
    exact .point hw hfraction (fun c hc => hdigit c (by simp [hc])) fun c hc => hdigit c (by simp [hc])

end Decimal

namespace Kind

structure Denoted (k : Kind) (v : Value) : Prop where
  written : (k.initializer v).Written
  value : constant? (k.initializer v).trees = some (k, v)

lemma denoted_text (s : String) : text.Denoted (.text s) := by
  refine ⟨⟨s, rfl⟩, ?_⟩
  have hpath : Row.spanPath (text.initializer (.text s)).trees =
      (["std", "string", "String", "from"], [.group .parenthesis [.literal (.ofString s)]]) :=
    Row.spanPath_ofPath _ rfl
  have hlength : (text.initializer (.text s)).trees.length = 13 := rfl
  rw [constant?_of_path (by omega) hpath, Literal.stringValue?_ofString]
  rfl

lemma denoted_integer (h : t.Holds n) : (integer t).Denoted (.integer n) := by
  have hdigits : ∀ c ∈ Nat.toDigits 10 n.natAbs, c.isDigit = true := fun c hc =>
    Nat.isDigit_of_mem_toDigits (by decide) le_rfl hc
  have htext : (toString n.natAbs).toList = Nat.toDigits 10 n.natAbs := by
    rw [Nat.toString_eq_ofList_toDigits, String.toList_ofList]
  have hn : n = IntegerType.signed (n < 0) (Decimal.digitsValue (Nat.toDigits 10 n.natAbs)) := by
    rw [Decimal.digitsValue_toDigits, IntegerType.signed]
    simp only [decide_eq_true_eq]
    split <;> omega
  have htrees : ((integer t).initializer (.integer n)).trees =
      Row.ofNumber (n < 0) (String.ofList (Nat.toDigits 10 n.natAbs) ++ t.name) := by
    rw [← Nat.toString_eq_ofList_toDigits]
    rfl
  constructor
  · change Lexer.PlainDecimal (toString n.natAbs).toList
    rw [htext]
    exact .whole Nat.toDigits_ne_nil hdigits
  · rw [htrees, constant?_ofNumber]
    refine number?_integer hdigits Nat.toDigits_ne_nil hn h fun hneg => ?_
    exact IntegerType.isSigned_of_holds h (of_decide_eq_true hneg)

lemma trees_float (w : FloatWidth) (negative : Bool) (m : ℕ) (e : ℤ) :
    ((float w).initializer (.float w (.finite negative m e))).trees =
      Row.ofNumber negative (String.ofList (w.shortest m e).positional.toList ++ w.name) := by
  rw [String.ofList_toList]
  rfl

lemma denoted_float {m : ℕ} {e : ℤ} (hc : w.Canonical m e) (negative : Bool) :
    (float w).Denoted (.float w (.finite negative m e)) := by
  have hplain := (w.shortest m e).plainDecimal_positional
  have hread : w.readChars (w.shortest m e).positional.toList = .ok (.finite false m e) :=
    FloatWidth.read_shortest hc
  refine ⟨hplain, ?_⟩
  rw [trees_float, constant?_ofNumber]
  refine number?_float hplain hread ?_
  cases negative <;> rfl

lemma denoted_boolean (b : Bool) : boolean.Denoted (.boolean b) := by
  refine ⟨trivial, ?_⟩
  cases b <;> rfl

lemma denoted_of_readDefault (h : k.readDefault source = .ok v) : k.Denoted v := by
  rcases readDefault_cases h with ⟨rfl, rfl⟩ | ⟨t, n, rfl, rfl⟩ | ⟨w, negative, m, e, rfl, rfl, hc⟩ |
    ⟨b, rfl, rfl⟩
  · exact denoted_text source
  · cases holds_of_convert (readDefault_eq_ok_iff.mp h).1
    exact denoted_integer ‹_›
  · exact denoted_float hc negative
  · exact denoted_boolean b

lemma Denoted.trees? (h : k.Denoted v) :
    Source.trees? (k.initializer v).render = some (k.initializer v).trees := by
  rw [← Initializer.renderAll_trees]
  exact Tree.trees?_renderAll h.written.legible

lemma canonical_of_readDefault (h : (float w).readDefault source = .ok (.float w x)) :
    ∃ negative m e, x = .finite negative m e ∧ w.Canonical m e := by
  rcases readDefault_cases h with ⟨hk, -⟩ | ⟨t, n, hk, -⟩ | ⟨w', negative, m, e, hk, hv, hc⟩ | ⟨b, hk, -⟩
  · cases hk
  · cases hk
  · obtain rfl := Kind.float.inj hk
    exact ⟨negative, m, e, (Value.float.inj hv).2, hc⟩
  · cases hk

/-- A default is accepted where the conversion accepts its text, and its initializer denotes the same value. -/
theorem default_denotes_converted (h : k.isFloat = false) (source : String) :
    (∀ v, k.readDefault source = .ok v ↔ (Conversion.ofKind k).apply source = .ok v) ∧
    (∀ e, k.readDefault source = .error e ↔
      ∃ cause, (Conversion.ofKind k).apply source = .error cause ∧ e = .conversion cause ∧
        e.message = cause.message) ∧
    ∀ v, k.readDefault source = .ok v →
      ∃ ts, Source.trees? (k.initializer v).render = some ts ∧ constant? ts = some (k, v) := by
  have hfloat : ∀ w x, k.convert source ≠ .ok (.float w x) := by
    intro w x hc
    cases holds_of_convert hc
    cases h
  rw [Conversion.apply_ofKind]
  refine ⟨fun v => ?_, fun e => ?_, fun v hv => ?_⟩
  · rw [readDefault_eq_ok_iff]
    refine and_iff_left_of_imp fun hc w x hv => ?_
    rw [hv] at hc
    exact absurd hc (hfloat w x)
  · rw [readDefault_eq_error_iff]
    constructor
    · rintro (⟨cause, hc, rfl⟩ | ⟨w, x, hc, -⟩)
      · exact ⟨cause, hc, rfl, rfl⟩
      · exact absurd hc (hfloat w x)
    · rintro ⟨cause, hc, he, -⟩
      exact Or.inl ⟨cause, hc, he⟩
  · have hd := denoted_of_readDefault hv
    exact ⟨_, hd.trees?, hd.value⟩

theorem least_default_denotes : (integer .i8).isFloat = false ∧
    (integer .i8).readDefault "-0128" = .ok (.integer (-128)) ∧
    (integer .i8).readDefault "-0129" = .error (.conversion (.integer .negativeOverflow)) ∧
    ∃ ts, Source.trees? "- 128i8" = some ts ∧ constant? ts = some (integer .i8, .integer (-128)) := by
  obtain ⟨hok, -, hden⟩ := default_denotes_converted (show (integer .i8).isFloat = false from rfl) "-0128"
  obtain ⟨-, herror, -⟩ := default_denotes_converted (show (integer .i8).isFloat = false from rfl) "-0129"
  have hread := (hok (.integer (-128))).mpr (by decide)
  exact ⟨rfl, hread, (herror _).mpr ⟨_, by decide, rfl, rfl⟩, hden _ hread⟩

/-- A default that is accepted reads back with all its bits. -/
theorem float_default_reads_back (w : FloatWidth) (source : String) :
    (∀ v, (float w).readDefault source = .ok v ↔
      ∃ x, w.read source = .ok x ∧ x.isFinite = true ∧ v = .float w x) ∧
    (∀ e, (float w).readDefault source = .error e ↔
      (∃ x, w.read source = .ok x ∧ x.isFinite = false ∧ e = .notFinite source ∧
        e.message = s!"default '{source}' is not a finite number") ∨
      ∃ cause, w.read source = .error cause ∧ e = .conversion (.float cause) ∧ e.message = cause.message) ∧
    ∀ x, (float w).readDefault source = .ok (.float w x) →
      ∃ negative digits y, Lexer.PlainDecimal digits ∧
        Source.trees? ((float w).initializer (.float w x)).render =
          some (Row.ofNumber negative (String.ofList digits ++ w.name)) ∧
        constant? (Row.ofNumber negative (String.ofList digits ++ w.name)) = some (float w, .float w x) ∧
        w.readChars digits = .ok y ∧ x = (if negative then y.negate else y) := by
  refine ⟨fun v => ?_, fun e => ?_, fun x hx => ?_⟩
  · rw [readDefault_eq_ok_iff, convert_float_eq_ok_iff]
    constructor
    · rintro ⟨⟨x, hr, rfl⟩, hf⟩
      exact ⟨x, hr, hf w x rfl, rfl⟩
    · rintro ⟨x, hr, hf, rfl⟩
      exact ⟨⟨x, hr, rfl⟩, fun _ _ hv => by cases hv; exact hf⟩
  · rw [readDefault_eq_error_iff]
    constructor
    · rintro (⟨_, hc, rfl⟩ | ⟨_, x, hc, hf, rfl⟩)
      · obtain ⟨cause, hr, rfl⟩ := convert_float_eq_error_iff.mp hc
        exact Or.inr ⟨cause, hr, rfl, rfl⟩
      · obtain ⟨_, hr, ⟨⟩⟩ := convert_float_eq_ok_iff.mp hc
        exact Or.inl ⟨x, hr, hf, rfl, rfl⟩
    · rintro (⟨x, hr, hf, rfl, -⟩ | ⟨cause, hr, rfl, -⟩)
      · exact Or.inr ⟨w, x, convert_float_eq_ok_iff.mpr ⟨x, hr, rfl⟩, hf, rfl⟩
      · exact Or.inl ⟨_, convert_float_eq_error_iff.mpr ⟨cause, hr, rfl⟩, rfl⟩
  · obtain ⟨negative, m, e, rfl, hc⟩ := canonical_of_readDefault hx
    have hd := denoted_of_readDefault hx
    have htrees := hd.trees?
    have hvalue := hd.value
    rw [trees_float] at htrees hvalue
    refine ⟨negative, _, .finite false m e, (w.shortest m e).plainDecimal_positional, htrees, hvalue,
      FloatWidth.read_shortest hc, ?_⟩
    cases negative <;> rfl

theorem negative_zero_reads_back :
    (float .single).readDefault "-0.0" = .ok (.float .single (.finite true 0 (-149))) ∧
    (float .single).readDefault "1e39" = .error (.notFinite "1e39") ∧
    ∃ negative digits y, Lexer.PlainDecimal digits ∧
      Source.trees? "- 0f32" = some (Row.ofNumber negative (String.ofList digits ++ "f32")) ∧
      constant? (Row.ofNumber negative (String.ofList digits ++ "f32")) =
        some (float .single, .float .single (.finite true 0 (-149))) ∧
      FloatWidth.single.readChars digits = .ok y ∧ .finite true 0 (-149) = (if negative then y.negate else y) := by
  obtain ⟨hok, -, hback⟩ := float_default_reads_back .single "-0.0"
  obtain ⟨-, herror, -⟩ := float_default_reads_back .single "1e39"
  have hread := (hok (.float .single (.finite true 0 (-149)))).mpr ⟨_, by decide +kernel, rfl, rfl⟩
  have hinfinite : FloatWidth.single.read "1e39" = .ok (.infinite false) := by decide +kernel
  exact ⟨hread, (herror _).mpr (Or.inl ⟨_, hinfinite, rfl, rfl, rfl⟩), hback _ hread⟩

end Kind

end CommandLine
