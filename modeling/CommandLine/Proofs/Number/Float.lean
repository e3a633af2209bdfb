import CommandLine.Proofs.Number.Nearest
import CommandLine.Proofs.Number.Numeral
import CommandLine.Proofs.Number.Shortest

/-! Which texts are floating-point numbers, and their bits. -/

namespace CommandLine

open IntegerType (Sign signed)

namespace IntegerType.Sign

variable {sign : Sign} {cs : List Char}

def Bare (sign : Sign) (rest : List Char) : Prop :=
  sign = .absent → rest.head? ≠ some '+' ∧ rest.head? ≠ some '-'

lemma exists_bare (cs : List Char) :
    ∃ (sign : Sign) (rest : List Char), cs = sign.text ++ rest ∧ sign.Bare rest := by
  by_cases hp : cs.head? = some '+'
  · obtain ⟨rest, rfl⟩ := List.head?_eq_some_iff.mp hp
    exact ⟨.plus, rest, rfl, by simp [Bare]⟩
  by_cases hm : cs.head? = some '-'
  · obtain ⟨rest, rfl⟩ := List.head?_eq_some_iff.mp hm
    exact ⟨.minus, rest, rfl, by simp [Bare]⟩
  · exact ⟨.absent, cs, rfl, fun _ => ⟨hp, hm⟩⟩

lemma bare_of_isDigit (hn : cs ≠ []) (hd : ∀ c ∈ cs, c.isDigit = true) : sign.Bare cs := by
  obtain ⟨c, cs, rfl⟩ := List.exists_cons_of_ne_nil hn
  have hc : c.isDigit = true := hd c List.mem_cons_self
  rintro -
  refine ⟨?_, ?_⟩ <;> rintro ⟨⟩ <;> cases hc

end IntegerType.Sign

structure Exponent where
  letter : Char
  sign : Sign
  digits : List Char
  isLetter : letter = 'e' ∨ letter = 'E'
  nonempty : digits ≠ []
  allDigits : ∀ c ∈ digits, c.isDigit = true

namespace Exponent

def text (x : Exponent) : List Char :=
  x.letter :: (x.sign.text ++ x.digits)

def value (x : Exponent) : ℤ :=
  signed x.sign.isNegative (Nat.ofDigitChars 10 x.digits 0)

end Exponent

structure Numeral where
  whole : List Char
  fraction : Option (List Char)
  exponent : Option Exponent
  nonempty : whole ++ fraction.getD [] ≠ []
  allDigits : ∀ c ∈ whole ++ fraction.getD [], c.isDigit = true

namespace Numeral

variable {n : Numeral}

def places (n : Numeral) : List Char :=
  n.fraction.getD []

def fractionText : Option (List Char) → List Char
  | none => []
  | some places => '.' :: places

def exponentText (x : Option Exponent) : List Char :=
  (x.map Exponent.text).getD []

def text (n : Numeral) : List Char :=
  n.whole ++ (fractionText n.fraction ++ exponentText n.exponent)

def scale (x : Option Exponent) : ℤ :=
  (x.map Exponent.value).getD 0

def magnitude (n : Numeral) : ℚ :=
  (Nat.ofDigitChars 10 n.whole 0 + Nat.ofDigitChars 10 n.places 0 / 10 ^ n.places.length) * 10 ^ scale n.exponent

def decimal (n : Numeral) : Decimal :=
  ⟨Decimal.digitsValue (n.whole ++ n.places), scale n.exponent - n.places.length⟩

lemma value_decimal (n : Numeral) : n.decimal.value = n.magnitude := by
  have hd : (n.decimal.digits : ℚ) =
      Nat.ofDigitChars 10 n.whole 0 * 10 ^ n.places.length + Nat.ofDigitChars 10 n.places 0 := by
    rw [decimal, Decimal.digitsValue_eq, Nat.ofDigitChars_append, Nat.ofDigitChars_eq_ofDigitChars_zero]
    push_cast
    ring
  rw [Decimal.value, hd, magnitude, decimal, zpow_sub₀ (by norm_num), zpow_natCast]
  field_simp

lemma text_eq_cons (n : Numeral) : ∃ c rest, n.text = c :: rest ∧ (c.isDigit = true ∨ c = '.') := by
  have hn := n.nonempty
  rw [text]
  cases hw : n.whole with
  | nil =>
    cases hf : n.fraction with
    | none => simp [hw, hf] at hn
    | some places => exact ⟨'.', _, rfl, Or.inr rfl⟩
  | cons c whole => exact ⟨c, _, rfl, Or.inl (n.allDigits c (by simp [hw]))⟩

end Numeral

namespace Decimal

variable {cs ds rest : List Char} {d : Decimal} {v : ℤ} {k : ℕ} {c : Char} {sign : Sign}

lemma all_isDigit_iff : cs.all isDigit = true ↔ ∀ c ∈ cs, c.isDigit = true := by
  simp only [List.all_eq_true, isDigit_eq]

lemma readExponentDigits_eq_some_iff : readExponentDigits cs = some k ↔
    cs ≠ [] ∧ (∀ c ∈ cs, c.isDigit = true) ∧ k = Nat.ofDigitChars 10 cs 0 := by
  rw [readExponentDigits, ← all_isDigit_iff, ← digitsValue_eq, eq_comm (a := k)]
  by_cases hn : cs = []
  · simp [hn]
  · cases cs.all isDigit <;> simp [hn]

lemma readExponent_signed (hc : c = 'e' ∨ c = 'E') (hb : sign.Bare ds) :
    readExponent (c :: (sign.text ++ ds)) = (readExponentDigits ds).map (signed sign.isNegative) := by
  rw [readExponent.eq_def]
  simp only [hc, if_true]
  cases sign with
  | plus => cases h : readExponentDigits ds <;> simp [Sign.text, Sign.isNegative, h]
  | minus => cases h : readExponentDigits ds <;> simp [Sign.text, Sign.isNegative, h]
  | absent =>
    obtain ⟨hp, hm⟩ := hb rfl
    rw [Sign.text, List.nil_append]
    split
    · simp at hm
    · simp at hp
    · cases h : readExponentDigits ds <;> simp [Sign.isNegative]

lemma readExponent_eq_some_iff : readExponent cs = some v ↔
    ∃ x, cs = Numeral.exponentText x ∧ v = Numeral.scale x := by
  refine ⟨fun h => ?_, ?_⟩
  · cases cs with
    | nil => exact ⟨none, rfl, (Option.some.inj h).symm⟩
    | cons c cs =>
      have hc : c = 'e' ∨ c = 'E' := by
        by_contra hc
        rw [readExponent.eq_def] at h
        simp [hc] at h
      obtain ⟨sign, ds, rfl, hb⟩ := Sign.exists_bare cs
      rw [readExponent_signed hc hb] at h
      obtain ⟨k, hk, rfl⟩ := Option.map_eq_some_iff.mp h
      obtain ⟨hn, hd, rfl⟩ := readExponentDigits_eq_some_iff.mp hk
      exact ⟨some ⟨c, sign, ds, hc, hn, hd⟩, rfl, rfl⟩
  · rintro ⟨_ | x, rfl, rfl⟩
    · rfl
    · have hb : x.sign.Bare x.digits := Sign.bare_of_isDigit x.nonempty x.allDigits
      have hd := readExponentDigits_eq_some_iff.mpr ⟨x.nonempty, x.allDigits, rfl⟩
      exact (readExponent_signed x.isLetter hb).trans (by rw [hd]; rfl)

lemma spanDigits_append (hd : ∀ c ∈ ds, c.isDigit = true) (hr : ∀ c ∈ rest.head?, c.isDigit = false) :
    spanDigits (ds ++ rest) = (ds, rest) := by
  rw [spanDigits, funext isDigit_eq, List.takeWhile_append_of_pos hd, List.dropWhile_append_of_pos hd]
  cases rest with
  | nil => simp
  | cons c rest => simp [hr c rfl]

lemma spanDigits_fst (cs : List Char) : ∀ c ∈ (spanDigits cs).1, c.isDigit = true := by
  rw [spanDigits, funext isDigit_eq]
  exact fun c hc => List.mem_takeWhile_imp hc

lemma spanDigits_eq_append (cs : List Char) : (spanDigits cs).1 ++ (spanDigits cs).2 = cs :=
  List.takeWhile_append_dropWhile

lemma exponentText_head (x : Option Exponent) :
    ∀ c ∈ (Numeral.exponentText x).head?, c.isDigit = false ∧ c ≠ '.' := by
  cases x with
  | none => simp [Numeral.exponentText]
  | some x =>
    rintro c ⟨⟩
    rcases x.isLetter with h | h <;> rw [h] <;> decide

lemma spanFraction_text (n : Numeral) :
    spanFraction (Numeral.fractionText n.fraction ++ Numeral.exponentText n.exponent) =
      (n.places, Numeral.exponentText n.exponent) := by
  have hx := exponentText_head n.exponent
  cases hf : n.fraction with
  | none =>
    rw [Numeral.fractionText, List.nil_append, Numeral.places, hf]
    rw [spanFraction.eq_def]
    split
    · rename_i h
      exact absurd rfl (hx '.' (by simp [h])).2
    · rfl
  | some places =>
    have hd : ∀ c ∈ places, c.isDigit = true := fun c hc => n.allDigits c (by simp [hf, hc])
    rw [Numeral.fractionText, List.cons_append, spanFraction, spanDigits_append hd fun c hc => (hx c hc).1,
      Numeral.places, hf, Option.getD_some]

lemma spanDigits_text (n : Numeral) : spanDigits n.text =
    (n.whole, Numeral.fractionText n.fraction ++ Numeral.exponentText n.exponent) := by
  refine spanDigits_append (fun c hc => n.allDigits c (by simp [hc])) ?_
  cases hf : n.fraction with
  | none => exact fun c hc => (exponentText_head _ c hc).1
  | some places =>
    rintro c ⟨⟩
    rfl

lemma read_text (n : Numeral) : read n.text = some n.decimal := by
  have hn : ¬ (n.whole.isEmpty ∧ n.places.isEmpty) := by
    have h := n.nonempty
    simpa [Numeral.places] using h
  rw [read]
  simp only [spanDigits_text, spanFraction_text, hn, if_false]
  rw [readExponent_eq_some_iff.mpr ⟨_, rfl, rfl⟩]
  rfl

lemma exists_fraction (cs : List Char) : ∃ fraction, (spanFraction cs).1 = fraction.getD [] ∧
    cs = Numeral.fractionText fraction ++ (spanFraction cs).2 ∧ ∀ c ∈ fraction.getD [], c.isDigit = true := by
  rw [spanFraction.eq_def]
  split
  · rename_i cs
    exact ⟨some (spanDigits cs).1, rfl, congrArg ('.' :: ·) (spanDigits_eq_append cs).symm, spanDigits_fst cs⟩
  · exact ⟨none, rfl, rfl, by simp⟩

lemma read_eq_some_iff : read cs = some d ↔ ∃ n : Numeral, cs = n.text ∧ d = n.decimal := by
  refine ⟨fun h => ?_, ?_⟩
  · obtain ⟨fraction, hp, hf, hd⟩ := exists_fraction (spanDigits cs).2
    rw [read] at h
    simp only at h
    split at h
    · cases h
    · rename_i hn
      obtain ⟨v, hv, rfl⟩ := Option.map_eq_some_iff.mp h
      obtain ⟨x, hx, rfl⟩ := readExponent_eq_some_iff.mp hv
      refine ⟨⟨(spanDigits cs).1, fraction, x, ?_, ?_⟩, ?_, ?_⟩
      · simpa [← hp] using hn
      · exact List.forall_mem_append.mpr ⟨spanDigits_fst cs, hd⟩
      · rw [Numeral.text, ← hx, ← hf, spanDigits_eq_append]
      · simp only [Numeral.decimal, Numeral.places, hp]
  · rintro ⟨n, rfl, rfl⟩
    exact read_text n

end Decimal

namespace FloatWidth

variable {w : FloatWidth} {negative : Bool} {body cs rest : List Char} {b b' : ℕ} {x : FloatValue} {q : ℚ}
  {d : Decimal} {s : String} {e : FloatError}

def words : List (List Char) :=
  ["inf".toList, "infinity".toList, "nan".toList]

def IsFloat (body : List Char) : Prop :=
  body.map Char.toLower ∈ words ∨ ∃ n : Numeral, body = n.text

inductive Denotes (w : FloatWidth) : List Char → ℕ → Prop
  | infinite {body : List Char} (word : body.map Char.toLower ∈ ["inf".toList, "infinity".toList]) :
    Denotes w body w.infinity
  | nan {body : List Char} (word : body.map Char.toLower = "nan".toList) :
    Denotes w body (w.infinity + 2 ^ (w.precision - 2))
  | number (n : Numeral) {b : ℕ} (rounded : w.RoundsTo n.magnitude b) : Denotes w n.text b

lemma roundsTo_zero (h₀ : 0 ≤ q) (h : q < 2 ^ (-1200 : ℤ)) : w.RoundsTo q 0 := by
  have hleast : -1100 ≤ w.leastExponent := by cases w <;> decide
  have hhalf : q < 2 ^ (w.leastExponent - 1) := h.trans_le (zpow_le_zpow_right₀ (by norm_num) (by omega))
  have hq : w.IsQuantum q w.leastExponent :=
    ⟨le_rfl, hhalf.trans_le (zpow_le_zpow_right₀ (by norm_num) (by omega)), Or.inl rfl⟩
  have hx : q / 2 ^ w.leastExponent < 1 / 2 := by
    rw [div_lt_iff₀ (by positivity), one_div, mul_comm, ← zpow_sub_one₀ two_ne_zero]
    exact hhalf
  have hm : Rounds (q / 2 ^ w.leastExponent) 0 := by
    have hx₀ : 0 ≤ q / 2 ^ w.leastExponent := by positivity
    refine ⟨?_, ?_, fun _ => rfl⟩ <;> push_cast <;> linarith
  have hb : w.finiteBits 0 w.leastExponent = 0 := by simp [finiteBits]
  exact hb ▸ roundsTo_finiteBits hq hm (canonical_zero w)

lemma overflow_le_pow (w : FloatWidth) : w.overflow ≤ 10 ^ 401 := by
  have hbits : w.greatestExponent + w.precision ≤ (3 * 401 : ℕ) := by cases w <;> decide
  calc w.overflow ≤ 2 ^ (w.greatestExponent + w.precision) := w.overflow_le_zpow
    _ ≤ 2 ^ ((3 * 401 : ℕ) : ℤ) := zpow_le_zpow_right₀ (by norm_num) hbits
    _ = (2 ^ 3) ^ 401 := by rw [zpow_natCast, pow_mul]
    _ ≤ 10 ^ 401 := by gcongr; norm_num

lemma exists_roundsTo_decimal (w : FloatWidth) (negative : Bool) (d : Decimal) :
    ∃ b, w.RoundsTo d.value b ∧ w.pattern (w.roundDecimal negative d) = w.signBit negative + b := by
  have hzero : w.pattern (.finite negative 0 w.leastExponent) = w.signBit negative + 0 := by
    simp [pattern_finite, finiteBits]
  rw [roundDecimal]
  split_ifs with hd hlarge hsmall
  · have hv : d.value = 0 := by rw [Decimal.value, hd, Nat.cast_zero, zero_mul]
    exact ⟨0, roundsTo_zero hv.ge (hv ▸ by positivity), hzero⟩
  · refine ⟨_, .infinite (w.overflow_le_pow.trans ?_), pattern_infinite w negative⟩
    have hone : (1 : ℚ) ≤ d.digits := by exact_mod_cast Nat.pos_of_ne_zero hd
    calc (10 : ℚ) ^ 401 ≤ 1 * 10 ^ d.exponent := by
          rw [one_mul, ← zpow_natCast]
          exact zpow_le_zpow_right₀ (by norm_num) (by omega)
      _ ≤ d.value := by rw [Decimal.value]; gcongr
  · exact ⟨0, roundsTo_zero (by rw [Decimal.value]; positivity) (Decimal.value_lt hsmall), hzero⟩
  · have hv : d.value = (d.digits * Nat.pow 10 d.exponent.toNat : ℕ) / (Nat.pow 10 (-d.exponent).toNat : ℕ) := by
      have h10 := zpow_eq_div 10 d.exponent
      rw [Nat.cast_ofNat] at h10
      rw [Decimal.value, h10, ← mul_div_assoc]
      push_cast [Nat.pow_eq]
      rfl
    rw [hv]
    exact exists_roundsTo negative (by simp [hd]) (by simp)

lemma IsFloat.head (h : IsFloat body) : ∃ c rest, body = c :: rest ∧ c ≠ '+' ∧ c ≠ '-' := by
  rcases h with hw | ⟨n, rfl⟩
  · have hne : body ≠ [] := by
      rintro rfl
      revert hw
      decide
    obtain ⟨c, rest, rfl⟩ := List.exists_cons_of_ne_nil hne
    refine ⟨c, rest, rfl, ?_, ?_⟩ <;> rintro rfl <;> simp [words] at hw
  · obtain ⟨c, rest, ht, hc⟩ := n.text_eq_cons
    refine ⟨c, rest, ht, ?_, ?_⟩ <;> rintro rfl <;> simp at hc

lemma bare_of_isFloat {sign : Sign} (h : IsFloat body) : sign.Bare body := by
  obtain ⟨c, rest, rfl, hp, hm⟩ := h.head
  exact fun _ => ⟨by simpa using hp, by simpa using hm⟩

lemma text_notMem_words (n : Numeral) : n.text.map Char.toLower ∉ words := by
  obtain ⟨c, rest, ht, hc⟩ := n.text_eq_cons
  have hl : c.toLower = c := by
    rcases hc with hd | rfl
    · exact toLower_of_isDigit (Decimal.isDigit_eq c ▸ hd)
    · rfl
  rw [ht, List.map_cons, hl]
  intro hw
  have hstart : ∀ word ∈ words, word.head? = some 'i' ∨ word.head? = some 'n' := by decide
  rcases hstart _ hw with h | h <;> rw [Option.some.inj h] at hc <;> revert hc <;> decide

lemma Denotes.readMagnitude (h : w.Denotes body b) (negative : Bool) :
    ∃ x, w.readMagnitude negative body = .ok x ∧ w.pattern x = w.signBit negative + b := by
  cases h with
  | infinite word =>
    refine ⟨.infinite negative, ?_, w.pattern_infinite negative⟩
    rw [FloatWidth.readMagnitude, if_pos (by simpa [lowerAscii] using word)]
  | nan word =>
    refine ⟨.nan negative, ?_, ?_⟩
    · rw [FloatWidth.readMagnitude, lowerAscii, word, if_neg (by decide), if_pos rfl]
    · simp only [pattern, infinity, Nat.pow_eq, add_assoc]
  | number n rounded =>
    have hw := text_notMem_words n
    obtain ⟨b', rounded', hb'⟩ := w.exists_roundsTo_decimal negative n.decimal
    rw [n.value_decimal] at rounded'
    obtain rfl := rounded.unique rounded'
    refine ⟨_, ?_, hb'⟩
    simp only [words, List.mem_cons, List.not_mem_nil, or_false, not_or] at hw
    rw [FloatWidth.readMagnitude, lowerAscii, if_neg (not_or.mpr ⟨hw.1, hw.2.1⟩), if_neg hw.2.2, Decimal.read_text]

lemma exists_denotes (w : FloatWidth) (h : IsFloat body) : ∃ b, w.Denotes body b := by
  rcases h with hw | ⟨n, rfl⟩
  · simp only [words, List.mem_cons, List.not_mem_nil, or_false] at hw
    rcases hw with hw | hw | hw
    · exact ⟨_, .infinite (by simp [hw])⟩
    · exact ⟨_, .infinite (by simp [hw])⟩
    · exact ⟨_, .nan hw⟩
  · obtain ⟨b, hb, -⟩ := w.exists_roundsTo_decimal false n.decimal
    exact ⟨b, .number n (n.value_decimal ▸ hb)⟩

lemma Denotes.isFloat (h : w.Denotes body b) : IsFloat body := by
  cases h with
  | infinite word => exact Or.inl (List.mem_append_left _ word)
  | nan word => exact Or.inl (by simp [words, word])
  | number n => exact Or.inr ⟨n, rfl⟩

lemma readMagnitude_of_not_isFloat (h : ¬ IsFloat body) (negative : Bool) :
    w.readMagnitude negative body = .error .invalid := by
  obtain ⟨hw, hn⟩ := not_or.mp h
  simp only [words, List.mem_cons, List.not_mem_nil, or_false, not_or] at hw
  rw [readMagnitude, lowerAscii, if_neg (not_or.mpr ⟨hw.1, hw.2.1⟩), if_neg hw.2.2]
  cases hd : Decimal.read body with
  | none => rfl
  | some d =>
    obtain ⟨n, hn', -⟩ := Decimal.read_eq_some_iff.mp hd
    exact absurd ⟨n, hn'⟩ hn

lemma readChars_signed {sign : Sign} (hb : sign.Bare body) (hne : sign.text ++ body ≠ []) :
    w.readChars (sign.text ++ body) = w.readMagnitude sign.isNegative body := by
  cases sign with
  | plus => rfl
  | minus => rfl
  | absent =>
    obtain ⟨hp, hm⟩ := hb rfl
    obtain ⟨c, rest, rfl⟩ := List.exists_cons_of_ne_nil hne
    rw [Sign.text, List.nil_append, readChars]
    · rfl
    · rintro rfl
      exact hp rfl
    · rintro rfl
      exact hm rfl

def IsFloatText (cs : List Char) : Prop :=
  ∃ (sign : Sign) (body : List Char), cs = sign.text ++ body ∧ IsFloat body

lemma readChars_of_not_isFloatText (hn : cs ≠ []) (h : ¬ IsFloatText cs) : w.readChars cs = .error .invalid := by
  obtain ⟨sign, body, rfl, hb⟩ := Sign.exists_bare cs
  rw [readChars_signed hb hn]
  exact readMagnitude_of_not_isFloat (fun hf => h ⟨sign, body, rfl, hf⟩) _

lemma Denotes.readChars (h : w.Denotes body b) (sign : Sign) :
    ∃ x, w.readChars (sign.text ++ body) = .ok x ∧ w.pattern x = w.signBit sign.isNegative + b := by
  have hne : sign.text ++ body ≠ [] := by
    obtain ⟨c, rest, rfl, -⟩ := h.isFloat.head
    simp
  rw [readChars_signed (bare_of_isFloat h.isFloat) hne]
  exact h.readMagnitude _

lemma Denotes.read {sign : Sign} (h : w.Denotes body b) (hs : s.toList = sign.text ++ body) :
    (w.read s).map w.pattern = .ok (w.signBit sign.isNegative + b) := by
  obtain ⟨x, hx, hb⟩ := h.readChars sign
  rw [FloatWidth.read, hs, hx, ← hb]
  rfl

lemma exists_read_iff (w : FloatWidth) (s : String) : (∃ x, w.read s = .ok x) ↔ IsFloatText s.toList := by
  refine ⟨fun ⟨x, hx⟩ => ?_, fun ⟨sign, body, hs, hf⟩ => ?_⟩
  · by_contra hf
    rw [read] at hx
    by_cases hn : s.toList = []
    · rw [hn] at hx
      cases hx
    · rw [readChars_of_not_isFloatText hn hf] at hx
      cases hx
  · obtain ⟨b, hb⟩ := w.exists_denotes hf
    obtain ⟨x, hx, -⟩ := hb.readChars sign
    exact ⟨x, by rw [read, hs, hx]⟩

lemma read_eq_error_iff : w.read s = .error e ↔
    s = "" ∧ e = .empty ∨ s ≠ "" ∧ ¬ IsFloatText s.toList ∧ e = .invalid := by
  by_cases hn : s.toList = []
  · obtain rfl := String.toList_eq_nil_iff.mp hn
    simp [read, readChars, eq_comm]
  have hs : s ≠ "" := fun h => hn (String.toList_eq_nil_iff.mpr h)
  by_cases hf : IsFloatText s.toList
  · obtain ⟨x, hx⟩ := (w.exists_read_iff s).mpr hf
    simp [hx, hs, hf]
  · rw [read, readChars_of_not_isFloatText hn hf]
    simp [hs, hf, eq_comm]

/-- A text that is a number reads as the nearest number of the format. -/
theorem read_correctly_rounded (w : FloatWidth) (s : String) :
    ((∃ x, w.read s = .ok x) ↔ IsFloatText s.toList) ∧
    (∀ b, (w.read s).map w.pattern = .ok b ↔ ∃ (sign : Sign) (body : List Char) (magnitude : ℕ),
      s.toList = sign.text ++ body ∧ w.Denotes body magnitude ∧ b = w.signBit sign.isNegative + magnitude) ∧
    ∀ e, w.read s = .error e ↔ s = "" ∧ e = .empty ∨ s ≠ "" ∧ ¬ IsFloatText s.toList ∧ e = .invalid := by
  refine ⟨w.exists_read_iff s, fun b => ⟨fun h => ?_, ?_⟩, fun e => read_eq_error_iff⟩
  · cases hx : w.read s with
    | error e =>
      rw [hx] at h
      cases h
    | ok x =>
      obtain ⟨sign, body, hs, hf⟩ := (w.exists_read_iff s).mp ⟨x, hx⟩
      obtain ⟨magnitude, hm⟩ := w.exists_denotes hf
      exact ⟨sign, body, magnitude, hs, hm, Except.ok.inj (h.symm.trans (hm.read hs))⟩
  · rintro ⟨sign, body, magnitude, hs, hm, rfl⟩
    exact hm.read hs

-- Half-way between two numbers the even one is taken, and above it the next, which a rounding to the wider format
-- before this one would lose.
example : (single.read "16777217").map single.pattern = .ok 0x4b800000 ∧
    (single.read "1.0000000596046447753906250000001").map single.pattern = .ok 0x3f800001 ∧
    (double.read "1.0000000596046447753906250000001").map double.pattern = .ok 0x3ff0000010000000 := by
  decide +kernel

end FloatWidth

end CommandLine
