import CommandLine.Number.Shortest
import Mathlib.Data.List.TakeWhile
import Mathlib.Tactic.Linarith

/-! Reading back the positional text of a decimal. -/

namespace CommandLine

namespace Decimal

variable {c : Char} {cs whole fraction : List Char} {n : ℕ}

lemma isDigit_eq (c : Char) : isDigit c = c.isDigit := by
  rw [Bool.eq_iff_iff]
  simp [isDigit, decimalDigit?, Char.isDigit, Char.le_def, ge_iff_le]

lemma isDigit_of_mem_toDigits (h : c ∈ Nat.toDigits 10 n) : isDigit c = true := by
  rw [isDigit_eq]
  exact Nat.isDigit_of_mem_toDigits (by decide) le_rfl h

lemma digitsValue_eq (cs : List Char) : digitsValue cs = Nat.ofDigitChars 10 cs 0 := rfl

lemma digitsValue_toDigits (n : ℕ) : digitsValue (Nat.toDigits 10 n) = n :=
  Nat.ofDigitChars_ten_toDigits

lemma digitsValue_append_zeros (n k : ℕ) :
    digitsValue (Nat.toDigits 10 n ++ List.replicate k '0') = n * 10 ^ k := by
  rw [digitsValue_eq, Nat.ofDigitChars_append, Nat.ofDigitChars_ten_toDigits,
    Nat.ofDigitChars_replicate_zero, mul_comm]

lemma digitsValue_zeros_append (n k : ℕ) :
    digitsValue (List.replicate k '0' ++ Nat.toDigits 10 n) = n := by
  rw [digitsValue_eq, Nat.ofDigitChars_append, Nat.ofDigitChars_replicate_zero, mul_zero,
    Nat.ofDigitChars_ten_toDigits]

lemma spanDigits_eq (h : ∀ c ∈ cs, isDigit c = true) : spanDigits cs = (cs, []) := by
  simp only [spanDigits, List.takeWhile_eq_self_iff.mpr h, List.dropWhile_eq_nil_iff.mpr h]

lemma read_digits (h : ∀ c ∈ cs, isDigit c = true) (hn : cs ≠ []) :
    read cs = some ⟨digitsValue cs, 0⟩ := by
  simp [read, spanDigits_eq h, spanFraction, hn, readExponent]

lemma read_point (hw : ∀ c ∈ whole, isDigit c = true) (hf : ∀ c ∈ fraction, isDigit c = true)
    (hn : whole ≠ []) :
    read (whole ++ '.' :: fraction) = some ⟨digitsValue (whole ++ fraction), -fraction.length⟩ := by
  have hs : spanDigits (whole ++ '.' :: fraction) = (whole, '.' :: fraction) := by
    have hp : isDigit '.' = false := by decide
    rw [spanDigits, List.takeWhile_append_of_pos hw, List.dropWhile_append_of_pos hw]
    simp [hp]
  simp [read, hs, spanFraction, spanDigits_eq hf, hn, readExponent]

lemma positional_eq (d : Decimal) : ∃ cs, (∀ c ∈ cs, isDigit c = true) ∧ cs ≠ [] ∧
    ((0 ≤ d.exponent ∧ d.positional.toList = cs ∧ digitsValue cs = d.digits * 10 ^ d.exponent.toNat) ∨
      d.exponent < 0 ∧ digitsValue cs = d.digits ∧ ∃ whole fraction, cs = whole ++ fraction ∧ whole ≠ [] ∧
        fraction.length = (-d.exponent).toNat ∧ d.positional.toList = whole ++ '.' :: fraction) := by
  have hzero : ∀ {c k}, c ∈ List.replicate k '0' → isDigit c = true := by
    intro c k h
    rw [List.eq_of_mem_replicate h]
    decide
  by_cases he : 0 ≤ d.exponent
  · by_cases hd : d.digits = 0
    · refine ⟨Nat.toDigits 10 d.digits, fun c => isDigit_of_mem_toDigits, Nat.toDigits_ne_nil,
        Or.inl ⟨he, ?_, ?_⟩⟩
      · simp [positional, he, hd]
      · rw [digitsValue_toDigits, hd, zero_mul]
    · refine ⟨Nat.toDigits 10 d.digits ++ List.replicate d.exponent.toNat '0', ?_, by simp,
        Or.inl ⟨he, ?_, ?_⟩⟩
      · exact fun c hc => (List.mem_append.mp hc).elim isDigit_of_mem_toDigits hzero
      · simp [positional, he, hd]
      · exact digitsValue_append_zeros _ _
  · obtain ⟨places, hp⟩ : ∃ places, places = (-d.exponent).toNat := ⟨_, rfl⟩
    obtain ⟨padded, hpad⟩ : ∃ padded, padded =
        List.replicate (places + 1 - (Nat.toDigits 10 d.digits).length) '0' ++ Nat.toDigits 10 d.digits := ⟨_, rfl⟩
    have hlen : places < padded.length := by
      rw [hpad, List.length_append, List.length_replicate]
      omega
    refine ⟨padded, ?_, List.ne_nil_of_length_pos (by omega), Or.inr ⟨not_le.mp he, ?_,
      padded.take (padded.length - places), padded.drop (padded.length - places), ?_, ?_, ?_, ?_⟩⟩
    · exact fun c hc => (List.mem_append.mp (hpad ▸ hc)).elim hzero isDigit_of_mem_toDigits
    · rw [hpad, digitsValue_zeros_append]
    · exact (List.take_append_drop _ _).symm
    · refine List.ne_nil_of_length_pos ?_
      rw [List.length_take]
      omega
    · rw [List.length_drop]
      omega
    · simp [positional, he, ← hp, ← hpad]

def lowered (d : Decimal) : Decimal :=
  if 0 ≤ d.exponent then ⟨d.digits * 10 ^ d.exponent.toNat, 0⟩ else d

lemma read_positional (d : Decimal) : read d.positional.toList = some d.lowered := by
  obtain ⟨cs, hd, hn, ⟨he, ht, hv⟩ | ⟨he, hv, whole, fraction, rfl, hw, hl, ht⟩⟩ := positional_eq d
  · rw [ht, read_digits hd hn, hv, lowered, if_pos he]
  · rw [ht, read_point (fun c hc => hd c (List.mem_append_left _ hc))
      (fun c hc => hd c (List.mem_append_right _ hc)) hw, hv, lowered, if_neg (not_le.mpr he), hl,
      Int.toNat_of_nonneg (by omega), neg_neg]

lemma positional_head (d : Decimal) : ∃ c cs, d.positional.toList = c :: cs ∧ isDigit c = true := by
  obtain ⟨cs, hd, hn, ⟨-, ht, -⟩ | ⟨-, -, whole, fraction, rfl, hw, -, ht⟩⟩ := positional_eq d
  · obtain ⟨c, cs, rfl⟩ := List.exists_cons_of_ne_nil hn
    exact ⟨c, cs, ht, hd c (by simp)⟩
  · obtain ⟨c, cs, rfl⟩ := List.exists_cons_of_ne_nil hw
    exact ⟨c, cs ++ '.' :: fraction, by simp [ht], hd c (by simp)⟩

end Decimal

namespace FloatWidth

variable {c : Char} {cs : List Char}

lemma toLower_of_isDigit (h : Decimal.isDigit c = true) : c.toLower = c := by
  rw [Decimal.isDigit_eq] at h
  simp only [Char.isDigit, Bool.and_eq_true, decide_eq_true_eq, UInt32.le_iff_toNat_le] at h
  refine dif_neg fun hu => ?_
  have h9 : c.val.toNat ≤ 57 := h.2
  have hA : 65 ≤ c.val.toNat := UInt32.le_iff_toNat_le.mp hu.1
  omega

lemma readChars_of_isDigit {d : Decimal} (w : FloatWidth) (h : Decimal.isDigit c = true)
    (hr : Decimal.read (c :: cs) = some d) : w.readChars (c :: cs) = .ok (w.roundDecimal false d) := by
  have hl : ∀ x word, Decimal.isDigit x = false → lowerAscii (c :: cs) ≠ x :: word := by
    intro x word hx he
    obtain ⟨rfl, -⟩ := List.cons.inj he
    rw [toLower_of_isDigit h, h] at hx
    cases hx
  have hsign : c ≠ '+' ∧ c ≠ '-' := by
    refine ⟨?_, ?_⟩ <;> rintro rfl <;> exact absurd h (by decide)
  have hinf : lowerAscii (c :: cs) ≠ "inf".toList := hl 'i' ['n', 'f'] rfl
  have hinfinity : lowerAscii (c :: cs) ≠ "infinity".toList := hl 'i' ['n', 'f', 'i', 'n', 'i', 't', 'y'] rfl
  have hnan : lowerAscii (c :: cs) ≠ "nan".toList := hl 'n' ['a', 'n'] rfl
  rw [readChars, readMagnitude, if_neg (not_or.mpr ⟨hinf, hinfinity⟩), if_neg hnan, hr]
  · exact hsign.1
  · exact hsign.2

lemma read_positional (w : FloatWidth) (d : Decimal) :
    w.read d.positional = .ok (w.roundDecimal false d.lowered) := by
  obtain ⟨c, cs, ht, hc⟩ := d.positional_head
  have hr := d.read_positional
  rw [ht] at hr
  rw [read, ht, w.readChars_of_isDigit hc hr]

end FloatWidth

end CommandLine
