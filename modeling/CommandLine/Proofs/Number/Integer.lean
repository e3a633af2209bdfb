import CommandLine.Proofs.Number.Positional

/-! Reading back the decimal text of an integer. -/

namespace CommandLine.IntegerType

variable {t : IntegerType} {negative : Bool} {j k : ℕ} {n : ℤ} {c : Char} {cs : List Char}

def signed (negative : Bool) (k : ℕ) : ℤ := if negative then -k else k

@[simp] lemma signed_false (k : ℕ) : signed false k = k := rfl

@[simp] lemma signed_true (k : ℕ) : signed true k = -k := rfl

lemma least_nonpos (t : IntegerType) : t.least ≤ 0 := by
  cases t <;> decide

lemma greatest_nonneg (t : IntegerType) : 0 ≤ t.greatest := by
  cases t <;> decide

lemma Holds.of_le (h : t.Holds (signed negative k)) (hj : j ≤ k) : t.Holds (signed negative j) := by
  have hl := t.least_nonpos
  have hg := t.greatest_nonneg
  obtain ⟨h₁, h₂⟩ := h
  cases negative with
  | false =>
    rw [signed_false] at h₁ h₂ ⊢
    exact ⟨by omega, by omega⟩
  | true =>
    rw [signed_true] at h₁ h₂ ⊢
    exact ⟨by omega, by omega⟩

lemma isSigned_of_holds (h : t.Holds n) (hn : n < 0) : t.isSigned = true := by
  have hl := h.1
  rw [least] at hl
  split at hl
  · assumption
  · omega

lemma holds_zero (t : IntegerType) : t.Holds 0 := ⟨t.least_nonpos, t.greatest_nonneg⟩

lemma holds_of_readDigits {m : ℤ} (hn : t.Holds n) (h : t.readDigits negative n cs = .ok m) : t.Holds m := by
  induction cs generalizing n with
  | nil =>
    obtain rfl : n = m := Except.ok.inj h
    exact hn
  | cons c cs ih =>
    cases hd : decimalDigit? c with
    | none => simp [readDigits, hd] at h
    | some d =>
      simp only [readDigits, hd] at h
      by_cases hh : t.Holds (if negative then 10 * n - d else 10 * n + d)
      · rw [if_pos hh] at h
        exact ih hh h
      · rw [if_neg hh] at h
        cases h

lemma holds_of_readUnsigned (h : t.readUnsigned negative cs = .ok n) : t.Holds n := by
  cases cs with
  | nil => cases h
  | cons c cs => exact holds_of_readDigits t.holds_zero h

lemma holds_of_read {s : String} (h : t.read s = .ok n) : t.Holds n := by
  rw [read] at h
  unfold readChars at h
  split at h
  · cases h
  · exact holds_of_readUnsigned h
  · split at h
    · exact holds_of_readUnsigned h
    · cases h
  · exact holds_of_readDigits t.holds_zero h

lemma decimalDigit?_of_isDigit (h : Decimal.isDigit c = true) :
    decimalDigit? c = some (c.toNat - '0'.toNat) := by
  rw [Decimal.isDigit] at h
  rw [decimalDigit?] at h ⊢
  split
  · rfl
  · rename_i hn
    rw [if_neg hn] at h
    cases h

lemma le_ofDigitChars (k : ℕ) (cs : List Char) : k ≤ Nat.ofDigitChars 10 cs k := by
  induction cs generalizing k with
  | nil => exact le_rfl
  | cons c cs ih =>
    have hk : k ≤ 10 * k + (c.toNat - '0'.toNat) := by omega
    exact hk.trans (ih _)

lemma decimalDigit?_of_not_isDigit (h : Decimal.isDigit c = false) : decimalDigit? c = none := by
  rwa [Decimal.isDigit, Option.isSome_eq_false_iff, Option.isNone_iff_eq_none] at h

lemma ten_mul_signed (negative : Bool) (k d : ℕ) :
    (if negative then 10 * signed negative k - d else 10 * signed negative k + d) = signed negative (10 * k + d) := by
  cases negative with
  | false =>
    simp only [signed_false, Bool.false_eq_true, ↓reduceIte]
    omega
  | true =>
    simp only [signed_true, ↓reduceIte]
    omega

def overflow (negative : Bool) : IntegerError :=
  if negative then .negativeOverflow else .positiveOverflow

lemma readDigits_cons (t : IntegerType) (negative : Bool) (k : ℕ) (c : Char) (cs : List Char) :
    t.readDigits negative (signed negative k) (c :: cs) =
      if Decimal.isDigit c then
        if t.Holds (signed negative (10 * k + (c.toNat - '0'.toNat))) then
          t.readDigits negative (signed negative (10 * k + (c.toNat - '0'.toNat))) cs
        else .error (overflow negative)
      else .error .invalidDigit := by
  rw [readDigits]
  by_cases hc : Decimal.isDigit c = true
  · simp only [decimalDigit?_of_isDigit hc, hc, ↓reduceIte, ten_mul_signed, overflow]
  · rw [Bool.not_eq_true] at hc
    simp only [decimalDigit?_of_not_isDigit hc, hc, Bool.false_eq_true, ↓reduceIte]

lemma readDigits_eq (hd : ∀ c ∈ cs, Decimal.isDigit c = true)
    (h : t.Holds (signed negative (Nat.ofDigitChars 10 cs k))) :
    t.readDigits negative (signed negative k) cs = .ok (signed negative (Nat.ofDigitChars 10 cs k)) := by
  induction cs generalizing k with
  | nil => rfl
  | cons c cs ih =>
    have hh : t.Holds (signed negative (10 * k + (c.toNat - '0'.toNat))) := h.of_le (le_ofDigitChars _ cs)
    rw [readDigits_cons, if_pos (hd c (by simp)), if_pos hh]
    exact ih (fun c hc => hd c (by simp [hc])) h

lemma readDigits_toDigits (negative : Bool) (h : t.Holds (signed negative k)) :
    t.readDigits negative 0 (Nat.toDigits 10 k) = .ok (signed negative k) := by
  have hz : signed negative 0 = 0 := by cases negative <;> rfl
  have hv := Nat.ofDigitChars_ten_toDigits (n := k)
  have hr : t.readDigits negative (signed negative 0) (Nat.toDigits 10 k) =
      .ok (signed negative (Nat.ofDigitChars 10 (Nat.toDigits 10 k) 0)) :=
    readDigits_eq (fun c => Decimal.isDigit_of_mem_toDigits) (by rwa [hv])
  rwa [hz, hv] at hr

lemma toDigits_eq_cons (k : ℕ) : ∃ c cs, Nat.toDigits 10 k = c :: cs ∧ Decimal.isDigit c = true := by
  obtain ⟨c, cs, hc⟩ := List.exists_cons_of_ne_nil (Nat.toDigits_ne_nil (b := 10) (n := k))
  exact ⟨c, cs, hc, Decimal.isDigit_of_mem_toDigits (n := k) (by simp [hc])⟩

lemma readChars_toDigits (h : t.Holds k) : t.readChars (Nat.toDigits 10 k) = .ok k := by
  have hr : t.readDigits false 0 (Nat.toDigits 10 k) = .ok k := readDigits_toDigits false h
  obtain ⟨c, cs, hc, hd⟩ := toDigits_eq_cons k
  rw [hc] at hr ⊢
  rw [readChars]
  · exact hr
  · rintro rfl
    exact absurd hd (by decide)
  · rintro rfl
    exact absurd hd (by decide)

lemma readChars_neg_toDigits (h : t.Holds (-k)) (hk : 0 < k) :
    t.readChars ('-' :: Nat.toDigits 10 k) = .ok (-k) := by
  have hr : t.readDigits true 0 (Nat.toDigits 10 k) = .ok (-k) := readDigits_toDigits true h
  obtain ⟨c, cs, hc, -⟩ := toDigits_eq_cons k
  rw [readChars, if_pos (isSigned_of_holds h (by omega))]
  rw [hc] at hr ⊢
  exact hr

lemma read_toString (h : t.Holds n) : t.read (toString n) = .ok n := by
  rw [read]
  cases n with
  | ofNat k =>
    have ht : (toString (Int.ofNat k)).toList = Nat.toDigits 10 k := Nat.toList_repr
    rw [ht]
    exact readChars_toDigits h
  | negSucc k =>
    have ht : (toString (Int.negSucc k)).toList = '-' :: Nat.toDigits 10 (k + 1) := by
      have hr : toString (Int.negSucc k) = "-" ++ (k + 1).repr := rfl
      rw [hr, String.toList_append, Nat.toList_repr]
      rfl
    rw [ht]
    exact readChars_neg_toDigits h k.succ_pos

end CommandLine.IntegerType
