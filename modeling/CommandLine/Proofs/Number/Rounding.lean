import CommandLine.Number.Decimal
import Mathlib.Algebra.Order.Field.Power
import Mathlib.Tactic.FieldSimp
import Mathlib.Tactic.Linarith
import Mathlib.Tactic.NormNum
import Mathlib.Tactic.Positivity
import Mathlib.Tactic.Ring

/-! Rounding to a binary format, as arithmetic on rational numbers. -/

namespace CommandLine

variable {num den m n : ℕ} {x : ℚ} {e e' : ℤ} {w : FloatWidth} {negative s : Bool}

lemma zpow_eq_div (b : ℕ) (k : ℤ) : (b : ℚ) ^ k = (b : ℚ) ^ k.toNat / (b : ℚ) ^ (-k).toNat := by
  obtain ⟨i, rfl | rfl⟩ := k.eq_nat_or_neg <;> simp

structure Rounds (x : ℚ) (n : ℕ) : Prop where
  low : 2 * (n : ℚ) ≤ 2 * x + 1
  high : 2 * x ≤ 2 * (n : ℚ) + 1
  tie : 2 * (n : ℚ) = 2 * x + 1 ∨ 2 * x = 2 * (n : ℚ) + 1 → n % 2 = 0

lemma Rounds.le_of_le (hm : Rounds x m) (hn : Rounds x n) : n ≤ m := by
  by_contra h
  have hs : (m : ℚ) + 1 ≤ n := by exact_mod_cast not_le.mp h
  have hx : 2 * x = 2 * (m : ℚ) + 1 := le_antisymm hm.high (by linarith [hn.low])
  have hn' : n = m + 1 := by
    have : (n : ℚ) = (m + 1 : ℕ) := by
      push_cast
      linarith [hn.low]
    exact_mod_cast this
  have hme := hm.tie (Or.inr hx)
  have hne := hn.tie (Or.inl (by rw [hx, hn']; push_cast; ring))
  omega

lemma Rounds.unique (hm : Rounds x m) (hn : Rounds x n) : m = n :=
  le_antisymm (hn.le_of_le hm) (hm.le_of_le hn)

lemma rounds_roundQuotient (hd : 0 < den) : Rounds (num / den) (roundQuotient num den) := by
  have hd' : (0 : ℚ) < den := by exact_mod_cast hd
  have hx : (num : ℚ) / den = (num / den : ℕ) + (num % den : ℕ) / den := by
    have h : (num : ℚ) = den * (num / den : ℕ) + (num % den : ℕ) := by
      exact_mod_cast (Nat.div_add_mod num den).symm
    field_simp
    linarith
  have hr : (num % den : ℕ) < (den : ℚ) := by exact_mod_cast Nat.mod_lt num hd
  have hy : (num % den : ℕ) / (den : ℚ) < 1 := (div_lt_one hd').mpr hr
  have hy₀ : 0 ≤ (num % den : ℕ) / (den : ℚ) := by positivity
  have htie : 2 * ((num % den : ℕ) / (den : ℚ)) = 1 ↔ den = 2 * (num % den) := by
    rw [mul_div_assoc', div_eq_one_iff_eq hd'.ne', eq_comm]
    norm_cast
  rw [hx]
  simp only [roundQuotient]
  split
  · rename_i h
    have hhalf : 1 ≤ 2 * ((num % den : ℕ) / (den : ℚ)) := by
      rw [mul_div_assoc', one_le_div hd']
      exact_mod_cast h.elim le_of_lt fun h => h.1.le
    refine ⟨by push_cast; linarith, by push_cast; linarith, fun ht => ?_⟩
    rcases ht with ht | ht <;> push_cast at ht
    · have := htie.mp (by linarith)
      omega
    · linarith
  · rename_i h
    have hhalf : 2 * ((num % den : ℕ) / (den : ℚ)) ≤ 1 := by
      rw [mul_div_assoc', div_le_one hd']
      exact_mod_cast not_lt.mp fun h' => h (Or.inl h')
    refine ⟨by linarith, by linarith, fun ht => ?_⟩
    rcases ht with ht | ht
    · linarith
    · have := htie.mp (by linarith)
      omega

namespace FloatWidth

/-- The exponent of the last bit that a format keeps of a number. -/
structure IsQuantum (w : FloatWidth) (x : ℚ) (e : ℤ) : Prop where
  least : w.leastExponent ≤ e
  high : x < 2 ^ (e + w.precision)
  full : e = w.leastExponent ∨ 2 ^ (e + w.precision - 1) ≤ x

lemma IsQuantum.le_of (h : w.IsQuantum x e) (h' : w.IsQuantum x e') : e' ≤ e := by
  rcases h'.full with hl | hl
  · exact hl ▸ h.least
  · have := (zpow_lt_zpow_iff_right₀ (by norm_num : (1 : ℚ) < 2)).mp (hl.trans_lt h.high)
    omega

lemma IsQuantum.unique (h : w.IsQuantum x e) (h' : w.IsQuantum x e') : e = e' :=
  le_antisymm (h'.le_of h) (h.le_of h')

lemma zpow_log2_le (hn : n ≠ 0) : (2 : ℚ) ^ (n.log2 : ℤ) ≤ n := by
  rw [zpow_natCast]
  exact_mod_cast Nat.log2_self_le hn

lemma lt_zpow_log2 (n : ℕ) : (n : ℚ) < 2 ^ ((n.log2 : ℤ) + 1) := by
  have h : (n : ℚ) < 2 ^ (n.log2 + 1) := by exact_mod_cast Nat.lt_log2_self
  exact_mod_cast h

lemma log2_quotient_bounds (hn : num ≠ 0) (hd : den ≠ 0) :
    (2 : ℚ) ^ ((num.log2 : ℤ) - den.log2 - 1) ≤ num / den ∧
      (num / den : ℚ) < 2 ^ ((num.log2 : ℤ) - den.log2 + 1) := by
  have hd' : (0 : ℚ) < den := by exact_mod_cast Nat.pos_of_ne_zero hd
  refine ⟨?_, ?_⟩
  · rw [le_div_iff₀ hd']
    calc (2 : ℚ) ^ ((num.log2 : ℤ) - den.log2 - 1) * den
        ≤ 2 ^ ((num.log2 : ℤ) - den.log2 - 1) * 2 ^ ((den.log2 : ℤ) + 1) := by
          gcongr
          exact (lt_zpow_log2 den).le
      _ = 2 ^ (num.log2 : ℤ) := by
          rw [← zpow_add₀ two_ne_zero]
          congr 1
          ring
      _ ≤ num := zpow_log2_le hn
  · rw [div_lt_iff₀ hd']
    calc (num : ℚ) < 2 ^ ((num.log2 : ℤ) + 1) := lt_zpow_log2 num
      _ = 2 ^ ((num.log2 : ℤ) - den.log2 + 1) * 2 ^ (den.log2 : ℤ) := by
          rw [← zpow_add₀ two_ne_zero]
          congr 1
          ring
      _ ≤ 2 ^ ((num.log2 : ℤ) - den.log2 + 1) * den := by
          gcongr
          exact zpow_log2_le hd

lemma zpow_le_quotient_iff (hd : den ≠ 0) (k : ℤ) :
    den * 2 ^ k.toNat ≤ num * 2 ^ (-k).toNat ↔ (2 : ℚ) ^ k ≤ num / den := by
  have hd' : (0 : ℚ) < den := by exact_mod_cast Nat.pos_of_ne_zero hd
  have hp : (0 : ℚ) < 2 ^ (-k).toNat := by positivity
  have hz := zpow_eq_div 2 k
  rw [Nat.cast_ofNat] at hz
  rw [hz, div_le_div_iff₀ hp hd', mul_comm _ (den : ℚ)]
  exact_mod_cast Iff.rfl

lemma isQuantum_quantum (hn : num ≠ 0) (hd : den ≠ 0) :
    w.IsQuantum (num / den) (w.quantum num den) := by
  have h2 : (1 : ℚ) ≤ 2 := by norm_num
  obtain ⟨hlow, hhigh⟩ := log2_quotient_bounds hn hd
  generalize hk : (num.log2 : ℤ) - den.log2 = k at hlow hhigh
  -- the base-two logarithm of the quotient
  obtain ⟨full, hf, hfl, hfh⟩ : ∃ full : ℤ,
      w.quantum num den = max (full - (w.precision - 1)) w.leastExponent ∧
      (2 : ℚ) ^ full ≤ num / den ∧ (num / den : ℚ) < 2 ^ (full + 1) := by
    refine ⟨if den * 2 ^ k.toNat ≤ num * 2 ^ (-k).toNat then k else k - 1, ?_, ?_⟩
    · simp only [quantum, hk, Nat.pow_eq]
    · split
      · rename_i h
        exact ⟨(zpow_le_quotient_iff hd k).mp h, hhigh⟩
      · rename_i h
        rw [zpow_le_quotient_iff hd k, not_le] at h
        exact ⟨hlow, by simpa using h⟩
  rw [hf]
  refine ⟨le_max_right _ _, hfh.trans_le (zpow_le_zpow_right₀ h2 (by omega)), ?_⟩
  rcases le_total (full - (w.precision - 1)) w.leastExponent with h | h
  · exact Or.inl (max_eq_right h)
  · rw [max_eq_left h]
    exact Or.inr ((zpow_le_zpow_right₀ h2 (by omega)).trans hfl)

structure Canonical (w : FloatWidth) (m : ℕ) (e : ℤ) : Prop where
  bound : m < 2 ^ w.precision
  least : w.leastExponent ≤ e
  greatest : e ≤ w.greatestExponent
  full : e = w.leastExponent ∨ 2 ^ (w.precision - 1) ≤ m

lemma canonical_zero (w : FloatWidth) : w.Canonical 0 w.leastExponent := by
  refine ⟨Nat.two_pow_pos _, le_rfl, ?_, Or.inl rfl⟩
  cases w <;> decide

lemma zpow_precision (w : FloatWidth) (e : ℤ) :
    (2 : ℚ) ^ (e + w.precision) = 2 ^ w.precision * 2 ^ e ∧
      (2 : ℚ) ^ (e + w.precision - 1) = 2 ^ (w.precision - 1) * 2 ^ e := by
  have hp : ((w.precision - 1 : ℕ) : ℤ) = w.precision - 1 := by cases w <;> rfl
  refine ⟨?_, ?_⟩
  · rw [add_comm, zpow_add₀ two_ne_zero, zpow_natCast]
  · rw [show e + (w.precision : ℤ) - 1 = ((w.precision - 1 : ℕ) : ℤ) + e by omega, zpow_add₀ two_ne_zero,
      zpow_natCast]

lemma two_pow_precision (w : FloatWidth) : 2 ^ w.precision = 2 * 2 ^ (w.precision - 1) := by
  cases w <;> rfl

lemma rounds_scaled (hd : den ≠ 0) (e : ℤ) :
    Rounds (num / den / 2 ^ e) (roundQuotient (num * 2 ^ (-e).toNat) (den * 2 ^ e.toNat)) := by
  have hx : (num / den / 2 ^ e : ℚ) = (num * 2 ^ (-e).toNat : ℕ) / (den * 2 ^ e.toNat : ℕ) := by
    have hz := zpow_eq_div 2 e
    rw [Nat.cast_ofNat] at hz
    rw [hz]
    push_cast
    field_simp
  rw [hx]
  exact rounds_roundQuotient (by positivity)

lemma round_eq (hn : num ≠ 0) (hd : den ≠ 0) (he : w.IsQuantum (num / den) e)
    (hm : Rounds (num / den / 2 ^ e) m) :
    w.round s num den =
      if m = 2 ^ w.precision then
        if w.greatestExponent < e + 1 then .infinite s else .finite s (2 ^ (w.precision - 1)) (e + 1)
      else if w.greatestExponent < e then .infinite s else .finite s m e := by
  obtain rfl := (isQuantum_quantum hn hd).unique he
  obtain rfl := (rounds_scaled hd _).unique hm
  rw [round, if_neg hn]
  simp only [Nat.pow_eq]
  split <;> rfl

lemma IsQuantum.rounds_le (hq : w.IsQuantum x e) (hm : Rounds (x / 2 ^ e) m) : m ≤ 2 ^ w.precision := by
  have hx : x / 2 ^ e < 2 ^ w.precision := by
    rw [div_lt_iff₀ (by positivity), ← (zpow_precision w e).1]
    exact hq.high
  have : (2 * m : ℚ) < 2 * 2 ^ w.precision + 1 := by linarith [hm.low]
  have : 2 * m < 2 * 2 ^ w.precision + 1 := by exact_mod_cast this
  omega

lemma canonical_of_round (hd : den ≠ 0) (h : w.round s num den = .finite negative m e) :
    w.Canonical m e := by
  by_cases hn : num = 0
  · rw [round, if_pos hn] at h
    cases h
    exact canonical_zero w
  have hq := isQuantum_quantum (w := w) hn hd
  generalize w.quantum num den = q at hq
  obtain ⟨r, hr⟩ : ∃ r, Rounds (num / den / 2 ^ q : ℚ) r := ⟨_, rounds_scaled hd q⟩
  have hpos : (0 : ℚ) < 2 ^ q := by positivity
  have hfull := (zpow_precision w q).2
  have hle := hq.rounds_le hr
  rw [round_eq hn hd hq hr] at h
  split at h
  · split at h
    · cases h
    · rename_i hg
      cases h
      refine ⟨?_, by have := hq.least; omega, not_lt.mp hg, Or.inr le_rfl⟩
      have := two_pow_precision w
      have := Nat.two_pow_pos (w.precision - 1)
      omega
  · split at h
    · cases h
    · rename_i hc hg
      cases h
      refine ⟨lt_of_le_of_ne hle hc, hq.least, not_lt.mp hg, hq.full.imp_right fun hx => ?_⟩
      have hx' : (2 ^ (w.precision - 1) : ℚ) ≤ num / den / 2 ^ e := by
        rw [le_div_iff₀ hpos, ← hfull]
        exact hx
      have : (2 * 2 ^ (w.precision - 1) : ℚ) ≤ 2 * m + 1 := by linarith [hr.high]
      have : 2 * 2 ^ (w.precision - 1) ≤ 2 * m + 1 := by exact_mod_cast this
      omega

lemma canonical_of_roundDecimal {d : Decimal} (h : w.roundDecimal s d = .finite negative m e) :
    w.Canonical m e := by
  rw [roundDecimal] at h
  split_ifs at h
  · cases h
    exact canonical_zero w
  · cases h
    exact canonical_zero w
  · exact canonical_of_round (Nat.pow_pos (by decide)).ne' h

lemma canonical_of_readMagnitude {cs : List Char} (h : w.readMagnitude s cs = .ok (.finite negative m e)) :
    w.Canonical m e := by
  rw [readMagnitude] at h
  split_ifs at h
  · cases h
  · cases h
  · split at h
    · exact canonical_of_roundDecimal (Except.ok.inj h)
    · cases h

lemma canonical_of_read {text : String} (h : w.read text = .ok (.finite negative m e)) : w.Canonical m e := by
  rw [read, readChars.eq_def] at h
  split at h
  · cases h
  all_goals exact canonical_of_readMagnitude h

end FloatWidth

end CommandLine
