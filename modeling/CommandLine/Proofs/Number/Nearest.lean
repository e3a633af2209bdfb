import CommandLine.Proofs.Number.Rounding

/-! Rounding told by bit patterns: the nearest of the finite ones, or infinity. -/

namespace CommandLine

variable {m n : ℕ} {x q : ℚ} {e : ℤ} {w : FloatWidth} {b b' : ℕ}

lemma Rounds.abs_sub_le (h : Rounds x m) : |x - m| ≤ 1 / 2 :=
  abs_le.mpr ⟨by linarith [h.low], by linarith [h.high]⟩

lemma Rounds.half_le_abs_sub (h : Rounds x m) (hn : n ≠ m) : 1 / 2 ≤ |x - n| := by
  rcases lt_or_gt_of_ne hn with hlt | hgt
  · have hs : (n + 1 : ℚ) ≤ m := by exact_mod_cast hlt
    exact le_abs.mpr (Or.inl (by linarith [h.low]))
  · have hs : (m + 1 : ℚ) ≤ n := by exact_mod_cast hgt
    exact le_abs.mpr (Or.inr (by linarith [h.high]))

lemma Rounds.closest (h : Rounds x m) (n : ℕ) : |x - m| ≤ |x - n| := by
  by_cases hn : n = m
  · rw [hn]
  · exact h.abs_sub_le.trans (h.half_le_abs_sub hn)

lemma Rounds.even_of_eq (h : Rounds x m) (hn : n ≠ m) (he : |x - m| = |x - n|) : m % 2 = 0 := by
  have hhalf : |x - m| = 1 / 2 := le_antisymm h.abs_sub_le (he ▸ h.half_le_abs_sub hn)
  refine h.tie ((abs_eq (by norm_num)).mp hhalf |>.elim (fun hx => Or.inr ?_) fun hx => Or.inl ?_) <;> linarith

namespace FloatWidth

/-! A pattern without its sign has the exponent field above the fraction. -/

def exponentField (w : FloatWidth) (b : ℕ) : ℕ :=
  b / 2 ^ (w.precision - 1)

def fraction (w : FloatWidth) (b : ℕ) : ℕ :=
  b % 2 ^ (w.precision - 1)

def significand (w : FloatWidth) (b : ℕ) : ℕ :=
  if w.exponentField b = 0 then w.fraction b else 2 ^ (w.precision - 1) + w.fraction b

def lastPlace (w : FloatWidth) (b : ℕ) : ℤ :=
  w.leastExponent + (w.exponentField b - 1 : ℕ)

def magnitude (w : FloatWidth) (b : ℕ) : ℚ :=
  w.significand b * 2 ^ w.lastPlace b

def infinity (w : FloatWidth) : ℕ :=
  (2 ^ w.exponentBits - 1) * 2 ^ (w.precision - 1)

def overflow (w : FloatWidth) : ℚ :=
  (2 ^ w.precision - 1 / 2) * 2 ^ w.greatestExponent

/-- No finite pattern is nearer, and if another one is as near, this one is even. -/
structure Nearest (w : FloatWidth) (q : ℚ) (b : ℕ) : Prop where
  finite : b < w.infinity
  closest : ∀ b' < w.infinity, |q - w.magnitude b| ≤ |q - w.magnitude b'|
  even : ∀ b' < w.infinity, b' ≠ b → |q - w.magnitude b| = |q - w.magnitude b'| → b % 2 = 0

inductive RoundsTo (w : FloatWidth) (q : ℚ) : ℕ → Prop
  | finite {b : ℕ} (below : q < w.overflow) (nearest : w.Nearest q b) : RoundsTo w q b
  | infinite (beyond : w.overflow ≤ q) : RoundsTo w q w.infinity

lemma fields_eq {k f : ℕ} (hf : f < 2 ^ (w.precision - 1)) :
    w.exponentField (2 ^ (w.precision - 1) * k + f) = k ∧ w.fraction (2 ^ (w.precision - 1) * k + f) = f := by
  refine ⟨?_, ?_⟩
  · rw [exponentField, Nat.mul_add_div (Nat.two_pow_pos _), Nat.div_eq_of_lt hf, add_zero]
  · rw [fraction, Nat.mul_add_mod, Nat.mod_eq_of_lt hf]

lemma magnitude_subnormal (hm : m < 2 ^ (w.precision - 1)) : w.magnitude m = m * 2 ^ w.leastExponent := by
  obtain ⟨hk, hf⟩ := fields_eq (k := 0) hm
  rw [mul_zero, zero_add] at hk hf
  simp [magnitude, significand, lastPlace, hk, hf]

lemma magnitude_normal {k f : ℕ} (hf : f < 2 ^ (w.precision - 1)) :
    w.magnitude (2 ^ (w.precision - 1) * (k + 1) + f) =
      (2 ^ (w.precision - 1) + f) * 2 ^ (w.leastExponent + k) := by
  obtain ⟨hk, hf⟩ := fields_eq (k := k + 1) hf
  simp [magnitude, significand, lastPlace, hk, hf]

lemma magnitude_succ (w : FloatWidth) (b : ℕ) : w.magnitude (b + 1) = w.magnitude b + 2 ^ w.lastPlace b := by
  have hpos := Nat.two_pow_pos (w.precision - 1)
  obtain ⟨k, f, hf, rfl⟩ : ∃ k f, f < 2 ^ (w.precision - 1) ∧ b = 2 ^ (w.precision - 1) * k + f :=
    ⟨_, _, Nat.mod_lt b hpos, (Nat.div_add_mod b _).symm⟩
  have hlast : w.lastPlace (2 ^ (w.precision - 1) * k + f) = w.leastExponent + (k - 1 : ℕ) := by
    rw [lastPlace, (fields_eq hf).1]
  rw [hlast]
  by_cases hc : f + 1 < 2 ^ (w.precision - 1)
  · cases k with
    | zero =>
      rw [mul_zero, zero_add, magnitude_subnormal hc, magnitude_subnormal hf, Nat.zero_sub, Nat.cast_zero, add_zero]
      push_cast
      ring
    | succ k =>
      rw [add_assoc, magnitude_normal hc, magnitude_normal hf, Nat.add_sub_cancel]
      push_cast
      ring
  · have hf' : (f + 1 : ℚ) = 2 ^ (w.precision - 1) := by exact_mod_cast (by omega : f + 1 = _)
    have hb : 2 ^ (w.precision - 1) * k + f + 1 = 2 ^ (w.precision - 1) * (k + 1) + 0 := by
      rw [mul_add]
      omega
    rw [hb, magnitude_normal hpos]
    cases k with
    | zero =>
      rw [mul_zero, zero_add, magnitude_subnormal hf, ← hf', Nat.zero_sub]
      simp only [Nat.cast_zero, add_zero]
      ring
    | succ k =>
      rw [magnitude_normal hf, Nat.add_sub_cancel, ← hf']
      push_cast
      rw [← add_assoc, zpow_add_one₀ two_ne_zero]
      ring

lemma strictMono_magnitude (w : FloatWidth) : StrictMono w.magnitude :=
  strictMono_nat_of_lt_succ fun b => by
    rw [magnitude_succ]
    exact lt_add_of_pos_right _ (by positivity)

lemma Nearest.unique (h : w.Nearest q b) (h' : w.Nearest q b') : b = b' := by
  by_contra hne
  wlog hlt : b < b' generalizing b b'
  · exact this h' h (Ne.symm hne) (by omega)
  have heq : |q - w.magnitude b| = |q - w.magnitude b'| :=
    le_antisymm (h.closest _ h'.finite) (h'.closest _ h.finite)
  have hm : w.magnitude b < w.magnitude b' := w.strictMono_magnitude hlt
  have hmid : 2 * q = w.magnitude b + w.magnitude b' := by
    rcases abs_eq_abs.mp heq with he | he <;> linarith
  -- two even patterns have one between them, which is nearer than both
  have hb := h.even _ h'.finite (Ne.symm hne) heq
  have hb' := h'.even _ h.finite hne heq.symm
  have h₁ : w.magnitude b < w.magnitude (b + 1) := w.strictMono_magnitude (by omega)
  have h₂ : w.magnitude (b + 1) < w.magnitude b' := w.strictMono_magnitude (by omega)
  have hle := h.closest (b + 1) (by have := h'.finite; omega)
  rw [abs_of_nonneg (by linarith : 0 ≤ q - w.magnitude b)] at hle
  exact absurd hle (not_le.mpr (abs_lt.mpr ⟨by linarith, by linarith⟩))

lemma RoundsTo.unique (h : w.RoundsTo q b) (h' : w.RoundsTo q b') : b = b' := by
  cases h with
  | finite below nearest =>
    cases h' with
    | finite _ nearest' => exact nearest.unique nearest'
    | infinite beyond => exact absurd below (not_lt.mpr beyond)
  | infinite beyond =>
    cases h' with
    | finite below => exact absurd below (not_lt.mpr beyond)
    | infinite => rfl

lemma significand_lt (w : FloatWidth) (b : ℕ) : w.significand b < 2 ^ w.precision := by
  have hf : w.fraction b < 2 ^ (w.precision - 1) := Nat.mod_lt b (Nat.two_pow_pos _)
  rw [two_pow_precision, significand]
  split <;> omega

lemma IsQuantum.magnitude_cases (hq : w.IsQuantum q e) (b : ℕ) : (∃ n : ℕ, w.magnitude b = n * 2 ^ e) ∨
    w.magnitude b < 2 ^ (w.precision - 1) * 2 ^ e ∧ 2 ^ (w.precision - 1) * 2 ^ e ≤ q := by
  by_cases he : e ≤ w.lastPlace b
  · refine Or.inl ⟨w.significand b * 2 ^ (w.lastPlace b - e).toNat, ?_⟩
    rw [magnitude, ← sub_add_cancel (w.lastPlace b) e, zpow_add₀ two_ne_zero, sub_add_cancel]
    obtain ⟨k, hk⟩ := Int.eq_ofNat_of_zero_le (sub_nonneg.mpr he)
    rw [hk, Int.toNat_natCast, zpow_natCast]
    push_cast
    ring
  · have hleast : e ≠ w.leastExponent := by
      rw [lastPlace] at he
      omega
    refine Or.inr ⟨?_, ?_⟩
    · have hs : (w.significand b : ℚ) < 2 ^ w.precision := by exact_mod_cast w.significand_lt b
      have hp : (2 ^ w.precision : ℚ) = 2 * 2 ^ (w.precision - 1) := by exact_mod_cast two_pow_precision w
      calc w.magnitude b < 2 ^ w.precision * 2 ^ w.lastPlace b := by rw [magnitude]; gcongr
        _ ≤ 2 ^ w.precision * 2 ^ (e - 1) := by gcongr <;> [norm_num; omega]
        _ = 2 ^ (w.precision - 1) * 2 ^ e := by rw [hp, zpow_sub_one₀ two_ne_zero]; ring
    · rw [← (zpow_precision w e).2]
      exact hq.full.resolve_left hleast

lemma IsQuantum.nearest (hq : w.IsQuantum q e) (hm : Rounds (q / 2 ^ e) m) (hb : b < w.infinity)
    (hv : w.magnitude b = m * 2 ^ e) (heven : m % 2 = 0 → b % 2 = 0) : w.Nearest q b := by
  have hpos : (0 : ℚ) < 2 ^ e := by positivity
  have hdist : ∀ n : ℕ, |q - n * 2 ^ e| = |q / 2 ^ e - n| * 2 ^ e := by
    intro n
    rw [← abs_of_pos hpos, ← abs_mul, abs_of_pos hpos, sub_mul, div_mul_cancel₀ _ hpos.ne']
  have hclosest : ∀ n : ℕ, |q - w.magnitude b| ≤ |q - n * 2 ^ e| := by
    intro n
    rw [hv, hdist, hdist]
    exact mul_le_mul_of_nonneg_right (hm.closest n) hpos.le
  have hbelow : ∀ y, y < 2 ^ (w.precision - 1) * 2 ^ e → 2 ^ (w.precision - 1) * 2 ^ e ≤ q →
      |q - w.magnitude b| < |q - y| := by
    intro y hy hle
    have h := hclosest (2 ^ (w.precision - 1))
    push_cast at h
    rw [abs_of_nonneg (sub_nonneg.mpr hle)] at h
    rw [abs_of_pos (by linarith : 0 < q - y)]
    linarith
  refine ⟨hb, fun b' _ => ?_, fun b' _ hne heq => heven ?_⟩
  · rcases hq.magnitude_cases b' with ⟨n, hn⟩ | ⟨hlt, hle⟩
    · exact hn ▸ hclosest n
    · exact (hbelow _ hlt hle).le
  · rcases hq.magnitude_cases b' with ⟨n, hn⟩ | ⟨hlt, hle⟩
    · refine hm.even_of_eq (n := n) ?_ ?_
      · rintro rfl
        exact hne (w.strictMono_magnitude.injective (hn.trans hv.symm))
      · rw [hv, hn, hdist, hdist] at heq
        exact mul_right_cancel₀ hpos.ne' heq
    · exact absurd heq (hbelow _ hlt hle).ne

def finiteBits (w : FloatWidth) (m : ℕ) (e : ℤ) : ℕ :=
  (e - w.leastExponent).toNat * 2 ^ (w.precision - 1) + m

lemma pattern_finite (w : FloatWidth) (s : Bool) (m : ℕ) (e : ℤ) :
    w.pattern (.finite s m e) = w.signBit s + w.finiteBits m e := by
  simp only [pattern, finiteBits, Nat.pow_eq, add_assoc]

lemma pattern_infinite (w : FloatWidth) (s : Bool) : w.pattern (.infinite s) = w.signBit s + w.infinity := rfl

lemma even_finiteBits_iff (w : FloatWidth) (m : ℕ) (e : ℤ) : w.finiteBits m e % 2 = m % 2 := by
  have hp : 2 ∣ 2 ^ (w.precision - 1) := by cases w <;> decide
  rw [finiteBits, Nat.add_mod, Nat.mul_mod, Nat.mod_eq_zero_of_dvd hp, mul_zero, Nat.zero_mod, zero_add,
    Nat.mod_mod]

lemma Canonical.magnitude_finiteBits (hc : w.Canonical m e) : w.magnitude (w.finiteBits m e) = m * 2 ^ e := by
  rcases lt_or_ge m (2 ^ (w.precision - 1)) with hm | hm
  · obtain rfl := hc.full.resolve_right (not_le.mpr hm)
    rw [finiteBits, sub_self, Int.toNat_zero, zero_mul, zero_add, magnitude_subnormal hm]
  · obtain ⟨f, rfl⟩ := Nat.exists_eq_add_of_le hm
    obtain ⟨k, hk⟩ := Int.eq_ofNat_of_zero_le (sub_nonneg.mpr hc.least)
    have hf : f < 2 ^ (w.precision - 1) := by
      have := hc.bound
      rw [two_pow_precision] at this
      omega
    have hb : w.finiteBits (2 ^ (w.precision - 1) + f) e = 2 ^ (w.precision - 1) * (k + 1) + f := by
      rw [finiteBits, hk, Int.toNat_natCast]
      ring
    rw [hb, magnitude_normal hf, ← hk, add_sub_cancel]
    push_cast
    rfl

lemma Canonical.finiteBits_lt (hc : w.Canonical m e) : w.finiteBits m e < w.infinity := by
  have hk : (e - w.leastExponent).toNat + 2 ≤ 2 ^ w.exponentBits - 1 := by
    have hg := hc.greatest
    cases w <;> simp only [leastExponent, greatestExponent, exponentBits] at hg ⊢ <;> omega
  calc w.finiteBits m e < (e - w.leastExponent).toNat * 2 ^ (w.precision - 1) + 2 * 2 ^ (w.precision - 1) := by
        rw [← two_pow_precision]
        exact Nat.add_lt_add_left hc.bound _
    _ = ((e - w.leastExponent).toNat + 2) * 2 ^ (w.precision - 1) := by ring
    _ ≤ w.infinity := Nat.mul_le_mul_right _ hk

lemma overflow_le_zpow (w : FloatWidth) : w.overflow ≤ 2 ^ (w.greatestExponent + w.precision) := by
  rw [(zpow_precision w _).1, overflow]
  gcongr
  norm_num

lemma overflow_le (hq : w.IsQuantum q e) (hm : Rounds (q / 2 ^ e) m)
    (h : w.greatestExponent < e ∨ e = w.greatestExponent ∧ m = 2 ^ w.precision) : w.overflow ≤ q := by
  rcases h with hg | ⟨rfl, rfl⟩
  · have hleast : w.leastExponent ≤ w.greatestExponent := by cases w <;> decide
    calc w.overflow ≤ 2 ^ (w.greatestExponent + w.precision) := w.overflow_le_zpow
      _ ≤ 2 ^ (e + w.precision - 1) := zpow_le_zpow_right₀ (by norm_num) (by omega)
      _ ≤ q := hq.full.resolve_left (by omega)
  · have hx : 2 ^ w.precision - 1 / 2 ≤ q / 2 ^ w.greatestExponent := by
      have h := hm.low
      push_cast at h
      linarith
    exact (le_div_iff₀ (by positivity)).mp hx

lemma lt_overflow (hq : w.IsQuantum q e) (hm : Rounds (q / 2 ^ e) m) (hg : e ≤ w.greatestExponent)
    (hc : m = 2 ^ w.precision → e < w.greatestExponent) : q < w.overflow := by
  have hp : (2 ^ w.precision : ℚ) = 2 * 2 ^ (w.precision - 1) := by exact_mod_cast two_pow_precision w
  have hone : (1 : ℚ) ≤ 2 ^ (w.precision - 1) := one_le_pow₀ (by norm_num)
  rcases hg.lt_or_eq with hlt | rfl
  · calc q < 2 ^ (e + w.precision) := hq.high
      _ ≤ 2 ^ (w.greatestExponent + w.precision - 1) := zpow_le_zpow_right₀ (by norm_num) (by omega)
      _ = 2 ^ (w.precision - 1) * 2 ^ w.greatestExponent := (zpow_precision w _).2
      _ ≤ w.overflow := by
          rw [overflow, hp]
          gcongr
          linarith
  · have hle := hq.rounds_le hm
    have hne : m ≠ 2 ^ w.precision := fun h => absurd (hc h) (lt_irrefl _)
    have hm' : (m + 1 : ℚ) ≤ 2 ^ w.precision := by exact_mod_cast lt_of_le_of_ne hle hne
    by_contra ho
    rw [overflow, not_lt, ← le_div_iff₀ (by positivity)] at ho
    -- all ones is odd, so the tie does not go to it
    have heven := hm.tie (Or.inr (by linarith [hm.high]))
    have hodd : (m + 1 : ℚ) = 2 ^ w.precision := by linarith [hm.high]
    have hodd' : m + 1 = 2 * 2 ^ (w.precision - 1) := by
      rw [← two_pow_precision]
      exact_mod_cast hodd
    omega

lemma roundsTo_finiteBits (hq : w.IsQuantum q e) (hm : Rounds (q / 2 ^ e) m) (hc : w.Canonical m e) :
    w.RoundsTo q (w.finiteBits m e) :=
  .finite (lt_overflow hq hm hc.greatest fun h => absurd h hc.bound.ne)
    (hq.nearest hm hc.finiteBits_lt hc.magnitude_finiteBits fun h => by rw [even_finiteBits_iff, h])

lemma roundsTo_carried (hq : w.IsQuantum q e) (hm : Rounds (q / 2 ^ e) (2 ^ w.precision))
    (hc : w.Canonical (2 ^ (w.precision - 1)) (e + 1)) :
    w.RoundsTo q (w.finiteBits (2 ^ (w.precision - 1)) (e + 1)) := by
  have hg := hc.greatest
  refine .finite (lt_overflow hq hm (by omega) fun _ => by omega)
    (hq.nearest hm hc.finiteBits_lt ?_ fun _ => ?_)
  · rw [hc.magnitude_finiteBits, zpow_add_one₀ two_ne_zero, two_pow_precision]
    push_cast
    ring
  · rw [even_finiteBits_iff]
    cases w <;> rfl

lemma exists_roundsTo {num den : ℕ} (s : Bool) (hn : num ≠ 0) (hd : den ≠ 0) :
    ∃ b, w.RoundsTo (num / den) b ∧ w.pattern (w.round s num den) = w.signBit s + b := by
  have hq := isQuantum_quantum (w := w) hn hd
  generalize w.quantum num den = e at hq
  obtain ⟨m, hm⟩ : ∃ m, Rounds (num / den / 2 ^ e : ℚ) m := ⟨_, rounds_scaled hd e⟩
  have hround := round_eq (s := s) hn hd hq hm
  split_ifs at hround with hc hg hg
  · exact ⟨_, .infinite (overflow_le hq hm (by omega)), by rw [hround, pattern_infinite]⟩
  · subst hc
    exact ⟨_, roundsTo_carried hq hm (canonical_of_round hd hround), by rw [hround, pattern_finite]⟩
  · exact ⟨_, .infinite (overflow_le hq hm (Or.inl hg)), by rw [hround, pattern_infinite]⟩
  · exact ⟨_, roundsTo_finiteBits hq hm (canonical_of_round hd hround), by rw [hround, pattern_finite]⟩

end FloatWidth

end CommandLine
