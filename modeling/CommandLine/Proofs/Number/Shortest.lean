import CommandLine.Proofs.Number.Positional
import CommandLine.Proofs.Number.Rounding

/-! The shortest decimal of a value lies in the value's rounding interval, and whatever lies there is rounded to the
value. -/

namespace CommandLine

variable {m d num den unit : ℕ} {e s t : ℤ} {u x : ℚ} {w : FloatWidth} {i : RoundingInterval}
  {negative : Bool}

namespace Decimal

def value (d : Decimal) : ℚ :=
  d.digits * 10 ^ d.exponent

lemma value_lt {d : Decimal} (h : d.exponent < -(d.digits.log2 + 400)) : d.value < 2 ^ (-1200 : ℤ) := by
  obtain ⟨k, hk⟩ : ∃ k, k = d.digits.log2 + 401 := ⟨_, rfl⟩
  have h10 : (10 : ℚ) ^ d.exponent ≤ 2 ^ (-(3 * k : ℤ)) := by
    calc (10 : ℚ) ^ d.exponent ≤ 10 ^ (-(k : ℤ)) := zpow_le_zpow_right₀ (by norm_num) (by omega)
      _ = (10 ^ k)⁻¹ := by rw [zpow_neg, zpow_natCast]
      _ ≤ ((2 ^ 3) ^ k)⁻¹ := by gcongr; norm_num
      _ = 2 ^ (-(3 * k : ℤ)) := by rw [← pow_mul, zpow_neg]; norm_cast
  calc d.value ≤ d.digits * 2 ^ (-(3 * k : ℤ)) := by unfold value; gcongr
    _ < 2 ^ ((d.digits.log2 : ℤ) + 1) * 2 ^ (-(3 * k : ℤ)) := by
        gcongr
        exact FloatWidth.lt_zpow_log2 d.digits
    _ = 2 ^ ((d.digits.log2 : ℤ) + 1 - 3 * k) := by rw [← zpow_add₀ two_ne_zero, sub_eq_add_neg]
    _ ≤ 2 ^ (-1200 : ℤ) := zpow_le_zpow_right₀ (by norm_num) (by omega)

lemma value_lowered (d : Decimal) : d.lowered.value = d.value := by
  rw [lowered]
  split
  · rename_i h
    have hz : (10 : ℚ) ^ d.exponent = 10 ^ d.exponent.toNat := by
      rw [← zpow_natCast, Int.toNat_of_nonneg h]
    simp [value, hz]
  · rfl

end Decimal

namespace FloatWidth

lemma gridUnit_pos (s t : ℤ) : (0 : ℚ) < gridUnit s t := by
  simp only [gridUnit, Nat.pow_eq]
  positivity

lemma gridScale_pos (s t : ℤ) : 0 < gridScale s t := by
  simp only [gridScale, Nat.pow_eq]
  positivity

lemma gridUnit_mul (s t : ℤ) : (gridUnit s t : ℚ) * 2 ^ s = gridScale s t * 10 ^ t := by
  have h2 := zpow_eq_div 2 s
  have h10 := zpow_eq_div 10 t
  rw [Nat.cast_ofNat] at h2 h10
  rw [h2, h10, gridUnit, gridScale]
  push_cast [Nat.pow_eq]
  field_simp

end FloatWidth

namespace RoundingInterval

open FloatWidth

def Covers (i : RoundingInterval) (unit x : ℚ) : Prop :=
  if i.closed then i.low * unit ≤ x ∧ x ≤ i.high * unit else i.low * unit < x ∧ x < i.high * unit

lemma Covers.bounds (h : i.Covers u x) : i.low * u ≤ x ∧ x ≤ i.high * u := by
  rw [Covers] at h
  split at h
  · exact h
  · exact ⟨h.1.le, h.2.le⟩

lemma Covers.closed (h : i.Covers u x) (he : x = i.low * u ∨ x = i.high * u) : i.closed = true := by
  by_contra hc
  rw [Covers, if_neg hc] at h
  exact he.elim h.1.ne' h.2.ne

lemma contains_scale_iff :
    (i.scale (gridScale s t)).Contains (d * gridUnit s t) ↔ i.Covers (2 ^ s) (d * 10 ^ t) := by
  have hle : ∀ a : ℕ, a * gridScale s t ≤ d * gridUnit s t ↔ (a : ℚ) * 2 ^ s ≤ d * 10 ^ t := by
    intro a
    rw [← mul_le_mul_iff_left₀ (gridUnit_pos s t), mul_assoc, mul_comm (2 ^ s), gridUnit_mul, mul_right_comm,
      ← mul_assoc, mul_le_mul_iff_left₀ (by positivity)]
    exact_mod_cast Iff.rfl
  have hge : ∀ a : ℕ, d * gridUnit s t ≤ a * gridScale s t ↔ d * 10 ^ t ≤ (a : ℚ) * 2 ^ s := by
    intro a
    rw [← mul_le_mul_iff_left₀ (gridUnit_pos s t), mul_right_comm, mul_assoc (a : ℚ), mul_comm (2 ^ s),
      gridUnit_mul, ← mul_assoc, mul_le_mul_iff_left₀ (by positivity)]
    exact_mod_cast Iff.rfl
  rw [Contains, Covers, scale]
  simp only [hle, hge, ← not_le]

lemma contains_of_gridPoint? (h : i.gridPoint? unit = some d) : i.Contains (d * unit) := by
  rw [gridPoint?] at h
  split_ifs at h with h₁ h₂ h₃ <;> cases h
  · exact h₂.1
  · exact h₁
  · exact h₃

lemma gridPoint?_ne_none (hu : 0 < unit) (hl : i.low + unit ≤ i.value) (hh : i.value < i.high) :
    i.gridPoint? unit ≠ none := by
  have hle : i.value / unit * unit ≤ i.value := Nat.div_mul_le_self _ _
  have hlt : i.value < i.value / unit * unit + unit := Nat.lt_div_mul_add hu
  have hc : i.Contains (i.value / unit * unit) := by
    rw [Contains]
    split <;> omega
  rw [gridPoint?]
  rw [if_pos hc]
  split <;> simp

end RoundingInterval

namespace FloatWidth

def gridDigits? (i : RoundingInterval) (s t : ℤ) : Option ℕ :=
  (i.scale (gridScale s t)).gridPoint? (gridUnit s t)

lemma searchGrid_covers {fuel k : ℕ} (hk : k < fuel) (h : gridDigits? i s (t - k) ≠ none) :
    i.Covers (2 ^ s) (searchGrid i s fuel t).value := by
  induction fuel generalizing t k with
  | zero => omega
  | succ fuel ih =>
    rw [searchGrid]
    cases hg : (i.scale (gridScale s t)).gridPoint? (gridUnit s t) with
    | some d => exact RoundingInterval.contains_scale_iff.mp (RoundingInterval.contains_of_gridPoint? hg)
    | none =>
      cases k with
      | zero => exact absurd hg (by simpa [gridDigits?] using h)
      | succ k => exact ih (k := k) (by omega) (by convert h using 2; push_cast; ring)

lemma interval_low (w : FloatWidth) (m : ℕ) (e : ℤ) : 4 * m - 2 ≤ (w.interval m e).low ∧
    (w.interval m e).low ≤ 4 * m - 1 := by
  simp only [interval]
  split <;> omega

lemma gridDigits?_finestGrid (hm : 0 < m) :
    gridDigits? (w.interval m e) (e - 2) (finestGrid e) ≠ none := by
  obtain ⟨hl, hl'⟩ := w.interval_low m e
  have hunit : gridUnit (e - 2) (finestGrid e) ≤ gridScale (e - 2) (finestGrid e) := by
    have hf : (finestGrid e).toNat = 0 ∧ (-finestGrid e).toNat = (-(e - 2)).toNat := by
      rw [finestGrid]
      omega
    rw [gridUnit, gridScale, hf.1, hf.2]
    simp only [Nat.pow_eq, pow_zero, mul_one]
    calc 2 ^ (-(e - 2)).toNat ≤ 10 ^ (-(e - 2)).toNat := Nat.pow_le_pow_left (by norm_num) _
      _ ≤ 2 ^ (e - 2).toNat * 10 ^ (-(e - 2)).toNat := Nat.le_mul_of_pos_left _ (by positivity)
  refine RoundingInterval.gridPoint?_ne_none (by exact_mod_cast gridUnit_pos _ _) ?_ ?_
  · refine (Nat.add_le_add_left hunit _).trans ?_
    simp only [RoundingInterval.scale]
    rw [← Nat.succ_mul]
    exact Nat.mul_le_mul_right _ (show _ ≤ 4 * m by omega)
  · exact Nat.mul_lt_mul_of_pos_right (show 4 * m < 4 * m + 2 by omega) (gridScale_pos _ _)

lemma finestGrid_le_coarsestGrid (m : ℕ) (e : ℤ) : finestGrid e ≤ coarsestGrid m e := by
  rw [finestGrid, coarsestGrid]
  split <;> omega

lemma shortest_covers (hm : 0 < m) : (w.interval m e).Covers (2 ^ (e - 2)) (w.shortest m e).value := by
  rw [shortest, if_neg hm.ne']
  have hle := finestGrid_le_coarsestGrid m e
  refine searchGrid_covers (k := (coarsestGrid m e - finestGrid e).toNat) (by omega) ?_
  rw [Int.toNat_of_nonneg (by omega), sub_sub_cancel]
  exact gridDigits?_finestGrid hm

lemma zpow_quarter (e : ℤ) : (2 : ℚ) ^ e = 4 * 2 ^ (e - 2) ∧ (2 : ℚ) ^ (e - 1) = 2 * 2 ^ (e - 2) := by
  refine ⟨?_, ?_⟩
  · rw [show e = 2 + (e - 2) by ring, zpow_add₀ two_ne_zero, show 2 + (e - 2) - 2 = e - 2 by ring]
    norm_num
  · rw [show e - 1 = 1 + (e - 2) by ring, zpow_add₀ two_ne_zero, zpow_one]

lemma rounds_of_covers (hm : 0 < m) (hx : (w.interval m e).Covers (2 ^ (e - 2)) x) : Rounds (x / 2 ^ e) m := by
  have hpos : (0 : ℚ) < 2 ^ (e - 2) := by positivity
  obtain ⟨hl, hh⟩ := hx.bounds
  have hlow : (4 * m : ℚ) ≤ (w.interval m e).low + 2 := by
    have := (w.interval_low m e).1
    exact_mod_cast show 4 * m ≤ _ + 2 by omega
  have hhigh : ((w.interval m e).high : ℚ) = 4 * m + 2 := by simp [interval]
  obtain ⟨y, hy⟩ : ∃ y, x = y * 2 ^ (e - 2) := ⟨x / 2 ^ (e - 2), by field_simp⟩
  have hxy : x / 2 ^ e = y / 4 := by
    rw [hy, (zpow_quarter e).1]
    field_simp
  rw [hy] at hl hh
  replace hl := le_of_mul_le_mul_right hl hpos
  replace hh := le_of_mul_le_mul_right hh hpos
  rw [hxy]
  refine ⟨by linarith, by linarith, fun ht => ?_⟩
  have hc : (w.interval m e).closed = true := by
    refine hx.closed (ht.imp (fun h => ?_) fun h => ?_) <;> rw [hy] <;> congr 1 <;> linarith
  simpa [interval] using hc

lemma Canonical.round_of_full (hc : w.Canonical m e) (hm : 0 < m) (hn : num ≠ 0) (hd : den ≠ 0)
    (hx : (w.interval m e).Covers (2 ^ (e - 2)) (num / den))
    (hfull : e = w.leastExponent ∨ 2 ^ (e + w.precision - 1) ≤ (num / den : ℚ)) :
    w.round negative num den = .finite negative m e := by
  have hquantum : w.IsQuantum (num / den) e := by
    refine ⟨hc.least, hx.bounds.2.trans_lt ?_, hfull⟩
    have hpos : (0 : ℚ) < 2 ^ (e - 2) := by positivity
    have hb : (m + 1 : ℚ) ≤ 2 ^ w.precision := by exact_mod_cast hc.bound
    calc ((w.interval m e).high : ℚ) * 2 ^ (e - 2) = (4 * m + 2) * 2 ^ (e - 2) := by simp [interval]
      _ < 4 * (m + 1) * 2 ^ (e - 2) := by gcongr; linarith
      _ ≤ 4 * 2 ^ w.precision * 2 ^ (e - 2) := by gcongr
      _ = 2 ^ (e + w.precision) := by rw [(zpow_precision w e).1, (zpow_quarter e).1]; ring
  rw [FloatWidth.round_eq hn hd hquantum (rounds_of_covers hm hx), if_neg hc.bound.ne,
    if_neg (not_lt.mpr hc.greatest)]

lemma Canonical.low_of_not_full (hc : w.Canonical m e)
    (hx : (w.interval m e).Covers (2 ^ (e - 2)) x)
    (hfull : ¬ (e = w.leastExponent ∨ 2 ^ (e + w.precision - 1) ≤ x)) :
    m = 2 ^ (w.precision - 1) ∧ (w.interval m e).low = 4 * m - 1 := by
  obtain ⟨hleast, hbelow⟩ := not_or.mp hfull
  rw [(zpow_precision w e).2, not_le, (zpow_quarter e).1] at hbelow
  have hpos : (0 : ℚ) < 2 ^ (e - 2) := by positivity
  have hpm := hc.full.resolve_left hleast
  have hm : m = 2 ^ (w.precision - 1) := by
    by_contra hne
    have hlow : (w.interval m e).low = 4 * m - 2 := if_neg fun h => hne h.1
    have hstep : (4 * 2 ^ (w.precision - 1) : ℚ) ≤ (w.interval m e).low := by
      exact_mod_cast show 4 * 2 ^ (w.precision - 1) ≤ _ by omega
    nlinarith [hx.bounds.1]
  exact ⟨hm, if_pos ⟨hm, lt_of_le_of_ne hc.least (Ne.symm hleast)⟩⟩

lemma Canonical.round_of_not_full (hc : w.Canonical m e) (hn : num ≠ 0) (hd : den ≠ 0)
    (hx : (w.interval m e).Covers (2 ^ (e - 2)) (num / den))
    (hfull : ¬ (e = w.leastExponent ∨ 2 ^ (e + w.precision - 1) ≤ (num / den : ℚ))) :
    w.round negative num den = .finite negative m e := by
  obtain ⟨hm, hlow⟩ := hc.low_of_not_full hx hfull
  obtain ⟨hleast, hbelow⟩ := not_or.mp hfull
  obtain ⟨hhigh', hfull'⟩ := zpow_precision w (e - 1)
  obtain ⟨he, he'⟩ := zpow_quarter e
  rw [(zpow_precision w e).2, not_le, he] at hbelow
  have hp := two_pow_precision w
  have hp' : (2 : ℚ) ^ w.precision = 2 * 2 ^ (w.precision - 1) := by exact_mod_cast hp
  have hone : (1 : ℚ) ≤ 2 ^ (w.precision - 1) := one_le_pow₀ (by norm_num)
  have hpos : (0 : ℚ) < 2 * 2 ^ (e - 2) := by positivity
  have habove : (4 * 2 ^ (w.precision - 1) - 1 : ℚ) * 2 ^ (e - 2) ≤ num / den := by
    have hpm := Nat.two_pow_pos (w.precision - 1)
    refine le_trans (le_of_eq ?_) hx.bounds.1
    rw [hlow, Nat.cast_sub (by omega), hm]
    push_cast
    rfl
  -- the quotient falls short of a full significand, so one more bit of it is kept
  have hquantum : w.IsQuantum (num / den) (e - 1) := by
    have := hc.least
    refine ⟨by omega, ?_, Or.inr ?_⟩
    · rw [hhigh', hp', he']
      linarith
    · rw [hfull', he']
      refine le_trans ?_ habove
      nlinarith
  have hlo : (2 * 2 ^ (w.precision - 1) - 1 / 2 : ℚ) ≤ num / den / (2 * 2 ^ (e - 2)) := by
    rw [le_div_iff₀ hpos]
    linarith
  have hhi : (num / den / (2 * 2 ^ (e - 2)) : ℚ) < 2 * 2 ^ (w.precision - 1) := by
    rw [div_lt_iff₀ hpos]
    linarith
  -- with that bit it rounds to all ones and one, which is carried over
  have hround : Rounds (num / den / 2 ^ (e - 1)) (2 ^ w.precision) := by
    rw [he']
    refine ⟨?_, ?_, fun _ => by omega⟩ <;> push_cast <;> rw [hp'] <;> linarith
  rw [FloatWidth.round_eq hn hd hquantum hround, if_pos rfl, sub_add_cancel,
    if_neg (not_lt.mpr hc.greatest), hm]

lemma Canonical.round_eq (hc : w.Canonical m e) (hm : 0 < m) (hn : num ≠ 0) (hd : den ≠ 0)
    (hx : (w.interval m e).Covers (2 ^ (e - 2)) (num / den)) :
    w.round negative num den = .finite negative m e := by
  by_cases hfull : e = w.leastExponent ∨ 2 ^ (e + w.precision - 1) ≤ (num / den : ℚ)
  · exact hc.round_of_full hm hn hd hx hfull
  · exact hc.round_of_not_full hn hd hx hfull

lemma le_of_covers (hm : 0 < m) (hc : w.Canonical m e) (hx : (w.interval m e).Covers (2 ^ (e - 2)) x) :
    2 ^ (-1075 : ℤ) ≤ x := by
  have he : -1074 ≤ e := by
    refine le_trans ?_ hc.least
    cases w <;> decide
  have hl : (2 : ℚ) ≤ (w.interval m e).low := by
    have := (w.interval_low m e).1
    exact_mod_cast show 2 ≤ _ by omega
  calc (2 : ℚ) ^ (-1075 : ℤ) ≤ 2 ^ (1 + (e - 2)) := zpow_le_zpow_right₀ (by norm_num) (by omega)
    _ = 2 * 2 ^ (e - 2) := by rw [zpow_add₀ two_ne_zero, zpow_one]
    _ ≤ (w.interval m e).low * 2 ^ (e - 2) := by gcongr
    _ ≤ x := hx.bounds.1

lemma roundDecimal_of_covers {d : Decimal} (hm : 0 < m) (hc : w.Canonical m e) (hd : d.exponent ≤ 0)
    (hx : (w.interval m e).Covers (2 ^ (e - 2)) d.value) :
    w.roundDecimal negative d = .finite negative m e := by
  have hle := le_of_covers hm hc hx
  have hzero : d.digits ≠ 0 := by
    intro h
    rw [Decimal.value, h, Nat.cast_zero, zero_mul] at hle
    exact absurd hle (not_le.mpr (by positivity))
  have hlow : ¬ d.exponent < -(d.digits.log2 + 400) := fun h => by
    have hp : (2 : ℚ) ^ (-1200 : ℤ) ≤ 2 ^ (-1075 : ℤ) := zpow_le_zpow_right₀ (by norm_num) (by norm_num)
    exact absurd hle (not_le.mpr ((Decimal.value_lt h).trans_le hp))
  rw [roundDecimal, if_neg hzero, if_neg (by omega), if_neg hlow]
  simp only [Nat.pow_eq]
  refine hc.round_eq hm (by positivity) (by positivity) ?_
  have h10 := zpow_eq_div 10 d.exponent
  rw [Nat.cast_ofNat] at h10
  convert hx using 1
  rw [Decimal.value, h10]
  push_cast
  rw [mul_div_assoc]

lemma read_shortest (hc : w.Canonical m e) : w.read (w.shortest m e).positional = .ok (.finite false m e) := by
  rw [read_positional]
  by_cases hm : m = 0
  · obtain rfl : e = w.leastExponent := by
      refine hc.full.resolve_right fun h => ?_
      have := Nat.two_pow_pos (w.precision - 1)
      omega
    subst hm
    rfl
  · have hd : (w.shortest m e).lowered.exponent ≤ 0 := by
      rw [Decimal.lowered]
      split
      · exact le_rfl
      · omega
    rw [roundDecimal_of_covers (Nat.pos_of_ne_zero hm) hc hd]
    rw [Decimal.value_lowered]
    exact shortest_covers (Nat.pos_of_ne_zero hm)

end FloatWidth

end CommandLine
