import CommandLine.Proofs.Text.Ascii
import CommandLine.Text.Identifier
import Mathlib.Data.List.Chain
import Mathlib.Tactic.Common

namespace CommandLine.Text

section Search

variable {t : RangeTable} {c : Char} {n low high i : ℕ} {r : ℕ × ℕ}

def Below (r s : ℕ × ℕ) : Prop :=
  r.1 ≤ r.2 ∧ r.2 < s.1 ∧ s.1 ≤ s.2

instance (r s : ℕ × ℕ) : Decidable (Below r s) :=
  inferInstanceAs (Decidable (_ ∧ _))

instance : Trans Below Below Below where
  trans h h' := ⟨h.1, h.2.1.trans (Nat.lt_of_le_of_lt h.2.2 h'.2.1), h'.2.2⟩

lemma containsWithin_sound (h : t.containsWithin n low high = true) : ∃ r ∈ t, r.1 ≤ n ∧ n ≤ r.2 := by
  fun_induction RangeTable.containsWithin t n low high with
  | case1 => cases h
  | case2 low high hlt mid first last hr hn ih => exact ih h
  | case3 low high hlt mid first last hr hn hl ih => exact ih h
  | case4 low high hlt mid first last hr hn hl =>
    exact ⟨(first, last), Array.mem_of_getElem? hr, Nat.not_lt.mp hn, Nat.not_lt.mp hl⟩
  | case5 => cases h

section

variable (ascending : t.toList.Pairwise Below)
include ascending

lemma bounds_le {j : ℕ} {s : ℕ × ℕ} (hr : t[i]? = some r) (hs : t[j]? = some s) (h : i ≤ j) :
    r.1 ≤ s.1 ∧ r.2 ≤ s.2 := by
  obtain ⟨hi, rfl⟩ := Array.getElem?_eq_some_iff.mp hr
  obtain ⟨hj, rfl⟩ := Array.getElem?_eq_some_iff.mp hs
  rcases Nat.eq_or_lt_of_le h with rfl | hlt
  · exact ⟨le_rfl, le_rfl⟩
  · obtain ⟨h₁, h₂, h₃⟩ := List.pairwise_iff_getElem.mp ascending i j hi hj hlt
    simp only [Array.getElem_toList] at h₁ h₂ h₃
    omega

lemma containsWithin_complete (hr : t[i]? = some r) (hn : r.1 ≤ n) (hn' : n ≤ r.2) (hlow : low ≤ i)
    (hhigh : i < high) (hsize : high ≤ t.size) : t.containsWithin n low high = true := by
  -- The ranges before one that ends too early and behind one that begins too late do so, too.
  fun_induction RangeTable.containsWithin t n low high with
  | case1 low high hlt mid hm =>
    have hmid : t.size ≤ mid := Array.getElem?_eq_none_iff.mp hm
    omega
  | case2 low high hlt mid first last hm hf ih =>
    have hi : i < mid := Nat.lt_of_not_le fun hle => by
      have hb := (bounds_le ascending hm hr hle).1
      omega
    exact ih hlow hi (by omega)
  | case3 low high hlt mid first last hm hf hl ih =>
    have hi : mid < i := Nat.lt_of_not_le fun hle => by
      have hb := (bounds_le ascending hr hm hle).2
      omega
    exact ih hi hhigh hsize
  | case4 => rfl
  | case5 => omega

lemma contains_iff : t.contains c = true ↔ ∃ r ∈ t, r.1 ≤ c.toNat ∧ c.toNat ≤ r.2 := by
  refine ⟨containsWithin_sound, ?_⟩
  rintro ⟨r, hr, hc, hc'⟩
  obtain ⟨i, hi⟩ := Array.mem_iff_getElem?.mp hr
  exact containsWithin_complete ascending hi hc hc' (Nat.zero_le i) (Array.getElem?_eq_some_iff.mp hi).1 le_rfl

end

end Search

section Letters

variable {c x : Char} {cs : List Char} {e : ℕ × ℕ × ℕ × ℕ}

lemma ascending_startRanges : startRanges.toList.Pairwise Below :=
  List.IsChain.pairwise (by decide +kernel)

lemma ascending_continueRanges : continueRanges.toList.Pairwise Below :=
  List.IsChain.pairwise (by decide +kernel)

def covers (low high : ℕ) (r : ℕ × ℕ) : Bool :=
  high.ble r.2 && r.1.ble low

def lands (e : ℕ × ℕ × ℕ × ℕ) : Bool :=
  startRanges.toList.any (covers e.2.2.2 (e.2.2.2 + (e.2.1 - e.1)))

def Misses (e : ℕ × ℕ × ℕ × ℕ) : Prop :=
  ∀ r ∈ startRanges.toList ++ continueRanges.toList, r.2 < e.1 ∨ e.2.1 < r.1

instance (e : ℕ × ℕ × ℕ × ℕ) : Decidable (Misses e) :=
  inferInstanceAs (Decidable (∀ r ∈ _, _))

lemma lowerRanges_cases : ∀ e ∈ lowerRanges.toList, lands e = true ∨ Misses e ∨ e = (0x212a, 0x212a, 1, 0x6b) := by
  decide +kernel

lemma isValidChar_of_mem : ∀ r ∈ startRanges.toList, 0x80 ≤ r.1 ∧ (r.2 < 0xd800 ∨ 0xdfff < r.1 ∧ r.2 < 0x110000) := by
  decide +kernel

lemma isIdentifierContinue_iff (hc : 0x80 ≤ c.toNat) : isIdentifierContinue c = true ↔
    ∃ r ∈ startRanges.toList ++ continueRanges.toList, r.1 ≤ c.toNat ∧ c.toNat ≤ r.2 := by
  rw [isIdentifierContinue, if_neg (Nat.not_lt.mpr hc), Bool.or_eq_true, contains_iff ascending_startRanges,
    contains_iff ascending_continueRanges]
  simp only [List.mem_append, Array.mem_toList_iff, or_and_right, exists_or]

lemma not_misses (hc : 0x80 ≤ c.toNat) (hi : isIdentifierContinue c = true) (hf : e.1 ≤ c.toNat)
    (hl : c.toNat ≤ e.2.1) : ¬ Misses e := by
  intro hm
  obtain ⟨r, hr, h, h'⟩ := (isIdentifierContinue_iff hc).mp hi
  have hr := hm r hr
  omega

lemma isIdentifierContinue_of_lands (h : lands e = true) {k : ℕ} (hk : k ≤ e.2.1 - e.1) :
    isIdentifierContinue (Char.ofNat (e.2.2.2 + k)) = true := by
  obtain ⟨r, hr, hc⟩ := List.any_eq_true.mp h
  obtain ⟨hhigh, hlow⟩ := Bool.and_eq_true_iff.mp hc
  have hhigh := Nat.le_of_ble_eq_true hhigh
  have hlow := Nat.le_of_ble_eq_true hlow
  obtain ⟨hascii, hvalid⟩ := isValidChar_of_mem r hr
  have hv : (e.2.2.2 + k).isValidChar := by
    rw [Nat.isValidChar]
    omega
  have hn : (Char.ofNat (e.2.2.2 + k)).toNat = e.2.2.2 + k := by
    rw [Char.ofNat, dif_pos hv]
    rfl
  refine (isIdentifierContinue_iff (by omega)).mpr ⟨r, List.mem_append_left _ hr, ?_⟩
  omega

lemma isIdentifierContinue_lowerChar (h : isIdentifierContinue c = true) :
    ∀ x ∈ lowerChar c, isIdentifierContinue x = true := by
  rw [lowerChar]
  split_ifs with hascii hdotted
  · have hc : isIdentifierContinue c = true → isIdentifierContinue c.toLower = true :=
      forall_ascii (p := fun c => isIdentifierContinue c = true → isIdentifierContinue c.toLower = true)
        (by decide +kernel) hascii
    simpa using hc h
  · have hdot : isIdentifierContinue '\u0307' = true := by decide +kernel
    exact List.forall_mem_cons.mpr ⟨by decide, List.forall_mem_singleton.mpr hdot⟩
  · have hc := Nat.not_lt.mp hascii
    split
    · rename_i first last stride small he
      have hmem := Array.mem_of_find?_eq_some he
      have hrange := Array.find?_some he
      simp only [Bool.and_eq_true, decide_eq_true_eq] at hrange
      obtain ⟨⟨hf, hl⟩, -⟩ := hrange
      rcases lowerRanges_cases _ (Array.mem_toList_iff.mpr hmem) with hlands | hmisses | he
      · simpa using isIdentifierContinue_of_lands hlands (Nat.sub_le_sub_right hl first)
      · exact absurd hmisses (not_misses hc h hf hl)
      · cases he
        have hkelvin : c.toNat = 0x212a := Nat.le_antisymm hl hf
        have hk : isIdentifierContinue 'k' = true := by decide
        simpa [hkelvin] using hk
    · simpa using h

lemma isIdentifierContinue_lowerFrom (h : ∀ c ∈ cs, isIdentifierContinue c = true) (before : List Char) :
    ∀ x ∈ lowerFrom before cs, isIdentifierContinue x = true := by
  have hsigma : isIdentifierContinue 'ς' = true ∧ isIdentifierContinue 'σ' = true := by decide +kernel
  induction cs generalizing before with
  | nil => simp [lowerFrom]
  | cons c cs ih =>
    obtain ⟨hc, hcs⟩ := List.forall_mem_cons.mp h
    intro x hx
    rw [lowerFrom] at hx
    rcases List.mem_append.mp hx with hx | hx
    · split_ifs at hx
      · exact List.mem_singleton.mp hx ▸ hsigma.1
      · exact List.mem_singleton.mp hx ▸ hsigma.2
      · exact isIdentifierContinue_lowerChar hc x hx
    · exact ih hcs _ x hx

lemma mem_lowerFrom (hc : c ∈ cs) (hs : c ≠ 'Σ') (hl : lowerChar c = [c]) (before : List Char) :
    c ∈ lowerFrom before cs := by
  induction cs generalizing before with
  | nil => cases hc
  | cons d cs ih =>
    rw [lowerFrom]
    rcases List.mem_cons.mp hc with rfl | hc
    · rw [if_neg hs, hl]
      exact List.mem_cons_self
    · exact List.mem_append_right _ (ih hc _)

end Letters

end CommandLine.Text
