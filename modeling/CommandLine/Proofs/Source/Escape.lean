import CommandLine.Source.Literal
import Mathlib.Tactic.Common

/-! A quoted literal denotes the text that it was written for. -/

namespace CommandLine.Source

namespace Escape

variable {m k : Mode} {c : Char} {cs rest : List Char}

lemma decodeFrom_cons {out : Option Char} (hm : c = '"' → m ≠ .plain ∧ m ≠ .skipping)
    (hs : step m c = some (k, out)) :
    decodeFrom m (c :: cs) = (decodeFrom k cs).map (out.toList ++ ·) := by
  have hq : ¬ (c = '"' ∧ (m = .plain ∨ m = .skipping)) := by
    rintro ⟨hc, h | h⟩
    · exact (hm hc).1 h
    · exact (hm hc).2 h
  rw [decodeFrom, if_neg hq, hs]

lemma decodeFrom_none (hm : c = '"' → m ≠ .plain ∧ m ≠ .skipping) (hs : step m c = some (k, none)) :
    decodeFrom m (c :: cs) = decodeFrom k cs := by
  rw [decodeFrom_cons hm hs]
  simp

lemma hexDigit?_digitChar : ∀ d < 16, hexDigit? d.digitChar = some d := by decide

lemma digitChar_ne_close : ∀ d < 16, d.digitChar ≠ '}' ∧ d.digitChar ≠ '_' := by decide

lemma decodeFrom_toDigits (n : ℕ) (hn : (Nat.toDigits 16 n).length ≤ 6) :
    decodeFrom (.digits 0 0) (Nat.toDigits 16 n ++ rest) =
      decodeFrom (.digits n (Nat.toDigits 16 n).length) rest := by
  have hone : ∀ v k d, d < 16 → k < 6 → ∀ cs,
      decodeFrom (.digits v k) (d.digitChar :: cs) = decodeFrom (.digits (16 * v + d) (k + 1)) cs := by
    intro v k d hd hk cs
    refine decodeFrom_none (by simp) ?_
    obtain ⟨h₁, h₂⟩ := digitChar_ne_close d hd
    simp only [step, h₁, h₂, if_false, hexDigit?_digitChar d hd, Option.bind_some, hk, if_true]
  induction n using Nat.strongRecOn generalizing rest with
  | ind n ih =>
    rw [Nat.toDigits_eq_if (by decide)] at hn ⊢
    split
    · rename_i h
      simpa using hone 0 0 n h (by decide) rest
    · rename_i h
      rw [if_neg h, List.length_append, List.length_singleton] at hn
      rw [List.append_assoc, ih (n / 16) (by omega) (by omega), List.singleton_append,
        hone _ _ _ (by omega) (by omega), List.length_append, List.length_singleton]
      congr 2
      omega

lemma decodeFrom_codePoint (c : Char) (cs : List Char) :
    decodeFrom .plain (codePoint c ++ cs) = (decodeFrom .plain cs).map (c :: ·) := by
  have hv : c.toNat.isValidChar := c.valid
  have hlen : (Nat.toDigits 16 c.toNat).length ≤ 6 := by
    refine (Nat.length_toDigits_le_iff (by decide) (by decide)).mpr ?_
    simp only [Nat.isValidChar] at hv
    omega
  have hc : step (.digits c.toNat (Nat.toDigits 16 c.toNat).length) '}' = some (.plain, some c) := by
    simp [step, charOfNat?, hv, Char.ofNat_toNat]
  have ht : codePoint c ++ cs = '\\' :: 'u' :: '{' :: (Nat.toDigits 16 c.toNat ++ '}' :: cs) := by
    simp [codePoint]
  rw [ht, decodeFrom_none (k := .escaped) (by decide) rfl, decodeFrom_none (k := .brace) (by decide) rfl,
    decodeFrom_none (k := .digits 0 0) (by decide) rfl, decodeFrom_toDigits _ hlen,
    decodeFrom_cons (by simp) hc]
  rfl

lemma decodeFrom_encodeChar (c : Char) (cs : List Char) :
    decodeFrom .plain (encodeChar c ++ cs) = (decodeFrom .plain cs).map (c :: ·) := by
  have hpair : ∀ x y : Char, step .escaped x = some (.plain, some y) →
      decodeFrom .plain ('\\' :: x :: cs) = (decodeFrom .plain cs).map (y :: ·) := by
    intro x y hx
    rw [decodeFrom_none (k := .escaped) (by decide) rfl, decodeFrom_cons (by simp) hx]
    rfl
  rw [encodeChar]
  split_ifs with h₁ h₂ h₃ h₄ h₅ h₆
  · exact h₁ ▸ hpair '"' '"' rfl
  · exact h₂ ▸ hpair '\\' '\\' rfl
  · exact h₃ ▸ hpair 'n' '\n' rfl
  · exact h₄ ▸ hpair 'r' '\r' rfl
  · exact h₅ ▸ hpair 't' '\t' rfl
  · rw [List.singleton_append, decodeFrom_cons (by simp [h₁])
      (show step .plain c = some (.plain, some c) by simp [step, plainStep, h₂, h₄])]
    rfl
  · exact decodeFrom_codePoint c cs

lemma decodeFrom_encodeNul (after cs : List Char) :
    decodeFrom .plain (encodeNul after ++ cs) = (decodeFrom .plain cs).map ('\x00' :: ·) := by
  have hshort : decodeFrom .plain ('\\' :: '0' :: cs) = (decodeFrom .plain cs).map ('\x00' :: ·) := by
    rw [decodeFrom_none (k := .escaped) (by decide) rfl,
      decodeFrom_cons (by decide) (show step .escaped '0' = some (.plain, some '\x00') from rfl)]
    rfl
  have hlong : decodeFrom .plain ('\\' :: 'x' :: '0' :: '0' :: cs) =
      (decodeFrom .plain cs).map ('\x00' :: ·) := by
    rw [decodeFrom_none (k := .escaped) (by decide) rfl, decodeFrom_none (k := .byte none) (by decide) rfl,
      decodeFrom_none (k := .byte (some 0)) (by decide) rfl,
      decodeFrom_cons (by decide) (show step (.byte (some 0)) '0' = some (.plain, some '\x00') from rfl)]
    rfl
  rw [encodeNul]
  split
  · split
    · exact hlong
    · exact hshort
  · exact hshort

lemma decode_encode (cs rest : List Char) : decode (encode cs ++ '"' :: rest) = some cs := by
  rw [decode]
  induction cs with
  | nil => simp [encode, decodeFrom]
  | cons c cs ih =>
    rw [encode, List.append_assoc]
    split
    · rename_i hc
      rw [decodeFrom_encodeNul, ih, hc]
      rfl
    · rw [decodeFrom_encodeChar, ih]
      rfl

end Escape

lemma Literal.stringValue?_ofString (s : String) : (ofString s).stringValue? = some s := by
  simp [stringValue?, ofString, Escape.decode_encode]

end CommandLine.Source
