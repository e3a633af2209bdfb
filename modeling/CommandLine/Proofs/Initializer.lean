import CommandLine.Proofs.Definition
import CommandLine.Proofs.Kind
import CommandLine.Proofs.Number.Integer
import CommandLine.Proofs.Number.Shortest
import CommandLine.Proofs.Source.Escape

/-! Initializers denote the initial values that they are written for. -/

namespace CommandLine

variable {k : Kind} {text source : String} {v : Value} {f : Field}

def Initializer.kind? : Initializer → Option Kind
  | .unset => none
  | .text _ => some .text
  | .integer _ _ t => some (.integer t)
  | .float _ _ w => some (.float w)
  | .boolean _ => some .boolean

namespace Kind

inductive Holds : Kind → Value → Prop
  | text (s : String) : Holds .text (.text s)
  | integer {t : IntegerType} {n : ℤ} (range : t.Holds n) : Holds (.integer t) (.integer n)
  | float (w : FloatWidth) (x : FloatValue) : Holds (.float w) (.float w x)
  | boolean (b : Bool) : Holds .boolean (.boolean b)

lemma holds_of_convert (h : k.convert text = .ok v) : k.Holds v := by
  rcases convert_eq_ok_iff.mp h with ⟨rfl, rfl⟩ | ⟨t, n, rfl, hr, rfl⟩ | ⟨w, x, rfl, -, rfl⟩ | ⟨b, rfl, -, rfl⟩
  · exact .text _
  · exact .integer (IntegerType.holds_of_read hr)
  · exact .float w x
  · exact .boolean b

lemma readDefault_cases (h : k.readDefault source = .ok v) :
    (k = .text ∧ v = .text source) ∨ (∃ t n, k = .integer t ∧ v = .integer n) ∨
      (∃ w negative m e, k = .float w ∧ v = .float w (.finite negative m e) ∧ w.Canonical m e) ∨
      ∃ b, k = .boolean ∧ v = .boolean b := by
  obtain ⟨hc, hf⟩ := readDefault_eq_ok_iff.mp h
  rcases convert_eq_ok_iff.mp hc with hv | ⟨t, n, hk, -, hv⟩ | ⟨w, x, hk, hr, hv⟩ | ⟨b, hk, -, hv⟩
  · exact Or.inl hv
  · exact Or.inr (Or.inl ⟨t, n, hk, hv⟩)
  · cases x with
    | finite negative m e =>
      exact Or.inr (Or.inr (Or.inl ⟨w, negative, m, e, hk, hv, FloatWidth.canonical_of_read hr⟩))
    | nan negative => exact absurd (hf w _ hv) (by simp [FloatValue.isFinite])
    | infinite negative => exact absurd (hf w _ hv) (by simp [FloatValue.isFinite])
  · exact Or.inr (Or.inr (Or.inr ⟨b, hk, hv⟩))

lemma eval_initializer (h : k.readDefault source = .ok v) : (k.initializer v).eval k = some v := by
  rcases readDefault_cases h with ⟨rfl, rfl⟩ | ⟨t, n, rfl, rfl⟩ | ⟨w, negative, m, e, rfl, rfl, hc⟩ |
    ⟨b, rfl, rfl⟩
  · simp [initializer, Initializer.eval, Source.Literal.stringValue?_ofString]
  · have hn : Decimal.digitsValue (toString n.natAbs).toList = n.natAbs := by
      rw [Nat.toString_eq_repr, Nat.toList_repr, Decimal.digitsValue_toDigits]
    simp only [initializer, Initializer.eval, hn, decide_eq_true_eq]
    congr 2
    split <;> omega
  · simp only [initializer, Initializer.eval, FloatWidth.read_shortest hc]
    cases negative <;> rfl
  · rfl

lemma kind?_initializer (h : k.readDefault source = .ok v) : (k.initializer v).kind? = some k := by
  rcases readDefault_cases h with ⟨rfl, rfl⟩ | ⟨t, n, rfl, rfl⟩ | ⟨w, negative, m, e, rfl, rfl, -⟩ | ⟨b, rfl, rfl⟩
  · rfl
  · rfl
  · rfl
  · rfl

end Kind

namespace Field

lemma eval_initializer (h : ∀ v, f.default = some v → ∃ source, f.kind.readDefault source = .ok v) :
    f.initializer.eval f.kind = some f.initialValue := by
  rw [initializer, initialValue]
  cases hd : f.default with
  | none => rfl
  | some v =>
    obtain ⟨source, hs⟩ := h v hd
    exact Kind.eval_initializer hs

end Field

end CommandLine
