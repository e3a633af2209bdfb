import CommandLine.Initializer
import Mathlib.Tactic.Common

namespace CommandLine

namespace Kind

variable {k : Kind} {w : FloatWidth} {text : String} {v : Value} {e : ArgsError}

lemma convert_eq_ok_iff :
    k.convert text = .ok v ↔
      (k = .text ∧ v = .text text) ∨
        (∃ t n, k = .integer t ∧ t.read text = .ok n ∧ v = .integer n) ∨
        (∃ w x, k = .float w ∧ w.read text = .ok x ∧ v = .float w x) ∨
        ∃ b, k = .boolean ∧ readBoolean text = .ok b ∧ v = .boolean b := by
  cases k with
  | text => simp [convert, eq_comm]
  | integer t => cases h : t.read text <;> simp [convert, h, Except.mapError, Except.map, eq_comm]
  | float w => cases h : w.read text <;> simp [convert, h, Except.mapError, Except.map, eq_comm]
  | boolean => cases h : readBoolean text <;> simp [convert, h, Except.map, eq_comm]

lemma convert_eq_error_iff :
    k.convert text = .error e ↔
      (∃ t cause, k = .integer t ∧ t.read text = .error cause ∧ e = .integer cause) ∨
        (∃ w cause, k = .float w ∧ w.read text = .error cause ∧ e = .float cause) ∨
        (k = .boolean ∧ readBoolean text = .error e) := by
  cases k with
  | text => simp [convert]
  | integer t => cases h : t.read text <;> simp [convert, h, Except.mapError, Except.map, eq_comm]
  | float w => cases h : w.read text <;> simp [convert, h, Except.mapError, Except.map, eq_comm]
  | boolean => cases h : readBoolean text <;> simp [convert, h, Except.map]

lemma convert_float_eq_ok_iff : (float w).convert text = .ok v ↔ ∃ x, w.read text = .ok x ∧ v = .float w x := by
  simp [convert_eq_ok_iff]

lemma convert_float_eq_error_iff :
    (float w).convert text = .error e ↔ ∃ cause, w.read text = .error cause ∧ e = .float cause := by
  simp [convert_eq_error_iff]

lemma readBoolean_eq_error (h : readBoolean text = .error e) : e = .boolean text := by
  rw [readBoolean] at h
  split at h
  · cases h
  · split at h
    · cases h
    · exact (Except.error.inj h).symm

lemma readDefault_eq_ok_iff :
    k.readDefault text = .ok v ↔ k.convert text = .ok v ∧ ∀ w x, v = .float w x → x.isFinite = true := by
  cases hc : k.convert text with
  | error e => simp [readDefault, hc]
  | ok v' =>
    have hother : (∀ w x, v' ≠ .float w x) → ((.ok v' : Except DefaultError Value) = .ok v ↔
        v' = v ∧ ∀ w x, v = .float w x → x.isFinite = true) := by
      refine fun hn => ⟨?_, fun h => congrArg _ h.1⟩
      rintro ⟨⟩
      exact ⟨rfl, fun w x h => absurd h (hn w x)⟩
    simp only [readDefault, hc, Except.ok.injEq]
    cases v' with
    | text s => exact hother (by simp)
    | integer n => exact hother (by simp)
    | boolean b => exact hother (by simp)
    | float w x =>
      by_cases hf : x.isFinite = true
      · simp only [hf, ↓reduceIte, Except.ok.injEq]
        refine ⟨?_, fun h => h.1⟩
        rintro rfl
        exact ⟨rfl, fun _ _ h => by cases h; exact hf⟩
      · simp only [hf, Bool.false_eq_true, ↓reduceIte, reduceCtorEq, false_iff]
        rintro ⟨rfl, h⟩
        exact hf (h w x rfl)

lemma readDefault_eq_error_iff {e : DefaultError} : k.readDefault text = .error e ↔
    (∃ cause, k.convert text = .error cause ∧ e = .conversion cause) ∨
      ∃ w x, k.convert text = .ok (.float w x) ∧ x.isFinite = false ∧ e = .notFinite text := by
  cases hc : k.convert text with
  | error cause =>
    have hr : k.readDefault text = .error (.conversion cause) := by rw [readDefault, hc]
    rw [hr]
    constructor
    · intro he
      exact Or.inl ⟨cause, rfl, (Except.error.inj he).symm⟩
    · rintro (⟨_, ⟨⟩, rfl⟩ | ⟨_, _, ⟨⟩, -⟩)
      rfl
  | ok v =>
    cases v with
    | float w x =>
      cases hx : x.isFinite with
      | true =>
        have hr : k.readDefault text = .ok (.float w x) := by simp [readDefault, hc, hx]
        rw [hr]
        refine iff_of_false (by simp) ?_
        rintro (⟨_, ⟨⟩, -⟩ | ⟨_, _, ⟨⟩, hf, -⟩)
        rw [hx] at hf
        cases hf
      | false =>
        have hr : k.readDefault text = .error (.notFinite text) := by simp [readDefault, hc, hx]
        rw [hr]
        constructor
        · intro he
          exact Or.inr ⟨w, x, rfl, hx, (Except.error.inj he).symm⟩
        · rintro (⟨_, ⟨⟩, -⟩ | ⟨_, _, -, -, rfl⟩)
          rfl
    | _ => simp [readDefault, hc]

end Kind

end CommandLine
