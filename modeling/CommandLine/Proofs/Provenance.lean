import CommandLine.Proofs.Emission.Implementation

/-! Where an error comes from. -/

namespace CommandLine

namespace Command

variable {c : Command} {items before after : List String} {item : String} {s : State} {e : ArgsError}

def Blames (c : Command) (before : List String) (item : String) : ArgsError → Prop
  | .unknownLongOption key whole => whole = item ∧ c.Unknown .long item key
  | .unknownShortOption key whole => whole = item ∧ c.Unknown .short item key
  | .missingValue key whole => whole = item ∧ c.Bare item key
  | .unexpectedArgument payload =>
    c.IsPositional item ∧ c.arguments.length ≤ (c.payloads before).length ∧ payload = Item.stripEscape item
  | .integer cause =>
    ∃ f t text, c.Fills before item f text ∧ f.kind = .integer t ∧ t.read text = .error cause
  | .float cause =>
    ∃ f w text, c.Fills before item f text ∧ f.kind = .float w ∧ w.read text = .error cause
  | .boolean literal =>
    ∃ f, c.Fills before item f literal ∧ f.kind = .boolean ∧ readBoolean literal = .error (.boolean literal)

lemma Fills.blames {f : Field} {text : String} (h : c.Fills before item f text)
    (he : f.kind.convert text = .error e) : c.Blames before item e := by
  rcases Kind.convert_eq_error_iff.mp he with ⟨t, cause, hk, hr, rfl⟩ | ⟨w, cause, hk, hr, rfl⟩ | ⟨hk, hr⟩
  · exact ⟨f, t, text, h, hk, hr⟩
  · exact ⟨f, w, text, h, hk, hr⟩
  · obtain rfl := Kind.readBoolean_eq_error hr
    exact ⟨f, h, hk, hr⟩

section

variable (hp : s.pending = c.arguments.drop (c.payloads before).length)
include hp

lemma Fills.step_eq_error_iff {f : Field} {text : String} (h : c.Fills before item f text) :
    c.step s item = .error e ↔ f.kind.convert text = .error e := by
  rcases h with hg | ⟨hi, hf, rfl⟩
  · rw [step_of_gives hg, store_eq_error_iff]
  · rw [step_of_isPositional hi, readArgument, hp, drop_arguments hf]
    exact store_eq_error_iff

lemma Blames.step (h : c.Blames before item e) : c.step s item = .error e := by
  cases e with
  | unknownLongOption key whole =>
    obtain ⟨rfl, hu⟩ := h
    exact step_of_unknown hu s
  | unknownShortOption key whole =>
    obtain ⟨rfl, hu⟩ := h
    exact step_of_unknown hu s
  | missingValue key whole =>
    obtain ⟨rfl, hb⟩ := h
    exact step_of_bare hb s
  | unexpectedArgument payload =>
    obtain ⟨hi, hl, rfl⟩ := h
    rw [step_of_isPositional hi, readArgument, hp, List.drop_eq_nil_of_le hl]
  | integer cause =>
    obtain ⟨f, t, text, hf, hk, hr⟩ := h
    exact (hf.step_eq_error_iff hp).mpr (Kind.convert_eq_error_iff.mpr (Or.inl ⟨t, cause, hk, hr, rfl⟩))
  | float cause =>
    obtain ⟨f, w, text, hf, hk, hr⟩ := h
    exact (hf.step_eq_error_iff hp).mpr
      (Kind.convert_eq_error_iff.mpr (Or.inr (Or.inl ⟨w, cause, hk, hr, rfl⟩)))
  | boolean literal =>
    obtain ⟨f, hf, hk, hr⟩ := h
    exact (hf.step_eq_error_iff hp).mpr (Kind.convert_eq_error_iff.mpr (Or.inr (Or.inr ⟨hk, hr⟩)))

lemma blames_of_step (h : c.step s item = .error e) : c.Blames before item e := by
  rcases c.reads_or_isPositional item with ⟨m, hr⟩ | hi
  · rcases reads_cases hr with ⟨f, value, hg⟩ | ⟨key, hb⟩ | ⟨key, hu⟩
    · have hf : c.Fills before item f value := Or.inl hg
      exact hf.blames ((hf.step_eq_error_iff hp).mp h)
    · rw [step_of_bare hb] at h
      obtain rfl := Except.error.inj h
      exact ⟨rfl, hb⟩
    · rw [step_of_unknown hu] at h
      obtain rfl := Except.error.inj h
      cases m <;> exact ⟨rfl, hu⟩
  · cases hf : c.arguments[(c.payloads before).length]? with
    | none =>
      -- every argument is filled already
      have hl := List.getElem?_eq_none_iff.mp hf
      rw [step_of_isPositional hi, readArgument, hp, List.drop_eq_nil_of_le hl] at h
      obtain rfl := Except.error.inj h
      exact ⟨hi, hl, rfl⟩
    | some f =>
      have hf : c.Fills before item f (Item.stripEscape item) := Or.inr ⟨hi, hf, rfl⟩
      exact hf.blames ((hf.step_eq_error_iff hp).mp h)

end

lemma steps_eq_error_iff :
    c.steps s items = .error e ↔ ∃ before item after t, items = before ++ item :: after ∧
      c.steps s before = .ok t ∧ c.step t item = .error e := by
  refine ⟨?_, ?_⟩
  · intro h
    induction items generalizing s with
    | nil => simp [steps] at h
    | cons item items ih =>
      simp only [steps] at h
      split at h
      · rename_i hs
        exact ⟨[], item, items, s, rfl, rfl, hs.trans h⟩
      · rename_i t hs
        obtain ⟨before, x, after, u, rfl, hb, hx⟩ := ih h
        exact ⟨item :: before, x, after, u, rfl, by simpa only [steps, hs] using hb, hx⟩
  · rintro ⟨before, item, after, t, rfl, hb, hi⟩
    rw [steps_append, hb]
    simp only [Except.bind, steps, hi]

lemma run_eq_error_iff : c.run items = .error e ↔ c.steps c.start items = .error e := by
  rw [run]
  cases c.steps c.start items <;> simp [Except.map]

lemma Reaches.run_eq_error_iff (h : c.Reaches before s) :
    c.run (before ++ item :: after) = .error e ↔
      c.step s item = .error e ∨ ∃ t, c.step s item = .ok t ∧ c.steps t after = .error e := by
  rw [Command.run_eq_error_iff, steps_append, h]
  simp only [Except.bind, steps]
  cases c.step s item <;> simp

/-- A run fails with what its first failing item is to blame for. -/
theorem error_provenance (c : Command) (items : List String) (e : ArgsError) :
    (c.run items = .error e ↔ ∃ before item after, items = before ++ item :: after ∧
      (∃ r, c.run before = .ok r) ∧ c.run (before ++ [item]) = .error e) ∧
    (∀ before item, (∃ r, c.run before = .ok r) →
      (c.run (before ++ [item]) = .error e ↔ c.Blames before item e) ∧
      (c.run (before ++ [item]) = .error e → ∀ after, c.run (before ++ item :: after) = .error e) ∧
      ∀ m key, c.Reads m item → item = m.text ++ key → '=' ∉ key.toList →
        (∀ f ∈ c.table m, f.label m ≠ key) → c.run (before ++ [item]) = .error (m.unknownKey key item)) ∧
    ∀ d : Definition, d.command = .ok c → ∃ p, c.program = .ok p ∧ p.run? items = some (c.run items) := by
  have hone : ∀ {before item s e'}, c.Reaches before s →
      (c.run (before ++ [item]) = .error e' ↔ c.step s item = .error e') := by
    intro before item s e' hs
    rw [hs.run_eq_error_iff]
    simp [steps]
  refine ⟨?_, ?_, fun d hd => ?_⟩
  · rw [Command.run_eq_error_iff, steps_eq_error_iff]
    simp only [run_eq_ok_iff]
    refine ⟨?_, ?_⟩
    · rintro ⟨before, item, after, s, hi, hs, he⟩
      exact ⟨before, item, after, hi, ⟨_, s, hs, rfl⟩, (hone hs).mpr he⟩
    · rintro ⟨before, item, after, hi, ⟨_, s, hs, -⟩, he⟩
      exact ⟨before, item, after, s, hi, hs, (hone hs).mp he⟩
  · intro before item hr
    obtain ⟨_, hr⟩ := hr
    obtain ⟨s, hs, -⟩ := run_eq_ok_iff.mp hr
    refine ⟨?_, ?_, ?_⟩
    · rw [hone hs]
      exact ⟨blames_of_step hs.pending, Blames.step hs.pending⟩
    · intro he after
      exact hs.run_eq_error_iff.mpr (Or.inl ((hone hs).mp he))
    · intro m key hm hi hk hf
      exact (hone hs).mpr (step_of_unknown ⟨hm, Or.inl hi, hk, hf⟩ s)
  · obtain ⟨p, hp, hr⟩ := Definition.exists_program hd
    exact ⟨p, hp, hr items⟩

def sized : Command where
  ident := ⟨"Sized", false⟩
  fields := [{ ident := ⟨"size", false⟩, name := "size", kind := .integer .u8, role := .option }]

theorem sized_error_provenance : sized.run ["--size=1"] = .ok [(⟨"size", false⟩, .integer 1)] ∧
    ∀ after, sized.run (["--size=1"] ++ "--sice" :: after) = .error (.unknownLongOption "sice" "--sice") := by
  have hr : sized.run ["--size=1"] = .ok [(⟨"size", false⟩, .integer 1)] := by decide +kernel
  have hm : sized.Reads .long "--sice" := show sized.Marked .long "--sice" by decide +kernel
  have hf : ∀ f ∈ sized.table .long, f.label .long ≠ "sice" := by decide +kernel
  obtain ⟨-, hafter, hunknown⟩ :=
    (error_provenance sized [] (.unknownLongOption "sice" "--sice")).2.1 ["--size=1"] "--sice" ⟨_, hr⟩
  exact ⟨hr, hafter (hunknown .long "sice" hm (by decide +kernel) (by decide +kernel) hf)⟩

end Command

end CommandLine
