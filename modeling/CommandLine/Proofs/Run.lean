import CommandLine.Proofs.Step
import Mathlib.Data.List.Induction

namespace CommandLine

namespace Command

variable {c : Command} {items before : List String} {item text : String} {f : Field} {s s' : State}
  {e : ArgsError}

def payloads (c : Command) (items : List String) : List String :=
  (items.filter fun item => c.IsPositional item).map Item.stripEscape

@[simp] lemma payloads_nil : c.payloads [] = [] := rfl

lemma payloads_append (c : Command) (xs ys : List String) :
    c.payloads (xs ++ ys) = c.payloads xs ++ c.payloads ys := by
  simp [payloads]

lemma payloads_positional (h : c.IsPositional item) : c.payloads [item] = [Item.stripEscape item] := by
  simp [payloads, h]

lemma payloads_option (h : ¬ c.IsPositional item) : c.payloads [item] = [] := by
  simp [payloads, h]

lemma getElem?_payloads_concat {i : ℕ} {payload : String} :
    (c.payloads (items ++ [item]))[i]? = some payload ↔ (c.payloads items)[i]? = some payload ∨
      c.IsPositional item ∧ i = (c.payloads items).length ∧ payload = Item.stripEscape item := by
  rw [payloads_append]
  by_cases h : c.IsPositional item
  · rw [payloads_positional h]
    rcases lt_trichotomy i (c.payloads items).length with hi | rfl | hi
    · simp [List.getElem?_append_left hi, hi.ne]
    · simp [h, eq_comm]
    · rw [List.getElem?_append_right hi.le]
      have hs : i - (c.payloads items).length ≠ 0 := by omega
      simp [hs, hi.ne', List.getElem?_eq_none hi.le]
  · simp [payloads_option h, h]

def Fills (c : Command) (before : List String) (item : String) (f : Field) (text : String) : Prop :=
  c.Gives item f text ∨
    c.IsPositional item ∧ c.arguments[(c.payloads before).length]? = some f ∧ text = Item.stripEscape item

lemma store_eq_ok_iff :
    store s f text = .ok s' ↔
      ∃ v, f.kind.convert text = .ok v ∧ s' = ⟨s.record.assign f.ident v, s.pending⟩ := by
  cases h : f.kind.convert text <;> simp [store, h, Except.map, eq_comm]

lemma store_eq_error_iff : store s f text = .error e ↔ f.kind.convert text = .error e := by
  cases h : f.kind.convert text <;> simp [store, h, Except.map]

lemma step_ok_iff : c.step s item = .ok s' ↔
    (∃ f value v, c.Gives item f value ∧ f.kind.convert value = .ok v ∧
      s' = ⟨s.record.assign f.ident v, s.pending⟩) ∨
    c.IsPositional item ∧ ∃ f rest v, s.pending = f :: rest ∧ f.kind.convert (Item.stripEscape item) = .ok v ∧
      s' = ⟨s.record.assign f.ident v, rest⟩ := by
  rcases c.reads_or_isPositional item with ⟨m, hr⟩ | hi
  · refine ⟨fun h => ?_, ?_⟩
    · rcases reads_cases hr with ⟨f, value, hg⟩ | ⟨key, hb⟩ | ⟨key, hu⟩
      · rw [step_of_gives hg, store_eq_ok_iff] at h
        obtain ⟨v, hv, rfl⟩ := h
        exact Or.inl ⟨f, value, v, hg, hv, rfl⟩
      · simp [step_of_bare hb] at h
      · simp [step_of_unknown hu] at h
    · rintro (⟨f, value, v, hg, hv, rfl⟩ | ⟨hi, -⟩)
      · rw [step_of_gives hg, store_eq_ok_iff]
        exact ⟨v, hv, rfl⟩
      · exact absurd hi hr.not_isPositional
  · rw [step_of_isPositional hi, readArgument]
    refine ⟨fun h => ?_, ?_⟩
    · split at h
      · cases h
      · rename_i f rest hp
        rw [store_eq_ok_iff] at h
        obtain ⟨v, hv, rfl⟩ := h
        exact Or.inr ⟨hi, f, rest, v, hp, hv, rfl⟩
    · rintro (⟨f, value, v, hg, -⟩ | ⟨-, f, rest, v, hp, hv, rfl⟩)
      · exact absurd hi hg.not_isPositional
      · simp only [hp, store_eq_ok_iff]
        exact ⟨v, hv, rfl⟩

lemma steps_append (c : Command) (s : State) (xs ys : List String) :
    c.steps s (xs ++ ys) = (c.steps s xs).bind fun t => c.steps t ys := by
  induction xs generalizing s with
  | nil => rfl
  | cons x xs ih =>
    simp only [List.cons_append, steps]
    cases c.step s x with
    | error e => rfl
    | ok t => exact ih t

lemma steps_singleton (c : Command) (s : State) (item : String) : c.steps s [item] = c.step s item := by
  simp only [steps]
  cases c.step s item <;> rfl

lemma steps_concat_eq_ok_iff :
    c.steps s (items ++ [item]) = .ok s' ↔ ∃ t, c.steps s items = .ok t ∧ c.step t item = .ok s' := by
  rw [steps_append]
  cases c.steps s items <;> simp [Except.bind, steps_singleton]

def Reaches (c : Command) (items : List String) (s : State) : Prop :=
  c.steps c.start items = .ok s

lemma drop_arguments {i : ℕ} (h : c.arguments[i]? = some f) :
    c.arguments.drop i = f :: c.arguments.drop (i + 1) := by
  obtain ⟨hi, rfl⟩ := List.getElem?_eq_some_iff.mp h
  exact List.drop_eq_getElem_cons hi

lemma step_eq_ok_iff (hp : s.pending = c.arguments.drop (c.payloads before).length) :
    c.step s item = .ok s' ↔ ∃ f text v, c.Fills before item f text ∧ f.kind.convert text = .ok v ∧
      s' = ⟨s.record.assign f.ident v, c.arguments.drop (c.payloads (before ++ [item])).length⟩ := by
  -- an option takes no argument off, a positional item takes one
  have hoption : ¬ c.IsPositional item →
      c.arguments.drop (c.payloads (before ++ [item])).length = s.pending := by
    intro hn
    rw [payloads_append, payloads_option hn, List.append_nil, hp]
  have hpositional : c.IsPositional item →
      c.arguments.drop (c.payloads (before ++ [item])).length = s.pending.tail := by
    intro hi
    rw [payloads_append, payloads_positional hi, List.length_append, List.length_singleton, hp, List.tail_drop]
  rw [step_ok_iff]
  refine ⟨?_, ?_⟩
  · rintro (⟨f, value, v, hg, hv, rfl⟩ | ⟨hi, f, rest, v, hf, hv, rfl⟩)
    · exact ⟨f, value, v, Or.inl hg, hv, by rw [hoption hg.not_isPositional]⟩
    · have hturn : c.arguments[(c.payloads before).length]? = some f := by
        rw [← List.head?_drop, ← hp, hf, List.head?_cons]
      exact ⟨f, _, v, Or.inr ⟨hi, hturn, rfl⟩, hv, by rw [hpositional hi, hf, List.tail_cons]⟩
  · rintro ⟨f, text, v, hg | ⟨hi, hturn, rfl⟩, hv, rfl⟩
    · exact Or.inl ⟨f, text, v, hg, hv, by rw [hoption hg.not_isPositional]⟩
    · have hf : s.pending = f :: s.pending.tail := by rw [hp, drop_arguments hturn, List.tail_cons]
      exact Or.inr ⟨hi, f, _, v, hf, hv, by rw [hpositional hi]⟩

lemma Reaches.pending (h : c.Reaches items s) :
    s.pending = c.arguments.drop (c.payloads items).length := by
  induction items using List.reverseRecOn generalizing s with
  | nil =>
    obtain rfl : c.start = s := Except.ok.inj h
    rfl
  | append_singleton items item ih =>
    obtain ⟨t, ht, hs⟩ := steps_concat_eq_ok_iff.mp h
    obtain ⟨_, _, _, _, _, rfl⟩ := (step_eq_ok_iff (ih ht)).mp hs
    rfl

lemma reaches_concat_iff :
    c.Reaches (items ++ [item]) s' ↔ ∃ s f text v, c.Reaches items s ∧ c.Fills items item f text ∧
      f.kind.convert text = .ok v ∧
      s' = ⟨s.record.assign f.ident v, c.arguments.drop (c.payloads (items ++ [item])).length⟩ := by
  rw [Reaches, steps_concat_eq_ok_iff]
  refine ⟨?_, ?_⟩
  · rintro ⟨s, hs, h⟩
    obtain ⟨f, text, v, hf⟩ := (step_eq_ok_iff (Reaches.pending hs)).mp h
    exact ⟨s, f, text, v, hs, hf⟩
  · rintro ⟨s, f, text, v, hs, hf⟩
    exact ⟨s, hs, (step_eq_ok_iff (Reaches.pending hs)).mpr ⟨f, text, v, hf⟩⟩

lemma run_eq_ok_iff {r : Record} : c.run items = .ok r ↔ ∃ s, c.Reaches items s ∧ s.record = r := by
  simp only [run, Reaches]
  cases c.steps c.start items <;> simp [Except.map]

end Command

end CommandLine
