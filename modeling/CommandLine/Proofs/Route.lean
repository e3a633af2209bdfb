import CommandLine.Emission.Eval
import CommandLine.Proofs.Item
import Mathlib.Data.List.Nodup

/-! The table that reads an item, and the field and text that the item names there. -/

namespace CommandLine

namespace Mark

def text : Mark → String
  | long => "--"
  | short => "-"

def write (m : Mark) (key value : String) : String :=
  m.text ++ key ++ "=" ++ value

lemma strip?_eq_some_iff {m : Mark} {item rest : String} :
    m.strip? item = some rest ↔ item = m.text ++ rest := by
  rw [← String.toList_inj, String.toList_append]
  cases m <;> exact Item.afterMark?_eq_some_iff

lemma strip?_eq_none_iff {m : Mark} {item : String} :
    m.strip? item = none ↔ ¬ m.text.toList <+: item.toList := by
  cases m <;> exact Item.afterMark?_eq_none_iff

lemma text_append_inj {m : Mark} {s t : String} : m.text ++ s = m.text ++ t ↔ s = t := by
  simp only [← String.toList_inj, String.toList_append, List.append_cancel_left_eq]

lemma splitOption_of_write {m : Mark} {key value rest : String} (hk : '=' ∉ key.toList)
    (h : m.text ++ rest = m.write key value) : Item.splitOption rest = (key, some value) := by
  rw [write, String.append_assoc, String.append_assoc, text_append_inj] at h
  exact Item.splitOption_eq_some_iff.mpr ⟨hk, by simp [h]⟩

lemma write_inj {m : Mark} {key value key' value' : String} (hk : '=' ∉ key.toList)
    (hk' : '=' ∉ key'.toList) (h : m.write key value = m.write key' value') :
    key = key' ∧ value = value' := by
  have hr : m.write key value = m.text ++ (key ++ "=" ++ value) := by simp [write, String.append_assoc]
  have h₁ := splitOption_of_write hk hr.symm
  have h₂ := splitOption_of_write hk' (hr.symm.trans h)
  simpa using h₁.symm.trans h₂

end Mark

namespace Field

def joins (f : Field) : Mark → Bool
  | .long => f.isLong
  | .short => f.isShort

end Field

namespace Command

variable {c : Command} {m : Mark} {item key : String} {f : Field}

lemma table_eq (c : Command) (m : Mark) : c.table m = c.fields.filter fun f => f.joins m := by
  cases m
  · exact c.longOptions_eq
  · exact c.shortOptions_eq

def DistinctLabels (c : Command) : Prop :=
  ∀ m, ((c.table m).map fun f => f.label m).Nodup

def Marked (c : Command) (m : Mark) (item : String) : Prop :=
  c.table m ≠ [] ∧ m.text.toList <+: item.toList

def Reads (c : Command) : Mark → String → Prop
  | .long, item => c.Marked .long item
  | .short, item => c.Marked .short item ∧ ¬ c.Marked .long item

def IsPositional (c : Command) (item : String) : Prop :=
  ¬ c.Marked .long item ∧ ¬ c.Marked .short item

instance (c : Command) (m : Mark) (item : String) : Decidable (c.Marked m item) :=
  inferInstanceAs (Decidable (_ ∧ _))

instance (c : Command) (item : String) : Decidable (c.IsPositional item) :=
  inferInstanceAs (Decidable (_ ∧ _))

lemma Reads.marked (h : c.Reads m item) : c.Marked m item := by
  cases m
  · exact h
  · exact h.1

lemma Reads.not_isPositional (h : c.Reads m item) : ¬ c.IsPositional item := by
  cases m
  · exact fun hp => hp.1 h.marked
  · exact fun hp => hp.2 h.marked

lemma Reads.mark_eq {m' : Mark} (h : c.Reads m item) (h' : c.Reads m' item) : m = m' := by
  cases m <;> cases m'
  · rfl
  · exact absurd h h'.2
  · exact absurd h' h.2
  · rfl

lemma reads_or_isPositional (c : Command) (item : String) :
    (∃ m, c.Reads m item) ∨ c.IsPositional item := by
  by_cases hl : c.Marked .long item
  · exact Or.inl ⟨.long, hl⟩
  · by_cases hs : c.Marked .short item
    · exact Or.inl ⟨.short, hs, hl⟩
    · exact Or.inr ⟨hl, hs⟩

def FirstWith (c : Command) (m : Mark) (key : String) (f : Field) : Prop :=
  ∃ before after, c.table m = before ++ f :: after ∧ f.label m = key ∧ ∀ g ∈ before, g.label m ≠ key

lemma find?_table_eq_some_iff :
    ((c.table m).find? fun f => f.label m = key) = some f ↔ c.FirstWith m key f := by
  rw [List.find?_eq_some_iff_append]
  refine ⟨?_, ?_⟩
  · rintro ⟨hk, before, after, ht, hb⟩
    exact ⟨before, after, ht, by simpa using hk, fun g hg => by simpa using hb g hg⟩
  · rintro ⟨before, after, ht, hk, hb⟩
    exact ⟨by simpa using hk, before, after, ht, fun g hg => by simpa using hb g hg⟩

lemma FirstWith.unique {g : Field} (h : c.FirstWith m key f) (h' : c.FirstWith m key g) : f = g := by
  rw [← find?_table_eq_some_iff] at h h'
  exact Option.some.inj (h.symm.trans h')

lemma FirstWith.mem (h : c.FirstWith m key f) : f ∈ c.table m := by
  obtain ⟨before, after, ht, _⟩ := h
  simp [ht]

lemma DistinctLabels.firstWith_iff (labels : c.DistinctLabels) :
    c.FirstWith m key f ↔ f ∈ c.table m ∧ f.label m = key := by
  refine ⟨fun h => ⟨h.mem, ?_⟩, ?_⟩
  · obtain ⟨_, _, _, hl, _⟩ := h
    exact hl
  · rintro ⟨hf, hl⟩
    obtain ⟨before, after, ht⟩ := List.append_of_mem hf
    refine ⟨before, after, ht, hl, fun g hg hk => ?_⟩
    have hn := labels m
    rw [ht, List.map_append, List.map_cons] at hn
    exact (List.nodup_append.mp hn).2.2 _ (List.mem_map_of_mem hg) _ List.mem_cons_self (hk.trans hl.symm)

lemma mem_table (h : f ∈ c.table m) : f ∈ c.fields ∧ f.isOption = true := by
  rw [table_eq, List.mem_filter] at h
  obtain ⟨hf, hj⟩ := h
  refine ⟨hf, ?_⟩
  cases m <;> exact (Bool.and_eq_true_iff.mp hj).1

lemma mem_arguments_iff : f ∈ c.arguments ↔ f ∈ c.fields ∧ f.isArgument = true := by
  rw [arguments_eq, List.mem_filter]

def Gives (c : Command) (item : String) (f : Field) (value : String) : Prop :=
  ∃ m key, c.Reads m item ∧ item = m.write key value ∧ '=' ∉ key.toList ∧ c.FirstWith m key f

lemma Gives.mem {value : String} (h : c.Gives item f value) : f ∈ c.fields ∧ f.isOption = true := by
  obtain ⟨_, _, _, _, _, hf⟩ := h
  exact mem_table hf.mem

lemma Gives.not_isPositional {value : String} (h : c.Gives item f value) : ¬ c.IsPositional item := by
  obtain ⟨_, _, hr, _⟩ := h
  exact hr.not_isPositional

lemma Gives.unique {g : Field} {value value' : String} (h : c.Gives item f value)
    (h' : c.Gives item g value') : f = g ∧ value = value' := by
  obtain ⟨m, key, hr, hi, hk, hf⟩ := h
  obtain ⟨m', key', hr', hi', hk', hf'⟩ := h'
  obtain rfl := hr.mark_eq hr'
  obtain ⟨rfl, rfl⟩ := Mark.write_inj hk hk' (hi.symm.trans hi')
  exact ⟨hf.unique hf', rfl⟩

/-- The field can be given a value behind the mark. A short key that starts with a dash looks like a long option
wherever there are long options. -/
structure Offers (c : Command) (m : Mark) (f : Field) : Prop where
  first : c.FirstWith m (f.label m) f
  key : '=' ∉ (f.label m).toList
  mark : m = .short → c.table .long ≠ [] → (f.label .short).toList.head? ≠ some '-'

lemma Offers.reads (h : c.Offers m f) (value : String) : c.Reads m (m.write (f.label m) value) := by
  have ht : c.table m ≠ [] := List.ne_nil_of_mem h.first.mem
  have hm : c.Marked m (m.write (f.label m) value) := by
    refine ⟨ht, ?_⟩
    simp [Mark.write, List.append_assoc]
  cases m with
  | long => exact hm
  | short =>
    refine ⟨hm, ?_⟩
    rintro ⟨hl, hp⟩
    have hd : ['-'] <+: (f.label .short).toList ++ '=' :: value.toList := by
      simpa [Mark.write, Mark.text] using hp
    cases hk : (f.label .short).toList with
    | nil => simp [hk] at hd
    | cons x key =>
      obtain rfl : '-' = x := by simpa [hk] using hd
      exact h.mark rfl hl (by rw [hk, List.head?_cons])

lemma Offers.gives (h : c.Offers m f) (value : String) : c.Gives (m.write (f.label m) value) f value :=
  ⟨m, f.label m, h.reads value, rfl, h.key, h.first⟩

def Bare (c : Command) (item key : String) : Prop :=
  ∃ m, c.Reads m item ∧ item = m.text ++ key ∧ '=' ∉ key.toList ∧ ∃ f ∈ c.table m, f.label m = key

def Unknown (c : Command) (m : Mark) (item key : String) : Prop :=
  c.Reads m item ∧ (item = m.text ++ key ∨ ∃ value, item = m.write key value) ∧ '=' ∉ key.toList ∧
    ∀ f ∈ c.table m, f.label m ≠ key

end Command

end CommandLine
