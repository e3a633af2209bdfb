import CommandLine.Proofs.Route

namespace CommandLine

def Mark.route : Mark → String → Route
  | long => .long
  | short => .short

namespace Command

variable {c : Command} {m : Mark} {item key value rest : String} {f : Field} {s s' : State}

lemma Marked.strip? (h : c.Marked m item) : ∃ rest, m.strip? item = some rest ∧ item = m.text ++ rest := by
  cases he : m.strip? item with
  | none => exact absurd h.2 (Mark.strip?_eq_none_iff.mp he)
  | some rest => exact ⟨rest, rfl, Mark.strip?_eq_some_iff.mp he⟩

lemma mark_of_not_marked (h : ¬ c.Marked m item) :
    (if (c.table m).isEmpty then none else m.strip? item) = none := by
  split
  · rfl
  · rename_i ht
    exact Mark.strip?_eq_none_iff.mpr fun hp => h ⟨by simpa using ht, hp⟩

lemma route_of_reads (h : c.Reads m item) : ∃ rest, item = m.text ++ rest ∧ c.route item = m.route rest := by
  obtain ⟨rest, hr, hi⟩ := h.marked.strip?
  refine ⟨rest, hi, ?_⟩
  cases m with
  | long =>
    have ht : c.longOptions.isEmpty = false := List.isEmpty_eq_false_iff.mpr h.1
    simp only [route, ht, Bool.false_eq_true, ↓reduceIte, show Item.afterLong? item = some rest from hr]
    rfl
  | short =>
    have hl : (if c.longOptions.isEmpty then none else Item.afterLong? item) = none := mark_of_not_marked h.2
    have ht : c.shortOptions.isEmpty = false := List.isEmpty_eq_false_iff.mpr h.1.1
    simp only [route, hl, ht, Bool.false_eq_true, ↓reduceIte, show Item.afterShort? item = some rest from hr]
    rfl

lemma route_of_isPositional (h : c.IsPositional item) : c.route item = .positional (Item.stripEscape item) := by
  have hl : (if c.longOptions.isEmpty then none else Item.afterLong? item) = none := mark_of_not_marked h.1
  have hs : (if c.shortOptions.isEmpty then none else Item.afterShort? item) = none := mark_of_not_marked h.2
  simp only [route, hl, hs]

lemma step_of_route (h : c.route item = m.route rest) (s : State) :
    c.step s item = readOption (c.table m) (fun f => f.label m) m.unknownKey s rest item := by
  rw [step, h]
  cases m <;> rfl

lemma step_of_reads (h : c.Reads m item) : ∃ rest, item = m.text ++ rest ∧
    ∀ s, c.step s item = readOption (c.table m) (fun f => f.label m) m.unknownKey s rest item := by
  obtain ⟨rest, hi, hr⟩ := route_of_reads h
  exact ⟨rest, hi, step_of_route hr⟩

lemma step_of_isPositional (h : c.IsPositional item) (s : State) :
    c.step s item = readArgument s (Item.stripEscape item) := by
  rw [step, route_of_isPositional h]

lemma reads_cases (h : c.Reads m item) :
    (∃ f value, c.Gives item f value) ∨ (∃ key, c.Bare item key) ∨ ∃ key, c.Unknown m item key := by
  obtain ⟨rest, -, hi⟩ := h.marked.strip?
  rcases Item.splitOption_cases rest with ⟨hk, -⟩ | ⟨key, value, hk, hr, -⟩
  · by_cases hf : ∃ f ∈ c.table m, f.label m = rest
    · exact Or.inr (Or.inl ⟨rest, m, h, hi, hk, hf⟩)
    · exact Or.inr (Or.inr ⟨rest, h, Or.inl hi, hk, by simpa using hf⟩)
  · have hw : item = m.write key value := by
      rw [hi, Mark.write, ← String.toList_inj]
      simp [hr]
    cases hf : (c.table m).find? fun f => f.label m = key with
    | none => exact Or.inr (Or.inr ⟨key, h, Or.inr ⟨value, hw⟩, hk, by simpa using hf⟩)
    | some f => exact Or.inl ⟨f, value, m, key, h, hw, hk, find?_table_eq_some_iff.mp hf⟩

lemma step_of_gives (h : c.Gives item f value) (s : State) : c.step s item = store s f value := by
  obtain ⟨m, key, hr, hi, hk, hf⟩ := h
  obtain ⟨rest, hi', hs⟩ := step_of_reads hr
  rw [hs, readOption, Mark.splitOption_of_write hk (hi'.symm.trans hi)]
  simp only [find?_table_eq_some_iff.mpr hf]

lemma step_of_bare (h : c.Bare item key) (s : State) :
    c.step s item = .error (.missingValue key item) := by
  obtain ⟨m, hr, hi, hk, f, hf, hl⟩ := h
  obtain ⟨rest, hi', hs⟩ := step_of_reads hr
  obtain rfl : rest = key := Mark.text_append_inj.mp (hi'.symm.trans hi)
  rw [hs, readOption, Item.splitOption_eq_none_iff.mpr ⟨hk, rfl⟩]
  cases hg : (c.table m).find? fun f => f.label m = rest with
  | none => exact absurd hl (by simpa using List.find?_eq_none.mp hg f hf)
  | some g => simp only [hg]

lemma step_of_unknown (h : c.Unknown m item key) (s : State) :
    c.step s item = .error (m.unknownKey key item) := by
  obtain ⟨hr, hi, hk, hf⟩ := h
  obtain ⟨rest, hi', hs⟩ := step_of_reads hr
  have hn : ((c.table m).find? fun f => f.label m = key) = none := by simpa using hf
  rcases hi with hi | ⟨value, hi⟩
  · obtain rfl : rest = key := Mark.text_append_inj.mp (hi'.symm.trans hi)
    rw [hs, readOption, Item.splitOption_eq_none_iff.mpr ⟨hk, rfl⟩]
    simp only [hn]
  · rw [hs, readOption, Mark.splitOption_of_write hk (hi'.symm.trans hi)]
    simp only [hn]

end Command

end CommandLine
