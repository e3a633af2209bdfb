import CommandLine.Item
import Mathlib.Data.List.Basic
import Mathlib.Data.List.TakeWhile

namespace CommandLine.Item

lemma afterMark?_eq_some_iff {mark : List Char} {item text : String} :
    afterMark? mark item = some text ↔ item.toList = mark ++ text.toList := by
  simp only [afterMark?, Option.map_eq_some_iff, List.isPrefixOf?_eq_some_iff_append_eq]
  refine ⟨?_, ?_⟩
  · rintro ⟨cs, h, rfl⟩
    rw [← h, String.toList_ofList]
  · intro h
    exact ⟨text.toList, h.symm, String.ofList_toList⟩

lemma afterMark?_eq_none_iff {mark : List Char} {item : String} :
    afterMark? mark item = none ↔ ¬ mark <+: item.toList := by
  rw [← not_iff_not, not_not, ← ne_eq, Option.ne_none_iff_exists']
  refine ⟨?_, ?_⟩
  · rintro ⟨text, h⟩
    exact ⟨text.toList, (afterMark?_eq_some_iff.mp h).symm⟩
  · rintro ⟨cs, h⟩
    exact ⟨String.ofList cs, afterMark?_eq_some_iff.mpr (by rw [String.toList_ofList, h])⟩

lemma dropWhile_ne_eq_cons {x : Char} {cs : List Char} {y : Char} {rest : List Char}
    (h : cs.dropWhile (· ≠ x) = y :: rest) : y = x := by
  have hy := List.head?_dropWhile_not (fun c => decide (c ≠ x)) cs
  rw [h] at hy
  simpa using hy

lemma splitOption_eq_none_iff {s key : String} :
    splitOption s = (key, none) ↔ '=' ∉ s.toList ∧ key = s := by
  rw [splitOption]
  split
  · rename_i h
    have hm : ∀ c ∈ s.toList, c ≠ '=' := by simpa using List.dropWhile_eq_nil_iff.mp h
    refine ⟨?_, ?_⟩
    · intro he
      exact ⟨fun hc => hm _ hc rfl, (congrArg Prod.fst he).symm⟩
    · rintro ⟨_, rfl⟩
      rfl
  · rename_i y value h
    have hy := dropWhile_ne_eq_cons h
    refine ⟨?_, ?_⟩
    · intro he
      simp at he
    · rintro ⟨hn, _⟩
      refine absurd ?_ hn
      rw [← List.takeWhile_append_dropWhile (p := fun c => decide (c ≠ '=')) (l := s.toList), h, hy]
      simp

lemma splitOption_eq_some_iff {s key value : String} :
    splitOption s = (key, some value) ↔
      '=' ∉ key.toList ∧ s.toList = key.toList ++ '=' :: value.toList := by
  refine ⟨?_, ?_⟩
  · intro h
    rw [splitOption] at h
    split at h
    · simp at h
    · rename_i y rest hd
      obtain rfl := dropWhile_ne_eq_cons hd
      simp only [Prod.mk.injEq, Option.some.injEq] at h
      obtain ⟨rfl, rfl⟩ := h
      rw [String.toList_ofList, String.toList_ofList]
      refine ⟨fun hc => by simpa using List.mem_takeWhile_imp hc, ?_⟩
      rw [← hd, List.takeWhile_append_dropWhile]
  · rintro ⟨hk, hs⟩
    have hp : ∀ c ∈ key.toList, decide (c ≠ '=') = true := by
      intro c hc
      simpa using ne_of_mem_of_not_mem hc hk
    rw [splitOption]
    rw [hs, List.dropWhile_append_of_pos hp, List.takeWhile_append_of_pos hp]
    simp

lemma splitOption_cases (s : String) :
    ('=' ∉ s.toList ∧ splitOption s = (s, none)) ∨
      ∃ key value, '=' ∉ key.toList ∧ s.toList = key.toList ++ '=' :: value.toList ∧
        splitOption s = (key, some value) := by
  rcases h : splitOption s with ⟨key, _ | value⟩
  · obtain ⟨hs, rfl⟩ := splitOption_eq_none_iff.mp h
    exact Or.inl ⟨hs, rfl⟩
  · obtain ⟨hk, hs⟩ := splitOption_eq_some_iff.mp h
    exact Or.inr ⟨key, value, hk, hs, rfl⟩

end CommandLine.Item
