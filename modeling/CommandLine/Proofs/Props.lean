import CommandLine.Props
import Mathlib.Data.List.Induction
import Mathlib.Data.List.Nodup
import Mathlib.Tactic.Common

/-! Properties keep their keys in the order in which they first came, each with the value that came last. -/

namespace CommandLine

lemma lookup_eq_some_iff_mem {α β : Type} [BEq α] [LawfulBEq α] {entries : List (α × β)} {k : α} {v : β}
    (distinct : (entries.map Prod.fst).Nodup) : entries.lookup k = some v ↔ (k, v) ∈ entries := by
  rw [List.lookup_eq_some_iff]
  refine ⟨?_, fun h => ?_⟩
  · rintro ⟨before, after, rfl, -⟩
    simp
  · obtain ⟨before, after, rfl⟩ := List.append_of_mem h
    refine ⟨before, after, rfl, fun e he => bne_iff_ne.mpr fun hk => ?_⟩
    rw [List.map_append, List.map_cons] at distinct
    exact (List.nodup_append.mp distinct).2.2 _ (List.mem_map_of_mem he) _ List.mem_cons_self hk.symm

namespace Props

variable {p q : Props} {entries pairs : List (String × String)} {k k' v v' : String}

@[simp] lemma insertAll_cons (p : Props) (e : String × String) (pairs : List (String × String)) :
    p.insertAll (e :: pairs) = (p.insert e.1 e.2).insertAll pairs := rfl

lemma keys_insertEntry (k v : String) (entries : List (String × String)) :
    (insertEntry k v entries).map Prod.fst =
      if k ∈ entries.map Prod.fst then entries.map Prod.fst else entries.map Prod.fst ++ [k] := by
  induction entries with
  | nil => rfl
  | cons e entries ih =>
    by_cases h : e.1 = k
    · simp [insertEntry, h]
    · rw [insertEntry, if_neg h, List.map_cons, ih]
      by_cases hk : k ∈ entries.map Prod.fst <;> simp [hk, Ne.symm h]

lemma keys_insert (p : Props) (k v : String) :
    (p.insert k v).keys = if k ∈ p.keys then p.keys else p.keys ++ [k] :=
  keys_insertEntry k v p.entries

lemma mem_keys_insert (p : Props) (k v : String) : k ∈ (p.insert k v).keys := by
  rw [keys_insert]
  split
  · assumption
  · simp

lemma nodup_keys_insert (h : p.keys.Nodup) (k v : String) : (p.insert k v).keys.Nodup := by
  rw [keys_insert]
  split
  · exact h
  · rename_i hk
    exact List.nodup_append.mpr ⟨h, by simp, by simpa using fun a ha => ne_of_mem_of_not_mem ha hk⟩

lemma insertEntry_insertEntry (k v v' : String) (entries : List (String × String)) :
    insertEntry k v' (insertEntry k v entries) = insertEntry k v' entries := by
  induction entries with
  | nil => simp [insertEntry]
  | cons e entries ih => by_cases h : e.1 = k <;> simp [insertEntry, h, ih]

lemma insert_insert (p : Props) (k v v' : String) : (p.insert k v).insert k v' = p.insert k v' :=
  congrArg Props.mk (insertEntry_insertEntry k v v' p.entries)

lemma insertEntry_comm (hk : k ∈ entries.map Prod.fst) (hne : k' ≠ k) :
    insertEntry k v (insertEntry k' v' entries) = insertEntry k' v' (insertEntry k v entries) := by
  induction entries with
  | nil => simp at hk
  | cons e entries ih =>
    by_cases h : e.1 = k
    · simp [insertEntry, h, hne.symm]
    · have hm : k ∈ entries.map Prod.fst := by simpa [Ne.symm h] using hk
      by_cases h' : e.1 = k' <;> simp [insertEntry, h, h', hne, ih hm]

lemma insert_comm (hk : k ∈ p.keys) (hne : k' ≠ k) :
    (p.insert k' v').insert k v = (p.insert k v).insert k' v' :=
  congrArg Props.mk (insertEntry_comm hk hne)

lemma insertAll_insert (hk : k ∈ p.keys) (hn : k ∉ entries.map Prod.fst) :
    (p.insertAll entries).insert k v = (p.insert k v).insertAll entries := by
  induction entries generalizing p with
  | nil => rfl
  | cons e entries ih =>
    obtain ⟨hne, hn⟩ : k ≠ e.1 ∧ k ∉ entries.map Prod.fst := by simpa using hn
    have hm : k ∈ (p.insert e.1 e.2).keys := by
      rw [keys_insert]
      split
      · exact hk
      · exact List.mem_append_left _ hk
    rw [insertAll_cons, insertAll_cons, ih hm hn, insert_comm hk hne.symm]

lemma insertAll_insertEntry (p : Props) (hn : (entries.map Prod.fst).Nodup) :
    p.insertAll (insertEntry k v entries) = (p.insertAll entries).insert k v := by
  induction entries generalizing p with
  | nil => rfl
  | cons e entries ih =>
    obtain ⟨he, hn⟩ := List.nodup_cons.mp hn
    by_cases h : e.1 = k
    · subst h
      rw [insertEntry, if_pos rfl, insertAll_cons, insertAll_cons, insertAll_insert (mem_keys_insert _ _ _) he,
        insert_insert]
    · rw [insertEntry, if_neg h, insertAll_cons, insertAll_cons, ih _ hn]

lemma mem_insertEntry {e : String × String} (h : e ∈ insertEntry k v entries) : e = (k, v) ∨ e ∈ entries := by
  induction entries with
  | nil => exact Or.inl (List.mem_singleton.mp h)
  | cons x entries ih =>
    by_cases hx : x.1 = k
    · rw [insertEntry, if_pos hx, hx] at h
      rcases List.mem_cons.mp h with h | h
      · exact Or.inl h
      · exact Or.inr (List.mem_cons_of_mem _ h)
    · rw [insertEntry, if_neg hx] at h
      rcases List.mem_cons.mp h with h | h
      · exact Or.inr (h ▸ List.mem_cons_self)
      · exact (ih h).imp_right (List.mem_cons_of_mem _)

lemma insertEntry_of_notMem (h : k ∉ entries.map Prod.fst) : insertEntry k v entries = entries ++ [(k, v)] := by
  induction entries with
  | nil => rfl
  | cons e entries ih =>
    obtain ⟨hk, hn⟩ : k ≠ e.1 ∧ k ∉ entries.map Prod.fst := by simpa using h
    rw [insertEntry, if_neg hk.symm, ih hn, List.cons_append]

lemma insertAll_eq_append (h : ((p.entries ++ entries).map Prod.fst).Nodup) :
    p.insertAll entries = ⟨p.entries ++ entries⟩ := by
  induction entries generalizing p with
  | nil => simp [insertAll]
  | cons e entries ih =>
    have hn : e.1 ∉ p.entries.map Prod.fst := by
      intro he
      rw [List.map_append, List.nodup_append] at h
      exact h.2.2 _ he _ (by simp) rfl
    have hp : p.insert e.1 e.2 = ⟨p.entries ++ [e]⟩ := congrArg Props.mk (insertEntry_of_notMem hn)
    rw [insertAll_cons, hp, ih (by simpa using h)]
    simp

lemma insertAll_entries_insert (p : Props) (hn : q.keys.Nodup) (k v : String) :
    p.insertAll (q.insert k v).entries = (p.insertAll q.entries).insert k v :=
  insertAll_insertEntry p hn

lemma get?_eq_some_iff (h : p.keys.Nodup) : p.get? k = some v ↔ (k, v) ∈ p.entries :=
  lookup_eq_some_iff_mem h

lemma lookup_cons_eq (e : String × String) (entries : List (String × String)) (k : String) :
    (e :: entries).lookup k = if k = e.1 then some e.2 else entries.lookup k := by
  obtain ⟨k', v⟩ := e
  by_cases h : k = k'
  · simp [h]
  · simp [List.lookup_cons, h, beq_false_of_ne h]

lemma lookup_insertEntry (k v k' : String) (entries : List (String × String)) :
    (insertEntry k v entries).lookup k' = if k' = k then some v else entries.lookup k' := by
  induction entries with
  | nil => rw [insertEntry, lookup_cons_eq]
  | cons e entries ih =>
    by_cases he : e.1 = k
    · rw [insertEntry, if_pos he, lookup_cons_eq, lookup_cons_eq, he]
      split <;> rfl
    · rw [insertEntry, if_neg he, lookup_cons_eq, lookup_cons_eq, ih]
      by_cases h : k' = e.1
      · rw [if_pos h, if_pos h, if_neg (fun hk => he (h.symm.trans hk))]
      · rw [if_neg h, if_neg h]

lemma get?_insert (p : Props) (k v k' : String) :
    (p.insert k v).get? k' = if k' = k then some v else p.get? k' :=
  lookup_insertEntry k v k' p.entries

lemma get?_insertAll (p : Props) (pairs : List (String × String)) (k : String) :
    (p.insertAll pairs).get? k = (pairs.reverse.lookup k).or (p.get? k) := by
  induction pairs generalizing p with
  | nil => rfl
  | cons e pairs ih =>
    rw [insertAll_cons, ih, get?_insert, List.reverse_cons, List.lookup_append, Option.or_assoc, lookup_cons_eq]
    split <;> rfl

lemma insertAll_append (p : Props) (pairs pairs' : List (String × String)) :
    p.insertAll (pairs ++ pairs') = (p.insertAll pairs).insertAll pairs' :=
  List.foldl_append

lemma insertAll_concat (p : Props) (pairs : List (String × String)) (e : String × String) :
    p.insertAll (pairs ++ [e]) = (p.insertAll pairs).insert e.1 e.2 :=
  insertAll_append p pairs [e]

structure Records (p : Props) (pairs : List (String × String)) : Prop where
  distinct : p.keys.Nodup
  inserted : ∀ k, k ∈ p.keys ↔ k ∈ pairs.map Prod.fst
  -- the place of a key is that of its first pair
  ordered : p.keys.Pairwise fun k k' => (pairs.map Prod.fst).idxOf k < (pairs.map Prod.fst).idxOf k'
  -- the value of a key is that of its last pair
  last : ∀ k v, (k, v) ∈ p.entries ↔
    ∃ before after, pairs = before ++ (k, v) :: after ∧ k ∉ after.map Prod.fst

lemma mem_keys_insertAll_iff : k ∈ (insertAll {} pairs).keys ↔ k ∈ pairs.map Prod.fst := by
  induction pairs using List.reverseRecOn with
  | nil => exact Iff.rfl
  | append_singleton pairs e ih =>
    rw [insertAll_concat, keys_insert, List.map_append, List.mem_append, ← ih, List.map_singleton,
      List.mem_singleton]
    split
    · rename_i he
      refine ⟨Or.inl, ?_⟩
      rintro (hk | rfl)
      · exact hk
      · exact he
    · rw [List.mem_append, List.mem_singleton]

lemma pairwise_keys_insertAll (pairs : List (String × String)) : (insertAll {} pairs).keys.Pairwise fun k k' =>
    (pairs.map Prod.fst).idxOf k < (pairs.map Prod.fst).idxOf k' := by
  induction pairs using List.reverseRecOn with
  | nil => exact .nil
  | append_singleton pairs e ih =>
    have old : ∀ k ∈ (insertAll {} pairs).keys,
        ((pairs ++ [e]).map Prod.fst).idxOf k = (pairs.map Prod.fst).idxOf k := by
      intro k hk
      rw [List.map_append]
      exact List.idxOf_append_of_mem (mem_keys_insertAll_iff.mp hk)
    have kept : (insertAll {} pairs).keys.Pairwise fun k k' =>
        ((pairs ++ [e]).map Prod.fst).idxOf k < ((pairs ++ [e]).map Prod.fst).idxOf k' := by
      refine ih.imp_of_mem fun hk hk' hlt => ?_
      rwa [old _ hk, old _ hk']
    rw [insertAll_concat, keys_insert]
    split
    · exact kept
    · rename_i hn
      have hlast : ((pairs ++ [e]).map Prod.fst).idxOf e.1 = (pairs.map Prod.fst).length := by
        rw [List.map_append, List.idxOf_append_of_notMem (mem_keys_insertAll_iff.not.mp hn)]
        simp
      refine List.pairwise_append.mpr ⟨kept, List.pairwise_singleton _ _, fun k hk k' hk' => ?_⟩
      rw [List.mem_singleton.mp hk', hlast, old k hk]
      exact List.idxOf_lt_length_of_mem (mem_keys_insertAll_iff.mp hk)

lemma nodup_keys_insertAll (pairs : List (String × String)) : (insertAll {} pairs).keys.Nodup := by
  refine (pairwise_keys_insertAll pairs).imp fun hlt he => ?_
  rw [he] at hlt
  exact Nat.lt_irrefl _ hlt

lemma lookup_reverse_eq_some_iff : pairs.reverse.lookup k = some v ↔
    ∃ before after, pairs = before ++ (k, v) :: after ∧ k ∉ after.map Prod.fst := by
  rw [List.lookup_eq_some_iff]
  refine ⟨?_, ?_⟩
  · rintro ⟨after, before, h, hn⟩
    refine ⟨before.reverse, after.reverse, ?_, fun hk => ?_⟩
    · rw [← List.reverse_reverse pairs, h]
      simp
    · obtain ⟨e, he, rfl⟩ := List.mem_map.mp hk
      exact bne_iff_ne.mp (hn e (List.mem_reverse.mp he)) rfl
  · rintro ⟨before, after, rfl, hn⟩
    refine ⟨after.reverse, before.reverse, by simp, fun e he => bne_iff_ne.mpr fun hk => ?_⟩
    exact hn (List.mem_map.mpr ⟨e, List.mem_reverse.mp he, hk.symm⟩)

lemma records_insertAll (pairs : List (String × String)) : (insertAll {} pairs).Records pairs where
  distinct := nodup_keys_insertAll pairs
  inserted _ := mem_keys_insertAll_iff
  ordered := pairwise_keys_insertAll pairs
  last k v := by
    rw [← get?_eq_some_iff (nodup_keys_insertAll pairs), get?_insertAll, ← lookup_reverse_eq_some_iff]
    simp [get?]

lemma insertAll_entries_insertAll (p : Props) (pairs : List (String × String)) :
    p.insertAll (insertAll {} pairs).entries = p.insertAll pairs := by
  induction pairs using List.reverseRecOn with
  | nil => rfl
  | append_singleton pairs e ih =>
    rw [insertAll_concat, insertAll_concat, insertAll_entries_insert p (nodup_keys_insertAll pairs), ih]

/-- Every key stands once, where it came first and with the value that came last. -/
theorem insertAll_ordered (pairs pairs' : List (String × String)) : (insertAll {} pairs).Records pairs ∧
    (insertAll {} pairs).insertAll (insertAll {} pairs').entries = insertAll {} (pairs ++ pairs') := by
  refine ⟨records_insertAll pairs, ?_⟩
  rw [insertAll_entries_insertAll, insertAll_append]

end Props

end CommandLine
