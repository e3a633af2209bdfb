import CommandLine.Proofs.Metadata.Rendering
import CommandLine.Proofs.Props
import Mathlib.Algebra.Order.BigOperators.Group.List
import Mathlib.Algebra.Order.Group.Nat

namespace CommandLine.Metadata

def UnterminatedQuote.shift (n : ℕ) (q : UnterminatedQuote) : UnterminatedQuote :=
  { q with offset := n + q.offset }

lemma quoteAfter_shift (n : ℕ) (o : Option UnterminatedQuote) (offset : ℕ) (c : Char) :
    quoteAfter (o.map (UnterminatedQuote.shift n)) (n + offset) c =
      (quoteAfter o offset c).map (UnterminatedQuote.shift n) := by
  cases o with
  | none => by_cases h : isQuote c = true <;> simp [quoteAfter, h, UnterminatedQuote.shift]
  | some q => by_cases h : c = q.quote <;> simp [quoteAfter, h, UnterminatedQuote.shift]

lemma effect_shift (n : ℕ) (o : Option UnterminatedQuote) (c : Char) :
    effect (o.map (UnterminatedQuote.shift n)) c = effect o c := by
  cases o <;> rfl

namespace Scan

variable {s t : Scan} {n : ℕ} {p : Props} {q : UnterminatedQuote} {c : Char}

structure Shifted (n : ℕ) (t s : Scan) : Prop where
  openQuote : s.openQuote = t.openQuote.map (UnterminatedQuote.shift n)
  offset : s.offset = n + t.offset

lemma Shifted.step (h : Shifted n t s) (c : Char) : Shifted n (t.step c) (s.step c) where
  openQuote := by rw [openQuote_step, openQuote_step, h.openQuote, h.offset, quoteAfter_shift]
  offset := by rw [Scan.step, Scan.step, h.offset, Nat.add_assoc]

lemma Shifted.run (h : Shifted n t s) (cs : List Char) : Shifted n (t.run cs) (s.run cs) := by
  induction cs generalizing s t with
  | nil => exact h
  | cons c cs ih => exact ih (h.step c)

structure Continues (p : Props) (t s : Scan) : Prop where
  pair : s.pair = t.pair
  props : s.props = p.insertAll t.props.entries

lemma Continues.flush (h : Continues p t s) (ht : t.Tidy) : Continues p t.flush s.flush := by
  rw [Scan.flush, Scan.flush, h.pair]
  split
  · exact ⟨rfl, by rw [h.props, Props.insertAll_entries_insert p ht.keys]⟩
  · exact h

lemma Continues.apply (h : Continues p t s) (ht : t.Tidy) (c : Char) (e : Effect) :
    Continues p (e.apply t c) (e.apply s c) := by
  cases e with
  | push => exact ⟨congrArg (Pair.push · c) h.pair, h.props⟩
  | colon => exact ⟨by rw [Effect.apply, Effect.apply, h.pair], h.props⟩
  | space => exact h.flush ht
  | none => exact h

lemma Continues.step (h : Continues p t s) (hs : Shifted n t s) (ht : t.Tidy) (c : Char) :
    Continues p (t.step c) (s.step c) := by
  have ha := h.apply ht c (effect t.openQuote c)
  rw [step_eq, step_eq, hs.openQuote, effect_shift]
  exact ⟨ha.pair, ha.props⟩

lemma Continues.run (h : Continues p t s) (hs : Shifted n t s) (ht : t.Tidy) (cs : List Char) :
    Continues p (t.run cs) (s.run cs) := by
  induction cs generalizing s t with
  | nil => exact h
  | cons c cs ih => exact ih (h.step hs ht c) (hs.step c) (ht.step c)

lemma Continues.finish {p₂ : Props} (h : Continues p t s) (hs : Shifted n t s) (ht : t.Tidy)
    (hf : t.finish = .ok p₂) : s.finish = .ok (p.insertAll p₂.entries) := by
  obtain ⟨ho, rfl⟩ := finish_eq_ok_iff.mp hf
  refine finish_eq_ok_iff.mpr ⟨by rw [hs.openQuote, ho, Option.map_none], ?_⟩
  rw [h.pair]
  split
  · exact h.props.symm
  · exact (h.flush ht).props.symm

end Scan

lemma exists_fresh (keys : List String) : ∃ w : List Char, (∀ c ∈ w, isQuote c = false) ∧ w ≠ [] ∧
    String.ofList w ∉ keys := by
  refine ⟨List.replicate ((keys.map String.length).sum + 1) 'a', ?_, by simp, ?_⟩
  · intro c hc
    rw [List.eq_of_mem_replicate hc]
    rfl
  · intro hk
    have hle := List.le_sum_of_mem (List.mem_map_of_mem (f := String.length) hk)
    rw [String.length_ofList, List.length_replicate] at hle
    omega

section

variable {s : String} (closed : (scan s).openQuote = none)
include closed

lemma scan_append_space : scan (s ++ " ") = (scan s).flush.advance 1 := by
  rw [scan, String.toList_append, Scan.run_append]
  exact Scan.run_spaces closed 0

lemma scan_append_space_append (t : String) :
    scan (s ++ " " ++ t) = ((scan s).flush.advance 1).run t.toList := by
  rw [← scan_append_space closed, scan, String.toList_append, Scan.run_append]
  rfl

lemma parse_append_space : parse (s ++ " ") = .ok (scan s).flush.props := by
  rw [parse_eq, scan_append_space closed, Scan.finish_eq_ok_iff]
  refine ⟨(Scan.openQuote_flush _).trans closed, (if_pos ?_).symm⟩
  rw [Scan.advance, (tidy_scan s).pair_flush]

lemma shifted_start : Scan.Shifted (s.utf8ByteSize + 1) {} ((scan s).flush.advance 1) := by
  have ho : (scan s).flush.offset = (scan s).offset := by
    rw [Scan.flush]
    split <;> rfl
  refine ⟨(Scan.openQuote_flush _).trans closed, ?_⟩
  rw [Scan.advance, ho, scan, Scan.offset_run, width_toList]
  simp

lemma shifted_behind (t : String) :
    Scan.Shifted (s.utf8ByteSize + 1) (scan t) (scan (s ++ " " ++ t)) := by
  rw [scan_append_space_append closed]
  exact (shifted_start closed).run _

lemma parse_eq_error_behind (t : String) (q : UnterminatedQuote) :
    parse (s ++ " " ++ t) = .error q ↔
      s.utf8ByteSize + 1 ≤ q.offset ∧ parse t = .error ⟨q.quote, q.offset - s.utf8ByteSize - 1⟩ := by
  rw [parse_eq, parse_eq, Scan.finish_eq_error_iff, Scan.finish_eq_error_iff,
    (shifted_behind closed t).openQuote, Option.map_eq_some_iff]
  refine ⟨?_, ?_⟩
  · rintro ⟨q', ho, rfl⟩
    refine ⟨Nat.le_add_right _ _, ?_⟩
    have hn : s.utf8ByteSize + 1 + q'.offset - s.utf8ByteSize - 1 = q'.offset := by omega
    rw [ho, UnterminatedQuote.shift, hn]
  · rintro ⟨hle, ho⟩
    refine ⟨_, ho, ?_⟩
    have hn : s.utf8ByteSize + 1 + (q.offset - s.utf8ByteSize - 1) = q.offset := by omega
    rw [UnterminatedQuote.shift, hn]

lemma parse_behind (hl : (scan s).pair.leaks = false) {t : String} {p₂ : Props} (hp : parse t = .ok p₂) :
    parse (s ++ " " ++ t) = .ok ((scan s).flush.props.insertAll p₂.entries) := by
  have hpair : (scan s).flush.pair = {} := by rw [(tidy_scan s).pair_flush, hl]
  have hc : Scan.Continues (scan s).flush.props (scan t) (scan (s ++ " " ++ t)) := by
    rw [scan_append_space_append closed]
    exact Scan.Continues.run ⟨hpair, rfl⟩ (shifted_start closed) Scan.tidy_start _
  exact hc.finish (shifted_behind closed t) (tidy_scan t) hp

lemma parse_behind_leak (hl : (scan s).pair.leaks = true) : ∃ t p₂, parse t = .ok p₂ ∧
    parse (s ++ " " ++ t) ≠ .ok ((scan s).flush.props.insertAll p₂.entries) := by
  obtain ⟨w, hq, hw, hn⟩ := exists_fresh (scan s).flush.props.keys
  have hspan : '"' ∉ w := fun h => absurd (hq _ h) (by decide)
  have hfilter : (w.filter fun c => !isQuote c) = w := by simpa using hq
  obtain ⟨r, hr⟩ : ∃ r, r = Atom.quoted '"' w rfl hspan := ⟨_, rfl⟩
  have hrun : ∀ props i offset, Scan.run ⟨props, { inValue := i }, none, offset⟩ r.text =
      ⟨props, Pair.pushAll { inValue := i } w, none, offset + width r.text⟩ := by
    intro props i offset
    rw [Atom.run_text rfl, hr, Atom.read]
    simp [Atom.isColon, Atom.retained, hfilter, Scan.advance]
  refine ⟨String.ofList r.text, ⟨[(String.ofList w, "")]⟩, ?_, ?_⟩
  · rw [parse, String.toList_ofList, hrun, Pair.pushAll_key rfl]
    simp [Scan.finish, Scan.flush, hw, Props.insert, Props.insertEntry]
  · have hstart : (scan s).flush.advance 1 =
        ⟨(scan s).flush.props, { inValue := true }, none, (scan s).flush.offset + 1⟩ := by
      rw [← hl, ← (tidy_scan s).pair_flush, ← closed, ← Scan.openQuote_flush]
      rfl
    have hlost : parse (s ++ " " ++ String.ofList r.text) = .ok (scan s).flush.props := by
      rw [parse_eq, scan_append_space_append closed, hstart, String.toList_ofList, hrun, Pair.pushAll_value rfl]
      rfl
    rw [hlost]
    intro he
    have hm := Props.mem_keys_insert (scan s).flush.props (String.ofList w) ""
    exact hn (Except.ok.inj he ▸ hm)

/-- The second text counts as if it stood alone, unless the first one leaves a colon over. -/
theorem parse_concatenation :
    (∀ t q, parse (s ++ " " ++ t) = .error q ↔
      s.utf8ByteSize + 1 ≤ q.offset ∧ parse t = .error ⟨q.quote, q.offset - s.utf8ByteSize - 1⟩) ∧
    ∃ p, parse (s ++ " ") = .ok p ∧
      ((∀ t p₂, parse t = .ok p₂ → parse (s ++ " " ++ t) = .ok (p.insertAll p₂.entries)) ↔
        (scan s).pair.collected = true ∨ (scan s).pair.inValue = false) := by
  refine ⟨parse_eq_error_behind closed, _, parse_append_space closed, ?_⟩
  cases hl : (scan s).pair.leaks with
  | false =>
    have hok : (scan s).pair.collected = true ∨ (scan s).pair.inValue = false := by
      simpa [Pair.leaks, or_comm, imp_iff_or_not] using hl
    exact ⟨fun _ => hok, fun _ t p₂ => parse_behind closed hl⟩
  | true =>
    obtain ⟨hi, hc⟩ : (scan s).pair.inValue = true ∧ (scan s).pair.collected = false := by
      simpa [Pair.leaks] using hl
    obtain ⟨t, p₂, hp, hne⟩ := parse_behind_leak closed hl
    refine ⟨fun h => absurd (h t p₂ hp) hne, ?_⟩
    rintro (h | h)
    · simp [hc] at h
    · simp [hi] at h

end

theorem wide_concatenation : (scan "größe:'a b' n:1").openQuote = none ∧
    parse ("größe:'a b' n:1" ++ " " ++ "x:\"c") = .error ⟨'"', 20⟩ ∧
    parse ("größe:'a b' n:1" ++ " " ++ "größe:2 k") = .ok ⟨[("größe", "2"), ("n", "1"), ("k", "")]⟩ ∧
    (scan "k:v :").openQuote = none ∧
    ∃ t p₂, parse t = .ok p₂ ∧ parse ("k:v :" ++ " " ++ t) ≠ .ok (Props.insertAll ⟨[("k", "v")]⟩ p₂.entries) := by
  have closed : (scan "größe:'a b' n:1").openQuote = none := by decide +kernel
  have closed' : (scan "k:v :").openQuote = none := by decide +kernel
  obtain ⟨herror, p, hp, hlaw⟩ := parse_concatenation closed
  obtain ⟨-, p', hp', hlaw'⟩ := parse_concatenation closed'
  have hquote : parse "x:\"c" = .error ⟨'"', 2⟩ := by decide +kernel
  have hsecond : parse "größe:2 k" = .ok ⟨[("größe", "2"), ("k", "")]⟩ := by decide +kernel
  have hfirst : parse ("größe:'a b' n:1" ++ " ") = .ok ⟨[("größe", "a b"), ("n", "1")]⟩ := by decide +kernel
  have hfirst' : parse ("k:v :" ++ " ") = .ok ⟨[("k", "v")]⟩ := by decide +kernel
  obtain rfl := Except.ok.inj (hp.symm.trans hfirst)
  obtain rfl := Except.ok.inj (hp'.symm.trans hfirst')
  refine ⟨closed, (herror _ _).mpr ⟨by decide +kernel, hquote⟩, ?_, closed', ?_⟩
  · rw [hlaw.mpr (Or.inl (by decide +kernel)) _ _ hsecond]
    rfl
  · by_contra! h
    have hl := hlaw'.mp h
    revert hl
    decide +kernel

end CommandLine.Metadata
