import CommandLine.Proofs.Metadata.Scan
import Mathlib.Data.List.Induction

/-! Texts that leave a quote open. -/

namespace CommandLine.Metadata

inductive Balanced : List Char → Prop
  | nil : Balanced []
  | plain {c : Char} {cs : List Char} (isPlain : isQuote c = false) (rest : Balanced cs) : Balanced (c :: cs)
  | span {q : Char} {w cs : List Char} (opens : isQuote q = true) (within : q ∉ w) (rest : Balanced cs) :
      Balanced (q :: (w ++ q :: cs))

structure UnterminatedQuote.Opens (e : UnterminatedQuote) (s before after : String) : Prop where
  text : s = before ++ String.singleton e.quote ++ after
  opens : isQuote e.quote = true
  offset : e.offset = before.utf8ByteSize
  closed : Balanced before.toList
  unclosed : e.quote ∉ after.toList

def quotes (s : String) : String := String.ofList (s.toList.filter isQuote)

variable {s t before after before' after' : String} {e e' : UnterminatedQuote} {cs xs ys w : List Char} {c q : Char}

lemma Balanced.append (hx : Balanced xs) (hy : Balanced ys) : Balanced (xs ++ ys) := by
  induction hx with
  | nil => exact hy
  | plain isPlain _ ih => exact .plain isPlain ih
  | span opens within _ ih =>
    rw [List.cons_append, List.append_assoc, List.cons_append]
    exact .span opens within ih

lemma Balanced.concat (h : Balanced cs) (hc : isQuote c = false) : Balanced (cs ++ [c]) :=
  h.append (.plain hc .nil)

lemma Balanced.close (h : Balanced cs) (opens : isQuote q = true) (within : q ∉ w) :
    Balanced (cs ++ q :: (w ++ [q])) :=
  h.append (.span opens within .nil)

lemma Balanced.filter (h : Balanced cs) : Balanced (cs.filter isQuote) := by
  induction h with
  | nil => exact .nil
  | plain isPlain _ ih => rwa [List.filter_cons_of_neg (by simp [isPlain])]
  | span opens within _ ih =>
    rw [List.filter_cons_of_pos opens, List.filter_append, List.filter_cons_of_pos opens]
    exact .span opens (fun hq => within (List.mem_of_mem_filter hq)) ih

lemma eq_of_prefix_of_width_eq (h : xs <+: ys) (hw : width xs = width ys) : xs = ys := by
  obtain ⟨w, rfl⟩ := h
  cases w with
  | nil => simp
  | cons c w =>
    have hc := c.utf8Size_pos
    rw [width_append, width_cons] at hw
    omega

namespace Scan

variable {s : Scan}

lemma openQuote_run_balanced (hs : s.openQuote = none) (h : Balanced cs) : (s.run cs).openQuote = none := by
  induction h generalizing s with
  | nil => exact hs
  | plain isPlain _ ih =>
    refine ih ?_
    simp [openQuote_step, hs, quoteAfter, isPlain]
  | @span q w cs opens within _ ih =>
    have ho : (s.step q).openQuote = some ⟨q, s.offset⟩ := by simp [openQuote_step, hs, quoteAfter, opens]
    rw [run_cons, run_append, run_span ho within, run_cons]
    refine ih ((openQuote_step _ _).trans ?_)
    dsimp only
    rw [ho, quoteAfter, if_pos rfl]

end Scan

lemma openQuote_of_opens (h : e.Opens s before after) : (scan s).openQuote = some e := by
  have hs : s.toList = before.toList ++ e.quote :: after.toList := by simp [h.text]
  have hb : (Scan.run {} before.toList).openQuote = none := Scan.openQuote_run_balanced rfl h.closed
  have ho : ((Scan.run {} before.toList).step e.quote).openQuote = some e := by
    rw [Scan.openQuote_step, hb, Scan.offset_run, width_toList, quoteAfter, if_pos h.opens, ← h.offset]
    simp
  rw [scan, hs, Scan.run_append, Scan.run_cons, Scan.run_span ho h.unclosed]
  exact ho

lemma balanced_or_opens (cs : List Char) :
    (Balanced cs ∧ (Scan.run {} cs).openQuote = none) ∨
      ∃ e before after, e.Opens (String.ofList cs) before after ∧ (Scan.run {} cs).openQuote = some e := by
  -- By induction from the end, since it is the last character that opens or closes.
  induction cs using List.reverseRecOn with
  | nil => exact Or.inl ⟨.nil, rfl⟩
  | append_singleton cs c ih =>
    have hrun : (Scan.run {} (cs ++ [c])).openQuote =
        quoteAfter (Scan.run {} cs).openQuote (width cs) c := by
      rw [Scan.run_append, Scan.run_cons, Scan.run_nil, Scan.openQuote_step, Scan.offset_run]
      simp
    rw [hrun]
    rcases ih with ⟨hb, ho⟩ | ⟨e, before, after, he, ho⟩
    · rw [ho]
      by_cases hc : isQuote c = true
      · refine Or.inr ⟨⟨c, width cs⟩, String.ofList cs, "", ⟨?_, hc, ?_, ?_, by simp⟩, by simp [quoteAfter, hc]⟩
        · simp
        · rw [← width_toList, String.toList_ofList]
        · rwa [String.toList_ofList]
      · rw [Bool.not_eq_true] at hc
        exact Or.inl ⟨hb.concat hc, by simp [quoteAfter, hc]⟩
    · rw [ho]
      have ht : cs = before.toList ++ e.quote :: after.toList := by
        simpa using congrArg String.toList he.text
      by_cases hc : c = e.quote
      · refine Or.inl ⟨?_, by simp [quoteAfter, hc]⟩
        rw [ht, hc, List.append_assoc, List.cons_append]
        exact he.closed.close he.opens he.unclosed
      · refine Or.inr ⟨e, before, after.push c, ⟨?_, he.opens, he.offset, he.closed, ?_⟩, by simp [quoteAfter, hc]⟩
        · simp [← String.toList_inj, ht]
        · simpa using ⟨he.unclosed, Ne.symm hc⟩

lemma parse_eq_error_iff : parse s = .error e ↔ ∃ before after, e.Opens s before after := by
  rw [parse_eq, Scan.finish_eq_error_iff]
  refine ⟨fun h => ?_, fun ⟨_, _, ho⟩ => openQuote_of_opens ho⟩
  rcases balanced_or_opens s.toList with ⟨-, hn⟩ | ⟨e', before, after, he, ho⟩
  · rw [scan, hn] at h
    cases h
  · rw [scan, ho] at h
    obtain rfl := Option.some.inj h
    rw [String.ofList_toList] at he
    exact ⟨before, after, he⟩

lemma exists_parse_iff_balanced : (∃ p, parse s = .ok p) ↔ Balanced s.toList := by
  have ho : (∃ p, parse s = .ok p) ↔ (scan s).openQuote = none := by
    simp [parse_eq, Scan.finish_eq_ok_iff]
  rw [ho]
  refine ⟨fun h => ?_, Scan.openQuote_run_balanced rfl⟩
  rcases balanced_or_opens s.toList with ⟨hb, -⟩ | ⟨e, before, after, -, he⟩
  · exact hb
  · rw [scan, he] at h
    cases h

lemma UnterminatedQuote.Opens.unique (h : e.Opens s before after) (h' : e'.Opens s before' after') :
    e = e' ∧ before = before' ∧ after = after' := by
  obtain rfl : e = e' := Option.some.inj ((openQuote_of_opens h).symm.trans (openQuote_of_opens h'))
  have hw : width before.toList = width before'.toList := by
    rw [width_toList, width_toList, ← h.offset, ← h'.offset]
  have ht : before.toList ++ e.quote :: after.toList = before'.toList ++ e.quote :: after'.toList := by
    have hs := congrArg String.toList (h.text.symm.trans h'.text)
    simpa using hs
  have hb : before.toList = before'.toList := by
    have hp := List.prefix_append before.toList (e.quote :: after.toList)
    have hp' := List.prefix_append before'.toList (e.quote :: after'.toList)
    rcases List.prefix_or_prefix_of_prefix (ht ▸ hp) hp' with h | h
    · exact eq_of_prefix_of_width_eq h hw
    · exact (eq_of_prefix_of_width_eq h hw.symm).symm
  rw [hb, List.append_cancel_left_eq] at ht
  exact ⟨rfl, String.toList_inj.mp hb, String.toList_inj.mp (List.cons.inj ht).2⟩

lemma UnterminatedQuote.Opens.quotes (h : e.Opens s before after) :
    Opens ⟨e.quote, (quotes before).utf8ByteSize⟩ (quotes s) (quotes before) (quotes after) where
  text := by simp [Metadata.quotes, h.text, ← String.toList_inj, h.opens]
  opens := h.opens
  offset := rfl
  closed := by simpa [Metadata.quotes] using h.closed.filter
  unclosed hq := by
    rw [Metadata.quotes, String.toList_ofList] at hq
    exact h.unclosed (List.mem_of_mem_filter hq)

lemma exists_error_quotes_iff :
    (∃ n, parse (quotes s) = .error ⟨q, n⟩) ↔ ∃ n, parse s = .error ⟨q, n⟩ := by
  have hq : ∀ q, (∃ n, parse s = .error ⟨q, n⟩) → ∃ n, parse (quotes s) = .error ⟨q, n⟩ := by
    rintro q ⟨n, h⟩
    obtain ⟨before, after, ho⟩ := parse_eq_error_iff.mp h
    exact ⟨_, parse_eq_error_iff.mpr ⟨_, _, ho.quotes⟩⟩
  refine ⟨fun ⟨n, h⟩ => ?_, hq q⟩
  cases hs : parse s with
  | ok p =>
    have hb : Balanced (quotes s).toList := by
      rw [quotes, String.toList_ofList]
      exact (exists_parse_iff_balanced.mp ⟨p, hs⟩).filter
    obtain ⟨p', hp⟩ := exists_parse_iff_balanced.mpr hb
    rw [hp] at h
    cases h
  | error e =>
    obtain ⟨n', h'⟩ := hq e.quote ⟨e.offset, hs⟩
    rw [h'] at h
    obtain rfl : e.quote = q := congrArg UnterminatedQuote.quote (Except.error.inj h)
    exact ⟨e.offset, rfl⟩

/-- A text is refused exactly if a quote cuts it into a closed part and one that does not close it. -/
theorem parse_unterminated (s : String) :
    (∀ e, parse s = .error e ↔ ∃ before after, e.Opens s before after) ∧
    ((∃ p, parse s = .ok p) ↔ ∀ e before after, ¬ UnterminatedQuote.Opens e s before after) ∧
    (∀ e e' before before' after after', UnterminatedQuote.Opens e s before after →
      UnterminatedQuote.Opens e' s before' after' → e = e' ∧ before = before' ∧ after = after') ∧
    ∀ t, quotes t = quotes s → ∀ q, (∃ n, parse t = .error ⟨q, n⟩) ↔ ∃ n, parse s = .error ⟨q, n⟩ := by
  refine ⟨fun _ => parse_eq_error_iff, ?_, fun _ _ _ _ _ _ h h' => h.unique h', fun t ht q => ?_⟩
  · cases hs : parse s with
    | ok p =>
      refine iff_of_true ⟨p, rfl⟩ fun e before after ho => ?_
      rw [parse_eq_error_iff.mpr ⟨before, after, ho⟩] at hs
      cases hs
    | error e =>
      obtain ⟨before, after, ho⟩ := parse_eq_error_iff.mp hs
      exact iff_of_false (by simp) fun h => h e before after ho
  · rw [← exists_error_quotes_iff, ht, exists_error_quotes_iff]

theorem mixed_unterminated :
    UnterminatedQuote.Opens ⟨'`', 16⟩ "größe:'a \"b' :`x 'y" "größe:'a \"b' :" "x 'y" ∧
    parse "größe:'a \"b' :`x 'y" = .error ⟨'`', 16⟩ ∧
    quotes "'k:\"' `'" = quotes "größe:'a \"b' :`x 'y" ∧
    ∃ n, parse "'k:\"' `'" = .error ⟨'`', n⟩ := by
  have hb : Balanced "größe:'a \"b' :".toList :=
    exists_parse_iff_balanced.mp ⟨⟨[("größe", "a b")]⟩, by decide +kernel⟩
  have ho : UnterminatedQuote.Opens ⟨'`', 16⟩ "größe:'a \"b' :`x 'y" "größe:'a \"b' :" "x 'y" :=
    ⟨by decide +kernel, rfl, by decide +kernel, hb, by decide +kernel⟩
  have hq : quotes "'k:\"' `'" = quotes "größe:'a \"b' :`x 'y" := by decide +kernel
  obtain ⟨herror, -, -, hquotes⟩ := parse_unterminated "größe:'a \"b' :`x 'y"
  have hparse := (herror _).mpr ⟨_, _, ho⟩
  exact ⟨ho, hparse, hq, (hquotes _ hq _).mpr ⟨_, hparse⟩⟩

end CommandLine.Metadata
