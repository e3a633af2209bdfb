import CommandLine.Proofs.Emission.Implementation
import Mathlib.Data.List.Nodup

/-! The result of a run said without a run: which command lines succeed, and what every field holds when one does. -/

namespace CommandLine

lemma Record.assign_map (fields : List Field) (content : Field → Value) (i : Source.Ident) (v : Value) :
    Record.assign (fields.map fun f => (f.ident, content f)) i v =
      fields.map fun f => (f.ident, if f.ident = i then v else content f) := by
  rw [Record.assign, List.map_map]
  refine List.map_congr_left fun f _ => ?_
  by_cases h : f.ident = i <;> simp [h]

namespace Command

variable {c : Command} {items : List String} {item text value : String} {f g : Field} {s : State}

structure Accepts (c : Command) (items : List String) : Prop where
  options : ∀ item ∈ items, ¬ c.IsPositional item →
    ∃ f value v, c.Gives item f value ∧ f.kind.convert value = .ok v
  count : (c.payloads items).length ≤ c.arguments.length
  arguments : ∀ (i : ℕ) f payload, c.arguments[i]? = some f → (c.payloads items)[i]? = some payload →
    ∃ v, f.kind.convert payload = .ok v

def LastGiven (c : Command) (items : List String) (f : Field) (value : String) : Prop :=
  ∃ before item after, items = before ++ item :: after ∧ c.Gives item f value ∧
    ∀ later ∈ after, ∀ v, ¬ c.Gives later f v

structure Holds (c : Command) (items : List String) (content : Field → Value) : Prop where
  given : ∀ f ∈ c.fields, f.isOption → ∀ value, c.LastGiven items f value →
    f.kind.convert value = .ok (content f)
  notGiven : ∀ f ∈ c.fields, f.isOption → (∀ item ∈ items, ∀ value, ¬ c.Gives item f value) →
    content f = f.initialValue
  filled : ∀ (i : ℕ) f payload, c.arguments[i]? = some f → (c.payloads items)[i]? = some payload →
    f.kind.convert payload = .ok (content f)
  unfilled : ∀ (i : ℕ) f, c.arguments[i]? = some f → (c.payloads items)[i]? = none →
    content f = f.initialValue

lemma isOption_eq (f : Field) : f.isOption = !f.isArgument := by
  cases h : f.role <;> simp [Field.isOption, Field.isArgument, h]

lemma mem_of_argument {i : ℕ} (h : c.arguments[i]? = some f) : f ∈ c.fields ∧ f.isArgument = true := by
  have hm : f ∈ c.arguments := List.mem_of_getElem? h
  exact mem_arguments_iff.mp hm

lemma Fills.mem (h : c.Fills items item f text) : f ∈ c.fields := by
  rcases h with h | ⟨-, h, -⟩
  · exact h.mem.1
  · exact (mem_of_argument h).1

lemma Fills.gives (h : c.Fills items item f text) (ho : f.isOption = true) : c.Gives item f text := by
  rcases h with h | ⟨-, h, -⟩
  · exact h
  · simp [isOption_eq, (mem_of_argument h).2] at ho

lemma accepts_nil (c : Command) : c.Accepts [] :=
  ⟨by simp, by simp, by simp⟩

lemma accepts_concat_option (h : ¬ c.IsPositional item) :
    c.Accepts (items ++ [item]) ↔
      c.Accepts items ∧ ∃ f value v, c.Gives item f value ∧ f.kind.convert value = .ok v := by
  have hp : c.payloads (items ++ [item]) = c.payloads items := by
    rw [payloads_append, payloads_option h, List.append_nil]
  refine ⟨?_, ?_⟩
  · rintro ⟨ho, hc, ha⟩
    rw [hp] at hc ha
    exact ⟨⟨fun t ht => ho t (by simp [ht]), hc, ha⟩, ho item (by simp) h⟩
  · rintro ⟨⟨ho, hc, ha⟩, hi⟩
    refine ⟨?_, by rwa [hp], by rwa [hp]⟩
    intro t ht hn
    rcases List.mem_append.mp ht with ht | ht
    · exact ho t ht hn
    · rwa [List.mem_singleton.mp ht]

lemma accepts_concat_positional (h : c.IsPositional item) :
    c.Accepts (items ++ [item]) ↔
      c.Accepts items ∧ ∃ f v, c.arguments[(c.payloads items).length]? = some f ∧
        f.kind.convert (Item.stripEscape item) = .ok v := by
  have hp : (c.payloads (items ++ [item])).length = (c.payloads items).length + 1 := by
    rw [payloads_append, payloads_positional h, List.length_append, List.length_singleton]
  have hlast : (c.payloads (items ++ [item]))[(c.payloads items).length]? = some (Item.stripEscape item) :=
    getElem?_payloads_concat.mpr (Or.inr ⟨h, rfl, rfl⟩)
  refine ⟨?_, ?_⟩
  · rintro ⟨ho, hc, ha⟩
    rw [hp] at hc
    refine ⟨⟨fun t ht => ho t (by simp [ht]), by omega, fun i f payload hf hi =>
      ha i f payload hf (getElem?_payloads_concat.mpr (Or.inl hi))⟩, ?_⟩
    have hf := List.getElem?_eq_getElem (l := c.arguments) (by omega : (c.payloads items).length < _)
    obtain ⟨v, hv⟩ := ha _ _ _ hf hlast
    exact ⟨_, v, hf, hv⟩
  · rintro ⟨⟨ho, hc, ha⟩, f, v, hf, hv⟩
    have hlt := (List.getElem?_eq_some_iff.mp hf).1
    refine ⟨?_, by omega, ?_⟩
    · intro t ht hn
      rcases List.mem_append.mp ht with ht | ht
      · exact ho t ht hn
      · exact absurd (List.mem_singleton.mp ht ▸ h) hn
    · intro i g payload hg hi
      rcases getElem?_payloads_concat.mp hi with hi | ⟨-, rfl, rfl⟩
      · exact ha i g payload hg hi
      · obtain rfl := Option.some.inj (hf.symm.trans hg)
        exact ⟨v, hv⟩

lemma accepts_concat_iff :
    c.Accepts (items ++ [item]) ↔
      c.Accepts items ∧ ∃ f text v, c.Fills items item f text ∧ f.kind.convert text = .ok v := by
  by_cases h : c.IsPositional item
  · rw [accepts_concat_positional h]
    refine and_congr_right fun _ => ⟨?_, ?_⟩
    · rintro ⟨f, v, hf, hv⟩
      exact ⟨f, _, v, Or.inr ⟨h, hf, rfl⟩, hv⟩
    · rintro ⟨f, text, v, hg | ⟨-, hf, rfl⟩, hv⟩
      · exact absurd h hg.not_isPositional
      · exact ⟨f, v, hf, hv⟩
  · rw [accepts_concat_option h]
    refine and_congr_right fun _ => ⟨?_, ?_⟩
    · rintro ⟨f, value, v, hg, hv⟩
      exact ⟨f, value, v, Or.inl hg, hv⟩
    · rintro ⟨f, text, v, hg | ⟨hi, -⟩, hv⟩
      · exact ⟨f, text, v, hg, hv⟩
      · exact absurd hi h

lemma exists_reaches_iff : (∃ s, c.Reaches items s) ↔ c.Accepts items := by
  induction items using List.reverseRecOn with
  | nil => exact ⟨fun _ => c.accepts_nil, fun _ => ⟨c.start, rfl⟩⟩
  | append_singleton items item ih =>
    rw [accepts_concat_iff, ← ih]
    refine ⟨?_, ?_⟩
    · rintro ⟨s', h⟩
      obtain ⟨s, f, text, v, hs, hf, hv, -⟩ := reaches_concat_iff.mp h
      exact ⟨⟨s, hs⟩, f, text, v, hf, hv⟩
    · rintro ⟨⟨s, hs⟩, f, text, v, hf, hv⟩
      exact ⟨_, reaches_concat_iff.mpr ⟨s, f, text, v, hs, hf, hv, rfl⟩⟩

lemma exists_run_iff : (∃ r, c.run items = .ok r) ↔ c.Accepts items := by
  rw [← exists_reaches_iff]
  simp only [run_eq_ok_iff]
  exact ⟨fun ⟨_, s, hs, _⟩ => ⟨s, hs⟩, fun ⟨s, hs⟩ => ⟨s.record, s, hs, rfl⟩⟩

lemma lastGiven_concat_iff :
    c.LastGiven (items ++ [item]) f value ↔
      c.Gives item f value ∨ (∀ v, ¬ c.Gives item f v) ∧ c.LastGiven items f value := by
  refine ⟨?_, ?_⟩
  · rintro ⟨before, t, after, hi, hg, hl⟩
    -- the item that gives the value is the new one when nothing comes behind it
    rcases List.eq_nil_or_concat' after with rfl | ⟨after, last, rfl⟩
    · obtain ⟨-, he⟩ := List.append_inj' hi rfl
      obtain rfl : item = t := by simpa using he
      exact Or.inl hg
    · rw [← List.cons_append, ← List.append_assoc] at hi
      obtain ⟨rfl, he⟩ := List.append_inj' hi rfl
      obtain rfl : item = last := by simpa using he
      exact Or.inr ⟨hl item (by simp), before, t, after, rfl, hg, fun x hx => hl x (by simp [hx])⟩
  · rintro (hg | ⟨hn, before, t, after, rfl, hg, hl⟩)
    · exact ⟨items, item, [], by simp, hg, by simp⟩
    · refine ⟨before, t, after ++ [item], by simp, hg, fun x hx => ?_⟩
      rcases List.mem_append.mp hx with hx | hx
      · exact hl x hx
      · rwa [List.mem_singleton.mp hx]

lemma exists_lastGiven (h : ∃ item ∈ items, ∃ v, c.Gives item f v) : ∃ value, c.LastGiven items f value := by
  induction items using List.reverseRecOn with
  | nil => simp at h
  | append_singleton items item ih =>
    simp only [lastGiven_concat_iff]
    by_cases hg : ∃ v, c.Gives item f v
    · obtain ⟨v, hv⟩ := hg
      exact ⟨v, Or.inl hv⟩
    · rw [not_exists] at hg
      obtain ⟨t, ht, v, hv⟩ := h
      have hm : t ∈ items := by
        rcases List.mem_append.mp ht with ht | ht
        · exact ht
        · exact absurd hv (List.mem_singleton.mp ht ▸ hg v)
      obtain ⟨value, hl⟩ := ih ⟨t, hm, v, hv⟩
      exact ⟨value, Or.inr ⟨hg, hl⟩⟩

lemma Holds.unique {content content' : Field → Value} (h : c.Holds items content) (h' : c.Holds items content')
    (hf : f ∈ c.fields) : content f = content' f := by
  cases hr : f.role with
  | option =>
    have ho : f.isOption = true := by simp [Field.isOption, hr]
    by_cases hg : ∃ item ∈ items, ∃ v, c.Gives item f v
    · obtain ⟨value, hl⟩ := exists_lastGiven hg
      exact Except.ok.inj ((h.given f hf ho value hl).symm.trans (h'.given f hf ho value hl))
    · have hn : ∀ item ∈ items, ∀ value, ¬ c.Gives item f value := fun item hi value hv => hg ⟨item, hi, value, hv⟩
      rw [h.notGiven f hf ho hn, h'.notGiven f hf ho hn]
  | argument =>
    have ha : f ∈ c.arguments := mem_arguments_iff.mpr ⟨hf, by simp [Field.isArgument, hr]⟩
    obtain ⟨i, hi⟩ := List.mem_iff_getElem?.mp ha
    cases hp : (c.payloads items)[i]? with
    | some payload => exact Except.ok.inj ((h.filled i f payload hi hp).symm.trans (h'.filled i f payload hi hp))
    | none => rw [h.unfilled i f hi hp, h'.unfilled i f hi hp]

lemma holds_nil (c : Command) : c.Holds [] Field.initialValue where
  given f hf ho value := by
    rintro ⟨before, item, after, h, -⟩
    simp at h
  notGiven f hf ho hn := rfl
  filled i f payload hf hp := by simp at hp
  unfilled i f hf hp := rfl

section

variable (distinct : (c.fields.map Field.ident).Nodup)
include distinct

lemma eq_of_ident_eq (hf : f ∈ c.fields) (hg : g ∈ c.fields) (h : f.ident = g.ident) : f = g :=
  List.inj_on_of_nodup_map distinct hf hg h

lemma argument_index_eq {i j : ℕ} (hi : c.arguments[i]? = some f) (hj : c.arguments[j]? = some f) :
    i = j := by
  have hn : c.arguments.Nodup := by
    rw [arguments_eq]
    exact (List.Nodup.of_map _ distinct).filter _
  exact (List.getElem?_inj (List.getElem?_eq_some_iff.mp hi).1 hn).mp (hi.trans hj.symm)

lemma Fills.turn {i : ℕ} (h : c.Fills items item f text) (hi : c.arguments[i]? = some f) :
    c.IsPositional item ∧ i = (c.payloads items).length ∧ text = Item.stripEscape item := by
  rcases h with h | ⟨hp, hf, rfl⟩
  · exact absurd h.mem.2 (by simp [isOption_eq, (mem_of_argument hi).2])
  · exact ⟨hp, argument_index_eq distinct hi hf, rfl⟩

lemma Holds.concat {content content' : Field → Value} {v : Value} (h : c.Holds items content)
    (hf : c.Fills items item f text) (hv : f.kind.convert text = .ok v) (hself : content' f = v)
    (hother : ∀ g ∈ c.fields, g ≠ f → content' g = content g) : c.Holds (items ++ [item]) content' where
  given g hg ho value hl := by
    rcases lastGiven_concat_iff.mp hl with hi | ⟨hn, hl⟩
    · rcases hf with hf | ⟨hp, -⟩
      · obtain ⟨rfl, rfl⟩ := hi.unique hf
        rw [hself, hv]
      · exact absurd hp hi.not_isPositional
    · rw [hother g hg ?_]
      · exact h.given g hg ho value hl
      · rintro rfl
        exact hn _ (hf.gives ho)
  notGiven g hg ho hn := by
    rw [hother g hg ?_]
    · exact h.notGiven g hg ho fun t ht => hn t (by simp [ht])
    · rintro rfl
      exact hn item (by simp) _ (hf.gives ho)
  filled i g payload hg hp := by
    rcases getElem?_payloads_concat.mp hp with hp | ⟨hi, rfl, rfl⟩
    · rw [hother g (mem_of_argument hg).1 ?_]
      · exact h.filled i g payload hg hp
      · rintro rfl
        obtain ⟨-, rfl, -⟩ := hf.turn distinct hg
        simp at hp
    · rcases hf with hf | ⟨-, hf, rfl⟩
      · exact absurd hi hf.not_isPositional
      · obtain rfl := Option.some.inj (hf.symm.trans hg)
        rw [hself, hv]
  unfilled i g hg hp := by
    have hn : ∀ payload, (c.payloads (items ++ [item]))[i]? ≠ some payload := by simp [hp]
    rw [hother g (mem_of_argument hg).1 ?_]
    · refine h.unfilled i g hg (Option.eq_none_iff_forall_ne_some.mpr fun payload hi => ?_)
      exact hn payload (getElem?_payloads_concat.mpr (Or.inl hi))
    · rintro rfl
      exact hn _ (getElem?_payloads_concat.mpr (Or.inr (hf.turn distinct hg)))

lemma Reaches.holds (h : c.Reaches items s) :
    ∃ content, s.record = c.fields.map (fun f => (f.ident, content f)) ∧ c.Holds items content := by
  induction items using List.reverseRecOn generalizing s with
  | nil =>
    obtain rfl : c.start = s := Except.ok.inj h
    exact ⟨Field.initialValue, rfl, c.holds_nil⟩
  | append_singleton items item ih =>
    obtain ⟨t, f, text, v, ht, hf, hv, rfl⟩ := reaches_concat_iff.mp h
    obtain ⟨content, hr, hc⟩ := ih ht
    refine ⟨fun g => if g.ident = f.ident then v else content g, by rw [hr, Record.assign_map], ?_⟩
    refine hc.concat distinct hf hv (if_pos rfl) fun g hg hne => if_neg fun he => hne ?_
    exact eq_of_ident_eq distinct hg hf.mem he

lemma run_of_holds {content : Field → Value} (ha : c.Accepts items) (hh : c.Holds items content) :
    c.run items = .ok (c.fields.map fun f => (f.ident, content f)) := by
  obtain ⟨s, hs⟩ := exists_reaches_iff.mpr ha
  obtain ⟨content', hr, hc⟩ := hs.holds distinct
  refine run_eq_ok_iff.mpr ⟨s, hs, ?_⟩
  rw [hr]
  exact List.map_congr_left fun f hf => congrArg (f.ident, ·) (hc.unique hh hf)

/-- A run succeeds on the accepted command lines alone, and gives the record that the items describe. -/
theorem run_closed_form (items : List String) :
    ((∃ r, c.run items = .ok r) ↔ c.Accepts items) ∧
      (∀ r, c.run items = .ok r →
        ∃ content, r = c.fields.map (fun f => (f.ident, content f)) ∧ c.Holds items content) ∧
      ∀ d : Definition, d.command = .ok c → ∃ p, c.program = .ok p ∧ p.run? items = some (c.run items) := by
  simp only [run_eq_ok_iff]
  refine ⟨?_, ?_, fun d hd => ?_⟩
  · rw [← exists_reaches_iff]
    exact ⟨fun ⟨_, s, hs, _⟩ => ⟨s, hs⟩, fun ⟨s, hs⟩ => ⟨s.record, s, hs, rfl⟩⟩
  · rintro r ⟨s, hs, rfl⟩
    exact hs.holds distinct
  · obtain ⟨p, hp, hr⟩ := Definition.exists_program hd
    exact ⟨p, hp, hr items⟩

end

def repeated : Command where
  ident := ⟨"Repeated", false⟩
  fields := [
    { ident := ⟨"count", false⟩, name := "count", short := "c", kind := .integer .u8, role := .option },
    { ident := ⟨"input", false⟩, name := "input", kind := .text }]

theorem repeated_closed_form : (repeated.fields.map Field.ident).Nodup ∧
    repeated.Accepts ["--count=7", "-c=8", "\\-in"] ∧
    ∃ content, repeated.Holds ["--count=7", "-c=8", "\\-in"] content ∧
      repeated.fields.map content = [.integer 8, .text "-in"] := by
  have distinct : (repeated.fields.map Field.ident).Nodup := by decide
  have hr : repeated.run ["--count=7", "-c=8", "\\-in"] =
      .ok [(⟨"count", false⟩, .integer 8), (⟨"input", false⟩, .text "-in")] := by decide +kernel
  obtain ⟨ha, hc, -⟩ := run_closed_form distinct ["--count=7", "-c=8", "\\-in"]
  obtain ⟨content, he, hh⟩ := hc _ hr
  refine ⟨distinct, ha.mp ⟨_, hr⟩, content, hh, ?_⟩
  simpa [repeated] using he.symm

end Command

end CommandLine
