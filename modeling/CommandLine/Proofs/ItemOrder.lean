import CommandLine.Proofs.ClosedForm

namespace CommandLine.Command

variable {c : Command} {items items' : List String} {item : String} {f : Field} {value : String}

def target? (c : Command) (item : String) : Option Field :=
  match c.route item with
  | .long text => c.longOptions.find? fun f => f.longLabel = (Item.splitOption text).1
  | .short text => c.shortOptions.find? fun f => f.shortLabel = (Item.splitOption text).1
  | .positional _ => none

lemma Gives.target (h : c.Gives item f value) : c.target? item = some f := by
  obtain ⟨m, key, hr, hi, hk, hf⟩ := h
  obtain ⟨rest, hi', hroute⟩ := route_of_reads hr
  have hs : (Item.splitOption rest).1 = key := by rw [Mark.splitOption_of_write hk (hi'.symm.trans hi)]
  have hfind := find?_table_eq_some_iff.mpr hf
  rw [target?, hroute]
  cases m with
  | long =>
    simp only [Mark.route, hs]
    exact hfind
  | short =>
    simp only [Mark.route, hs]
    exact hfind

lemma target_of_isPositional (h : c.IsPositional item) : c.target? item = none := by
  rw [target?, route_of_isPositional h]

lemma Accepts.gives (h : c.Accepts items) (hi : item ∈ items) (ht : c.target? item = some f) :
    ∃ value, c.Gives item f value := by
  have hn : ¬ c.IsPositional item := fun hp => by simp [target_of_isPositional hp] at ht
  obtain ⟨g, value, -, hg, -⟩ := h.options item hi hn
  obtain rfl := Option.some.inj (hg.target.symm.trans ht)
  exact ⟨value, hg⟩

lemma lastGiven_iff_filter (h : c.Accepts items) :
    c.LastGiven items f value ↔
      ∃ before item, (items.filter fun item => c.target? item = some f) = before ++ [item] ∧ c.Gives item f value := by
  refine ⟨?_, ?_⟩
  · rintro ⟨before, item, after, rfl, hg, hl⟩
    have hafter : after.filter (fun item => c.target? item = some f) = [] := by
      refine List.filter_eq_nil_iff.mpr fun later hi ht => ?_
      obtain ⟨v, hv⟩ := h.gives (by simp [hi]) (of_decide_eq_true ht)
      exact hl later hi v hv
    refine ⟨before.filter fun item => c.target? item = some f, item, ?_, hg⟩
    rw [List.filter_append, List.filter_cons, if_pos (decide_eq_true hg.target), hafter]
  · rintro ⟨before, item, hi, hg⟩
    obtain ⟨front, back, rfl, -, hb⟩ := List.filter_eq_append_iff.mp hi
    obtain ⟨skipped, after, rfl, -, -, ha⟩ := List.filter_eq_cons_iff.mp hb
    refine ⟨front ++ skipped, item, after, by simp, hg, fun later hi v hv => ?_⟩
    exact List.filter_eq_nil_iff.mp ha later hi (decide_eq_true hv.target)

section

variable (perm : items.Perm items')
  (positional : (items.filter fun item => c.IsPositional item) = items'.filter fun item => c.IsPositional item)
include perm positional

lemma Accepts.of_perm (h : c.Accepts items) : c.Accepts items' := by
  have hp : c.payloads items = c.payloads items' := congrArg (List.map Item.stripEscape) positional
  exact ⟨fun item hi => h.options item (perm.mem_iff.mpr hi), hp ▸ h.count, hp ▸ h.arguments⟩

lemma Holds.of_perm {content : Field → Value} (ha : c.Accepts items) (h : c.Holds items content)
    (each : ∀ f ∈ c.fields, f.isOption = true →
      (items.filter fun item => c.target? item = some f) = items'.filter fun item => c.target? item = some f) :
    c.Holds items' content := by
  have hp : c.payloads items = c.payloads items' := congrArg (List.map Item.stripEscape) positional
  refine ⟨fun f hf ho value hl => ?_, fun f hf ho hn => ?_, hp ▸ h.filled, hp ▸ h.unfilled⟩
  · rw [lastGiven_iff_filter (ha.of_perm perm positional), ← each f hf ho, ← lastGiven_iff_filter ha] at hl
    exact h.given f hf ho value hl
  · exact h.notGiven f hf ho fun item hi => hn item (perm.mem_iff.mp hi)

end

/-- Items may change places unless both are positional or both are for one option. -/
theorem run_perm (distinct : (c.fields.map Field.ident).Nodup) (perm : items.Perm items')
    (positional : (items.filter fun item => c.IsPositional item) = items'.filter fun item => c.IsPositional item) :
    ((∃ r, c.run items = .ok r) ↔ ∃ r, c.run items' = .ok r) ∧
    ((∀ f ∈ c.fields, f.isOption = true →
        (items.filter fun item => c.target? item = some f) = items'.filter fun item => c.target? item = some f) →
      ∀ r, c.run items = .ok r → c.run items' = .ok r) ∧
    ∀ d : Definition, d.command = .ok c → ∃ p, c.program = .ok p ∧
      p.run? items = some (c.run items) ∧ p.run? items' = some (c.run items') := by
  refine ⟨?_, ?_, fun d hd => ?_⟩
  · rw [exists_run_iff, exists_run_iff]
    exact ⟨fun ha => ha.of_perm perm positional, fun ha => ha.of_perm perm.symm positional.symm⟩
  · intro each r hr
    have ha := exists_run_iff.mp ⟨r, hr⟩
    obtain ⟨s, hs, rfl⟩ := run_eq_ok_iff.mp hr
    obtain ⟨content, he, hh⟩ := hs.holds distinct
    rw [he]
    exact run_of_holds distinct (ha.of_perm perm positional) (hh.of_perm perm positional ha each)
  · obtain ⟨p, hp, hr⟩ := Definition.exists_program hd
    exact ⟨p, hp, hr items, hr items'⟩

theorem run_repeated_perm :
    repeated.run ["\\-in", "--count=7", "-c=8"] =
      .ok [(⟨"count", false⟩, .integer 8), (⟨"input", false⟩, .text "-in")] ∧
    (∃ r, repeated.run ["-c=8", "\\-in", "--count=7"] = .ok r) := by
  have distinct : (repeated.fields.map Field.ident).Nodup := by decide
  have hr : repeated.run ["--count=7", "\\-in", "-c=8"] =
      .ok [(⟨"count", false⟩, .integer 8), (⟨"input", false⟩, .text "-in")] := by decide +kernel
  have perm : ["--count=7", "\\-in", "-c=8"].Perm ["\\-in", "--count=7", "-c=8"] := by decide +kernel
  have perm' : ["--count=7", "\\-in", "-c=8"].Perm ["-c=8", "\\-in", "--count=7"] := by decide +kernel
  have each : ∀ f ∈ repeated.fields, f.isOption = true →
      (["--count=7", "\\-in", "-c=8"].filter fun item => repeated.target? item = some f) =
        ["\\-in", "--count=7", "-c=8"].filter fun item => repeated.target? item = some f := by decide +kernel
  refine ⟨(run_perm distinct perm (by decide +kernel)).2.1 each _ hr, ?_⟩
  exact (run_perm distinct perm' (by decide +kernel)).1.mp ⟨_, hr⟩

end CommandLine.Command
