import CommandLine.Proofs.Emission.Simulation
import CommandLine.Proofs.ItemOrder

/-! Two commands on one command line. -/

namespace CommandLine

/-- The second outcome goes with the first: a related success where the first one succeeds, and the same error where
the first one fails with an error that counts. -/
structure Follows {ε α β : Type} (R : α → β → Prop) (counts : ε → Prop) (x : Except ε α) (y : Except ε β) :
    Prop where
  ok : ∀ a, x = .ok a → ∃ b, y = .ok b ∧ R a b
  error : ∀ e, counts e → x = .error e → y = .error e

namespace Follows

variable {ε α β γ δ : Type} {R : α → β → Prop} {counts : ε → Prop} {x : Except ε α} {y : Except ε β}

lemma of_ok {a : α} {b : β} (h : R a b) : Follows R counts (.ok a) (.ok b) where
  ok _ ha := ⟨b, rfl, Except.ok.inj ha ▸ h⟩
  error _ _ he := by cases he

lemma of_error (e : ε) : Follows R counts (.error e) (.error e) where
  ok _ ha := by cases ha
  error _ _ he := congrArg _ (Except.error.inj he)

lemma of_not_counts {e : ε} (h : ¬ counts e) (y : Except ε β) : Follows R counts (.error e) y where
  ok _ ha := by cases ha
  error _ hc he := absurd hc (Except.error.inj he ▸ h)

lemma map {S : γ → δ → Prop} {f : α → γ} {g : β → δ} (h : Follows R counts x y)
    (hr : ∀ a b, R a b → S (f a) (g b)) : Follows S counts (x.map f) (y.map g) := by
  cases x with
  | error e =>
    by_cases hc : counts e
    · rw [h.error e hc rfl]
      exact .of_error e
    · exact .of_not_counts hc _
  | ok a =>
    obtain ⟨b, rfl, hb⟩ := h.ok a rfl
    exact .of_ok (hr a b hb)

lemma error_iff {e : ε} (h : Follows R (fun _ => True) x y) : x = .error e ↔ y = .error e := by
  refine ⟨h.error e trivial, fun hy => ?_⟩
  cases x with
  | ok a =>
    obtain ⟨b, hb, -⟩ := h.ok a rfl
    cases hb.symm.trans hy
  | error e' => rw [Except.error.inj ((h.error e' trivial rfl).symm.trans hy)]

end Follows

namespace Command

variable {c c' : Command} {m : Mark} {item text : String} {items : List String} {f : Field} {s s' : State}
  {counts : ArgsError → Prop} {R : Record → Record → Prop}

structure Alike (c c' : Command) (item : String) : Prop where
  route : c'.route item = c.route item
  target : c'.target? item = c.target? item

lemma route_congr (empty : ∀ m, c'.table m = [] ↔ c.table m = []) (item : String) :
    c'.route item = c.route item := by
  have hl : c'.longOptions.isEmpty = c.longOptions.isEmpty := by
    rw [Bool.eq_iff_iff, List.isEmpty_iff, List.isEmpty_iff]
    exact empty .long
  have hs : c'.shortOptions.isEmpty = c.shortOptions.isEmpty := by
    rw [Bool.eq_iff_iff, List.isEmpty_iff, List.isEmpty_iff]
    exact empty .short
  rw [route, route, hl, hs]

lemma alike_of_find? (empty : ∀ m, c'.table m = [] ↔ c.table m = [])
    (find : ∀ m text, c.route item = m.route text →
      ((c'.table m).find? fun f => f.label m = (Item.splitOption text).1) =
        (c.table m).find? fun f => f.label m = (Item.splitOption text).1) : c.Alike c' item where
  route := route_congr empty item
  target := by
    rw [target?, target?, route_congr empty]
    cases hr : c.route item with
    | long text => exact find .long text hr
    | short text => exact find .short text hr
    | positional payload => rfl

lemma Alike.step (h : c.Alike c' item) (s : State) : c'.step s item = c.step s item := by
  have ht := h.target
  rw [target?, target?, h.route] at ht
  rw [Command.step, Command.step, h.route]
  cases hr : c.route item with
  | long text =>
    simp only [hr] at ht
    simp only [readOption, ht]
  | short text =>
    simp only [hr] at ht
    simp only [readOption, ht]
  | positional payload => rfl

def Keeps (c : Command) (R : Record → Record → Prop) : Prop :=
  ∀ f ∈ c.fields, ∀ v r r', R r r' → R (r.assign f.ident v) (r'.assign f.ident v)

structure Matched (c : Command) (R : Record → Record → Prop) (s s' : State) : Prop where
  record : R s.record s'.record
  pending : s'.pending = s.pending
  suffix : s.pending <:+ c.arguments

namespace Matched

lemma store (h : c.Matched R s s') (keeps : c.Keeps R) (hf : f ∈ c.fields) (text : String) :
    Follows (c.Matched R) counts (Command.store s f text) (Command.store s' f text) := by
  simp only [Command.store]
  cases f.kind.convert text with
  | error e => exact .of_error e
  | ok v => exact .of_ok ⟨keeps f hf v _ _ h.record, h.pending, h.suffix⟩

lemma step (h : c.Matched R s s') (keeps : c.Keeps R) (alike : c.Alike c' item) :
    Follows (c.Matched R) counts (c.step s item) (c'.step s' item) := by
  rw [alike.step]
  rcases c.reads_or_isPositional item with ⟨m, hr⟩ | hi
  · rcases reads_cases hr with ⟨f, value, hg⟩ | ⟨key, hb⟩ | ⟨key, hu⟩
    · rw [step_of_gives hg, step_of_gives hg]
      exact h.store keeps hg.mem.1 value
    · rw [step_of_bare hb, step_of_bare hb]
      exact .of_error _
    · rw [step_of_unknown hu, step_of_unknown hu]
      exact .of_error _
  · rw [step_of_isPositional hi, step_of_isPositional hi, readArgument, readArgument, h.pending]
    have hs := h.suffix
    cases hp : s.pending with
    | nil => exact .of_error _
    | cons f rest =>
      rw [hp] at hs
      have hf : f ∈ c.fields := (mem_arguments_iff.mp (hs.subset List.mem_cons_self)).1
      have hrest : c.Matched R { s with pending := rest } { s' with pending := rest } :=
        ⟨h.record, rfl, (List.suffix_cons f rest).trans hs⟩
      exact hrest.store keeps hf _

end Matched

lemma steps_follows {S : State → State → Prop}
    (each : ∀ s s' item, S s s' → Follows S counts (c.step s item) (c'.step s' item)) (h : S s s')
    (items : List String) : Follows S counts (c.steps s items) (c'.steps s' items) := by
  induction items generalizing s s' with
  | nil => exact .of_ok h
  | cons item items ih =>
    have hstep := each s s' item h
    simp only [steps]
    cases hs : c.step s item with
    | error e =>
      by_cases hc : counts e
      · rw [hstep.error e hc hs]
        exact .of_error e
      · exact .of_not_counts hc _
    | ok t =>
      obtain ⟨t', ht', ht⟩ := hstep.ok t hs
      rw [ht']
      exact ih ht

lemma run_follows (arguments : c'.arguments = c.arguments) (record : R c.initialRecord c'.initialRecord)
    (each : ∀ s s' item, c.Matched R s s' → Follows (c.Matched R) counts (c.step s item) (c'.step s' item))
    (items : List String) : Follows R counts (c.run items) (c'.run items) := by
  have hstart : c.Matched R c.start c'.start := ⟨record, arguments, List.suffix_rfl⟩
  exact (steps_follows each hstart items).map fun _ _ h => h.record

end Command

end CommandLine
