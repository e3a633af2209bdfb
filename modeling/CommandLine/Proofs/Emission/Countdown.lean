import CommandLine.Proofs.FieldOrder
import CommandLine.Proofs.Provenance

namespace CommandLine

open Source

namespace Record

variable {r : Record} {i j : Ident} {v : Value}

lemma lookup_assign_self (h : i ∈ r.map Prod.fst) : (r.assign i v).lookup i = some v := by
  induction r with
  | nil => cases h
  | cons e r ih =>
    rw [assign, List.map_cons]
    by_cases he : e.1 = i
    · simp [he]
    · have hi : i ∈ r.map Prod.fst := by simpa [Ne.symm he] using h
      rw [if_neg he, List.lookup_cons, beq_false_of_ne (Ne.symm he)]
      exact ih hi

lemma lookup_assign_of_ne (h : j ≠ i) : (r.assign i v).lookup j = r.lookup j := by
  induction r with
  | nil => rfl
  | cons e r ih =>
    rw [assign, List.map_cons, List.lookup_cons, List.lookup_cons, ← assign, ih]
    by_cases he : e.1 = i
    · simp [he, beq_false_of_ne h]
    · rw [if_neg he]

end Record

namespace Program

variable {p : Program} {c : Command} {items : List String} {m : Machine}

def Reaches (p : Program) (items : List String) (m : Machine) : Prop :=
  ∃ r, p.initialRecord? = some r ∧ p.steps ⟨r, p.counter.getD 0⟩ items = pure m

def arm? (p : Program) (n : ℕ) : Option (Arm ℕ) :=
  match p.dispatch.fallback with
  | some ⟨_, .count arms _⟩ => arms.find? fun a => a.pattern = n
  | _ => none

structure Countdown (p : Program) (c : Command) (items : List String) (m : Machine) : Prop where
  count : m.remaining + items.countP (fun item => c.IsPositional item) = c.arguments.length
  exhausted : p.arm? m.remaining = none ↔ m.remaining = 0
  -- the count is never taken below zero
  defined : ∀ item, (p.step m item).run ≠ none
  refuses : ∀ item payload, p.step m item = throw (.unexpectedArgument payload) ↔
    c.IsPositional item ∧ m.remaining = 0 ∧ payload = Item.stripEscape item
  unfilled : (c.fields.map Field.ident).Nodup → ∀ (i : ℕ) (f : Field), c.arguments[i]? = some f →
    c.arguments.length - m.remaining ≤ i → m.record.lookup f.ident = some f.initialValue

end Program

namespace Command

variable {c : Command} {p : Program} {items : List String} {item : String} {s s' : State} {n : ℕ}

structure Moves (c : Command) (items : List String) (item : String) (m m' : Machine) (f : Field) (v : Value) :
    Prop where
  routed : ∃ text, c.Fills items item f text ∧ f.kind.convert text = .ok v
  set : m'.record.lookup f.ident = some v
  others : ∀ i, i ≠ f.ident → m'.record.lookup i = m.record.lookup i
  keys : m'.record.map Prod.fst = m.record.map Prod.fst
  count : m'.remaining + (if c.IsPositional item then 1 else 0) = m.remaining

lemma length_payloads (c : Command) (items : List String) :
    (c.payloads items).length = items.countP fun item => c.IsPositional item := by
  rw [payloads, List.length_map, List.countP_eq_length_filter]

lemma Reaches.count (h : c.Reaches items s) : s.pending.length + (c.payloads items).length = c.arguments.length := by
  have hle := (exists_reaches_iff.mp ⟨s, h⟩).count
  rw [h.pending, List.length_drop]
  omega

lemma Reaches.pending_suffix (h : c.Reaches items s) : s.pending <:+ c.arguments := by
  rw [h.pending]
  exact List.drop_suffix _ _

lemma Reaches.keys (h : c.Reaches items s) : s.record.map Prod.fst = c.fields.map Field.ident := by
  induction items using List.reverseRecOn generalizing s with
  | nil =>
    obtain rfl : c.start = s := Except.ok.inj h
    exact List.map_map
  | append_singleton items item ih =>
    obtain ⟨t, f, text, v, ht, -, -, rfl⟩ := reaches_concat_iff.mp h
    rw [Record.keys_assign, ih ht]

lemma Reaches.unfilled (h : c.Reaches items s) (distinct : (c.fields.map Field.ident).Nodup) {i : ℕ} {f : Field}
    (hf : c.arguments[i]? = some f) (hi : (c.payloads items).length ≤ i) :
    s.record.lookup f.ident = some f.initialValue := by
  obtain ⟨content, hr, hc⟩ := h.holds distinct
  have hkeys : (s.record.map Prod.fst).Nodup := h.keys ▸ distinct
  rw [lookup_eq_some_iff_mem hkeys, hr, ← hc.unfilled i f hf (List.getElem?_eq_none hi)]
  exact List.mem_map_of_mem (mem_of_argument hf).1

lemma step_eq_error_iff {e : ArgsError} (hp : s.pending = c.arguments.drop (c.payloads items).length) :
    c.step s item = .error e ↔ c.Blames items item e :=
  ⟨blames_of_step hp, fun h => h.step hp⟩

section

variable (h : c.Reaches items s) (hs : c.step s item = .ok s')
include h hs

lemma count_of_step : s'.pending.length + (if c.IsPositional item then 1 else 0) = s.pending.length := by
  have h' : c.Reaches (items ++ [item]) s' := steps_concat_eq_ok_iff.mpr ⟨s, h, hs⟩
  have hcount := h.count
  have hcount' := h'.count
  rw [payloads_append, List.length_append, length_payloads c [item], List.countP_singleton] at hcount'
  simp only [decide_eq_true_eq] at hcount'
  omega

lemma moves_of_step : ∃ f v, c.Moves items item s.machine s'.machine f v := by
  have hcount := count_of_step h hs
  obtain ⟨f, text, v, hf, hv, rfl⟩ := (step_eq_ok_iff h.pending).mp hs
  have hkey : f.ident ∈ s.record.map Prod.fst := by
    rw [h.keys]
    exact List.mem_map_of_mem hf.mem
  refine ⟨f, v, ⟨text, hf, hv⟩, Record.lookup_assign_self hkey, ?_, Record.keys_assign _ _ _, hcount⟩
  intro i hi
  exact Record.lookup_assign_of_ne hi

end

lemma arm?_eq (hd : p.dispatch = c.chain) {pending : List Field} (hs : pending <:+ c.arguments) :
    p.arm? pending.length = pending.head?.map (Field.turnArm pending.length) := by
  rw [Program.arm?, hd]
  by_cases ha : c.arguments = []
  · rw [ha, List.suffix_nil] at hs
    simp [chain, turnBlock, ha, hs]
  · simp only [chain, turnBlock, List.isEmpty_iff, ha, ↓reduceIte]
    exact find?_turnArms hs

lemma arm?_of_le (hd : p.dispatch = c.chain) (hn : n ≤ c.arguments.length) :
    p.arm? n = c.arguments[c.arguments.length - n]?.map (Field.turnArm n) := by
  have hs := List.drop_suffix (c.arguments.length - n) c.arguments
  have hlen : (c.arguments.drop (c.arguments.length - n)).length = n := by
    rw [List.length_drop]
    omega
  have ha := arm?_eq hd hs
  rwa [hlen, List.head?_drop] at ha

lemma countdown_of_reaches (hd : p.dispatch = c.chain) (h : c.Reaches items s) : p.Countdown c items s.machine where
  count := by
    rw [← length_payloads]
    exact h.count
  exhausted := by
    rw [State.remaining_machine, arm?_eq hd h.pending_suffix, Option.map_eq_none_iff, List.head?_eq_none_iff,
      List.length_eq_zero_iff]
  defined item := by
    rw [step_machine hd h.pending_suffix]
    cases c.step s item <;> exact Option.some_ne_none _
  refuses item payload := by
    have hcount := h.count
    rw [step_machine hd h.pending_suffix, Outcome.liftExcept_eq_throw_iff, map_eq_error_iff,
      step_eq_error_iff h.pending, Blames, State.remaining_machine]
    refine and_congr_right fun _ => and_congr_left fun _ => ?_
    omega
  unfilled distinct i f hf hi := by
    refine h.unfilled distinct hf ?_
    have hcount := h.count
    rw [State.remaining_machine] at hi
    omega

end Command

namespace Definition

open Command

variable {d : Definition} {c : Command}

lemma reaches_iff {p : Program} {items : List String} {m : Machine} (accepted : d.command = .ok c)
    (hp : c.program = .ok p) : p.Reaches items m ↔ ∃ s, c.Reaches items s ∧ s.machine = m := by
  rw [Program.Reaches, initialRecord?_eq accepted hp]
  simp only [Option.some.injEq, exists_eq_left', steps_eq hp, Outcome.liftExcept_eq_pure_iff, map_eq_ok_iff,
    Command.Reaches]

/-- The count is what the positional items have left of the arguments, and it selects the next of them. -/
theorem constructor_counts_down (accepted : d.command = .ok c) : ∃ p, c.program = .ok p ∧
    (∀ n ≤ c.arguments.length,
      p.arm? n = c.arguments[c.arguments.length - n]?.map fun f =>
        ⟨n, [.assign f.assignment .item, .countDown]⟩) ∧
    (∃ m, p.Reaches [] m) ∧
    ∀ items m, p.Reaches items m → p.Countdown c items m ∧
      ∀ item m', p.step m item = pure m' → ∃ f v, c.Moves items item m m' f v := by
  have hp := c.program_eq
  refine ⟨_, hp, fun n => arm?_of_le rfl, ⟨_, (reaches_iff accepted hp).mpr ⟨c.start, rfl, rfl⟩⟩, ?_⟩
  intro items m hm
  obtain ⟨s, hs, rfl⟩ := (reaches_iff accepted hp).mp hm
  refine ⟨countdown_of_reaches rfl hs, fun item m' h => ?_⟩
  rw [step_machine rfl hs.pending_suffix, Outcome.liftExcept_eq_pure_iff] at h
  obtain ⟨s', hs', rfl⟩ := map_eq_ok_iff.mp h
  exact moves_of_step hs hs'

def leveled : Definition where
  ident := ⟨"Leveled", false⟩
  fields := [
    .annotated "source" "String" "", .annotated "level" "u8" "type:option short:l",
    .annotated "target" "String" "default:out"]

def leveledCommand : Command where
  ident := ⟨"Leveled", false⟩
  fields := [
    { ident := ⟨"source", false⟩, name := "source", kind := .text },
    { ident := ⟨"level", false⟩, name := "level", short := "l", kind := .integer .u8, role := .option },
    { ident := ⟨"target", false⟩, name := "target", kind := .text, default := some (.text "out") }]

theorem leveled_counts_down : leveled.command = .ok leveledCommand ∧
    ∃ p m m', leveledCommand.program = .ok p ∧ p.Reaches ["-l=3", "in"] m ∧ m.remaining = 1 ∧
      p.arm? 1 = some ⟨1, [.assign ⟨⟨"target", false⟩, .copy⟩ .item, .countDown]⟩ ∧
      m.record.lookup ⟨"target", false⟩ = some (.text "out") ∧
      p.Reaches ["in", "\\-o"] m' ∧ p.step m' "more" = throw (.unexpectedArgument "more") := by
  have accepted : leveled.command = .ok leveledCommand := by
    rw [command_eq_ok_iff]
    exact ⟨by decide +kernel, rfl, by decide +kernel, rfl⟩
  obtain ⟨p, hp, arms, -, invariant⟩ := constructor_counts_down accepted
  have reached : ∀ items, leveledCommand.Accepts items → ∃ m, p.Reaches items m := by
    intro items hi
    obtain ⟨s, hs⟩ := exists_reaches_iff.mpr hi
    exact ⟨s.machine, (reaches_iff accepted hp).mpr ⟨s, hs, rfl⟩⟩
  have one : leveledCommand.run ["-l=3", "in"] = .ok [(⟨"source", false⟩, .text "in"), (⟨"level", false⟩, .integer 3),
      (⟨"target", false⟩, .text "out")] := by decide +kernel
  have two : leveledCommand.run ["in", "\\-o"] = .ok [(⟨"source", false⟩, .text "in"), (⟨"level", false⟩, .integer 0),
      (⟨"target", false⟩, .text "-o")] := by decide +kernel
  obtain ⟨m, hm⟩ := reached _ (exists_run_iff.mp ⟨_, one⟩)
  obtain ⟨m', hm'⟩ := reached _ (exists_run_iff.mp ⟨_, two⟩)
  obtain ⟨⟨count, -, -, -, unfilled⟩, -⟩ := invariant _ _ hm
  obtain ⟨⟨count', -, -, refuses, -⟩, -⟩ := invariant _ _ hm'
  have hcount : m.remaining + 1 = 2 := count
  have hcount' : m'.remaining + 2 = 2 := count'
  refine ⟨accepted, p, m, m', hp, hm, by omega, arms 1 (by decide), ?_, hm', ?_⟩
  · exact unfilled (by decide) 1 _ rfl (Nat.sub_le_iff_le_add.mpr (by rw [Nat.add_comm, hcount]; decide))
  · exact (refuses _ _).mpr ⟨by decide +kernel, by omega, by decide +kernel⟩

end Definition

end CommandLine
