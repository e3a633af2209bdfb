import CommandLine.Proofs.Emission.Context
import CommandLine.Proofs.Run
import CommandLine.Proofs.Source.Escape

/-! The emitted dispatch runs in step with the command: the machine counts the arguments that the state still has
pending. -/

namespace CommandLine

open Source

namespace Conversion

lemma apply_ofKind (k : Kind) (s : String) : (ofKind k).apply s = k.convert s := by
  cases k with
  | text => rfl
  | integer t => simp only [ofKind_integer, apply, Kind.convert]; cases t.read s <;> rfl
  | float w => simp only [ofKind_float, apply, Kind.convert]; cases w.read s <;> rfl
  | boolean => simp only [ofKind_boolean, apply, Kind.convert]; cases readBoolean s <;> rfl

end Conversion

namespace Outcome

variable {α β : Type} {r : Except ArgsError α} {a : α} {e : ArgsError}

lemma map_liftExcept (g : α → β) (r : Except ArgsError α) :
    (g <$> liftExcept r : Outcome β) = liftExcept (r.map g) := by
  cases r <;> rfl

lemma liftExcept_eq_pure_iff : (liftExcept r : Outcome α) = pure a ↔ r = .ok a := by
  refine ⟨fun h => ?_, fun h => by rw [h]; rfl⟩
  cases r with
  | error e => cases h
  | ok b => exact congrArg _ (Except.ok.inj (Option.some.inj h))

lemma liftExcept_eq_throw_iff : (liftExcept r : Outcome α) = throw e ↔ r = .error e := by
  refine ⟨fun h => ?_, fun h => by rw [h]; rfl⟩
  cases r with
  | error e => exact congrArg _ (Except.error.inj (Option.some.inj h))
  | ok b => cases h

end Outcome

lemma Selection.exec_key {scope : Scope} {name : String} {value : Option String} {arms : List (Arm Literal)}
    {otherwise : Refusal} (h : scope.option = some (name, value)) : exec scope (.key arms otherwise) =
      match arms.find? fun a => a.pattern.stringValue? = some name with
      | some a => a.body.foldlM Statement.exec scope
      | none => otherwise.eval scope := by
  rw [exec, h]
  rfl

namespace State

def machine (s : State) : Machine :=
  ⟨s.record, s.pending.length⟩

@[simp] lemma remaining_machine (s : State) : s.machine.remaining = s.pending.length := rfl

end State

namespace Command

variable {c : Command} {m : Mark} {item rest text : String} {f : Field} {s s' : State}
  {args table : List Field} {p : Program}

lemma find?_keyArms (m : Mark) (table : List Field) (key : String) :
    (table.map (Field.keyArm m)).find? (fun a => a.pattern.stringValue? = some key) =
      (table.find? fun f => f.label m = key).map (Field.keyArm m) := by
  simp only [List.find?_map, Function.comp_def, Field.keyArm, Literal.stringValue?_ofString, Option.some.injEq]

lemma exec_assign (f : Field) {scope : Scope} {operand : Operand} (r : Record) (ht : operand.eval scope = pure text)
    (hr : scope.machine.record = r) : Statement.exec scope (.assign f.assignment operand) =
      liftExcept ((f.kind.convert text).map fun v =>
        { scope with machine.record := r.assign f.ident v }) := by
  have hv : f.assignment.conversion.apply text = f.kind.convert text := Conversion.apply_ofKind f.kind text
  rw [Statement.exec, ht, pure_bind, hv, hr]
  cases f.kind.convert text <;> rfl

lemma exec_keyArm (m : Mark) (f : Field) (s : State) (item rest key : String) (value : Option String) :
    Scope.machine <$> (f.keyArm m).body.foldlM Statement.exec
        { machine := s.machine, item, rest := some rest, option := some (key, value) } =
      liftExcept (match value with
        | none => .error (.missingValue key item)
        | some v => (store s f v).map State.machine) := by
  cases value with
  | none => rfl
  | some v =>
    let scope : Scope :=
      { machine := s.machine, item, rest := some rest, option := some (key, some v), value := some v }
    have ht : Operand.value.eval scope = pure v := rfl
    have ha := exec_assign f s.record ht rfl
    change Scope.machine <$> (Statement.exec scope (.assign f.assignment .value) >>= pure) = _
    rw [bind_pure, ha, Outcome.map_liftExcept]
    simp only [store]
    cases f.kind.convert v <;> rfl

lemma exec_keyBlock (m : Mark) (table : List Field) (s : State) (text item : String) :
    Scope.machine <$> (keyBlock m table).exec { machine := s.machine, item, rest := some text } =
      liftExcept ((readOption table (fun f => f.label m) m.unknownKey s text item).map State.machine) := by
  obtain ⟨key, value, hk⟩ : ∃ key value, Item.splitOption text = (key, value) := ⟨_, _, rfl⟩
  have hsplit : (keyBlock m table).statements.foldlM Statement.exec { machine := s.machine, item, rest := some text } =
      pure { machine := s.machine, item, rest := some text, option := some (key, value) } := by
    rw [← hk]
    rfl
  rw [Block.exec, hsplit, pure_bind, keyBlock, Selection.exec_key rfl, find?_keyArms]
  simp only [readOption, hk]
  cases table.find? fun f => f.label m = key with
  | none => rfl
  | some f =>
    refine (exec_keyArm m f s item text key value).trans ?_
    cases value <;> rfl

lemma find?_turnArms {pending : List Field} (h : pending <:+ args) :
    (turnArms args).find? (fun a => a.pattern = pending.length) =
      pending.head?.map (Field.turnArm pending.length) := by
  induction args with
  | nil =>
    obtain rfl := List.suffix_nil.mp h
    rfl
  | cons f args ih =>
    rcases List.suffix_cons_iff.mp h with rfl | hs
    · simp [turnArms, Field.turnArm]
    · -- the arm of an argument already filled counts more than is pending
      have hlt : args.length + 1 ≠ pending.length := by
        have := hs.length_le
        omega
      rw [turnArms, List.find?_cons_of_neg (by simp [Field.turnArm, hlt]), ih hs]

lemma exec_turnArm (f : Field) (pending : List Field) (r : Record) (payload : String) :
    Scope.machine <$> (f.turnArm (pending.length + 1)).body.foldlM Statement.exec
        { machine := State.machine ⟨r, f :: pending⟩, item := payload, rest := none } =
      liftExcept ((store ⟨r, pending⟩ f payload).map State.machine) := by
  let scope : Scope := { machine := State.machine ⟨r, f :: pending⟩, item := payload, rest := none }
  have ht : Operand.item.eval scope = pure payload := rfl
  have ha := exec_assign f r ht rfl
  change Scope.machine <$> (Statement.exec scope (.assign f.assignment .item) >>= _) = _
  rw [ha, store]
  cases f.kind.convert payload <;> rfl

lemma exec_turnBlock (h : s.pending <:+ args) (item : String) :
    Scope.machine <$> (turnBlock args).exec { machine := s.machine, item, rest := none } =
      liftExcept ((readArgument s (Item.stripEscape item)).map State.machine) := by
  rw [turnBlock]
  split
  · rename_i ha
    rw [List.isEmpty_iff.mp ha, List.suffix_nil] at h
    rw [readArgument, h]
    rfl
  · change Scope.machine <$> Selection.exec { machine := s.machine, item := Item.stripEscape item, rest := none }
      (.count (turnArms args) (.unexpected .item)) = _
    rw [Selection.exec, State.remaining_machine, find?_turnArms h, readArgument]
    obtain ⟨r, pending⟩ := s
    cases pending with
    | nil => rfl
    | cons f rest => exact exec_turnArm f rest r (Item.stripEscape item)

lemma select_of_reads (h : c.Reads m item) (hr : m.strip? item = some rest) :
    c.chain.select (fun mark => (mark.strip? item).map some) none = some (keyBlock m (c.table m), some rest) := by
  cases m with
  | long =>
    have ht : c.table .long ≠ [] := h.1
    simp [Chain.select, chain, tableBranch, ht, hr]
  | short =>
    have ht : c.table .short ≠ [] := h.1.1
    by_cases hl : c.table .long = []
    · simp [Chain.select, chain, tableBranch, hl, ht, hr]
    · have hn : Mark.long.strip? item = none := Mark.strip?_eq_none_iff.mpr fun hp => h.2 ⟨hl, hp⟩
      simp [Chain.select, chain, tableBranch, hl, ht, hn, hr]

lemma select_of_isPositional (h : c.IsPositional item) :
    c.chain.select (fun mark => (mark.strip? item).map some) none = some (turnBlock c.arguments, none) := by
  have hn : ∀ m, c.Marked m item → False := fun m hm => by
    cases m
    · exact h.1 hm
    · exact h.2 hm
  have hb : ∀ m, (c.tableBranch m).findSome? (fun b => ((b.1.strip? item).map some).map fun r => (b.2, r)) = none := by
    intro m
    rw [tableBranch]
    split
    · rfl
    · rename_i ht
      simp [Mark.strip?_eq_none_iff.mpr fun hp => hn m ⟨ht, hp⟩]
  simp only [Chain.select, chain, List.findSome?_append, hb, Option.or_none]
  rfl

lemma step_machine (hd : p.dispatch = c.chain) (hp : s.pending <:+ c.arguments) (item : String) :
    p.step s.machine item = liftExcept ((c.step s item).map State.machine) := by
  -- an item that a table reads takes the branch of that table, any other one the fallback
  rcases c.reads_or_isPositional item with ⟨m, hr⟩ | hi
  · obtain ⟨rest, hm, hi⟩ := hr.marked.strip?
    obtain ⟨rest', hi', hs⟩ := step_of_reads hr
    obtain rfl : rest = rest' := Mark.text_append_inj.mp (hi.symm.trans hi')
    simp only [Program.step, hd, select_of_reads hr hm, exec_keyBlock, hs]
  · simp only [Program.step, hd, select_of_isPositional hi, exec_turnBlock hp, step_of_isPositional hi]

lemma pending_suffix (h : c.step s item = .ok s') : s'.pending <:+ s.pending := by
  rcases step_ok_iff.mp h with ⟨f, value, v, -, -, rfl⟩ | ⟨-, f, rest, v, hp, -, rfl⟩
  · exact List.suffix_rfl
  · rw [hp]
    exact List.suffix_cons f rest

lemma steps_machine (hd : p.dispatch = c.chain) (hp : s.pending <:+ c.arguments) (items : List String) :
    p.steps s.machine items = liftExcept ((c.steps s items).map State.machine) := by
  -- by induction on the items: what is pending stays an end of the arguments
  induction items generalizing s with
  | nil => rfl
  | cons item items ih =>
    change (p.step s.machine item >>= fun m => p.steps m items) = _
    rw [step_machine hd hp, steps]
    cases hs : c.step s item with
    | error e => rfl
    | ok s' => exact ih ((pending_suffix hs).trans hp)

end Command

end CommandLine
