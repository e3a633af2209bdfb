import CommandLine.Proofs.Emission.Refinement

/-! Calls on a chain, and what the chain writes in the end. -/

namespace CommandLine

open Source Source.Tree

namespace Source.Row

variable {ts us : Row} {rows : List Row}

def Closed (ts : Row) : Prop :=
  ∃ t, ts.getLast? = some t ∧ t.isGlued = false

lemma closed_ofGroup (d : Delimiter) (body : Row) : (ofGroup d body).Closed :=
  ⟨.group d body, rfl, rfl⟩

lemma Closed.append (ts : Row) (h : us.Closed) : (ts ++ us : Row).Closed := by
  obtain ⟨t, ht, hg⟩ := h
  exact ⟨t, by rw [List.getLast?_append, ht]; rfl, hg⟩

lemma Closed.ne_nil (h : ts.Closed) : ts ≠ [] := by
  rintro rfl
  obtain ⟨t, ht, -⟩ := h
  cases ht

lemma renderAll_append (h : ts.Closed) (hu : us ≠ []) : renderAll (ts ++ us) = renderAll ts ++ " " ++ renderAll us := by
  -- by induction on the first row, of which only the last tree must stand apart
  induction ts with
  | nil => exact absurd rfl h.ne_nil
  | cons t ts ih =>
    rw [List.cons_append, renderAll, renderAll]
    by_cases hn : ts = []
    · obtain ⟨u, hl, hg⟩ := h
      obtain rfl : t = u := by simpa [hn] using hl
      simp [hn, hg, hu, renderAll]
    · have hc : Closed ts := by
        obtain ⟨u, hl, hg⟩ := h
        exact ⟨u, by rwa [List.getLast?_cons_of_ne_nil hn] at hl, hg⟩
      simp [ih hc, hn, String.append_assoc]

lemma renderAll_separated {i : Ident} (h : ∀ row ∈ rows, row.Closed) :
    renderAll (separated (.ident i) rows) = (" " ++ i.text ++ " ").intercalate (rows.map renderAll) := by
  induction rows with
  | nil => rfl
  | cons row rows ih =>
    obtain ⟨hrow, hrows⟩ := List.forall_mem_cons.mp h
    cases rows with
    | nil => simp [separated]
    | cons row' rows =>
      have hclosed : Closed (row ++ [.ident i]) := Closed.append row ⟨_, rfl, rfl⟩
      have hrest : separated (.ident i) (row' :: rows) ≠ [] := by
        cases rows <;> simp [separated, List.intercalate_cons_cons, (hrows row' (by simp)).ne_nil]
      have hcons : separated (.ident i) (row :: row' :: rows) =
          row ++ [.ident i] ++ separated (.ident i) (row' :: rows) := List.intercalate_cons_cons
      rw [hcons, renderAll_append hclosed hrest, renderAll_append hrow (by simp), ih hrows]
      simp [renderAll, render, String.intercalate_cons_cons, String.append_assoc]

end Source.Row

inductive Conditional (γ β : Type)
  -- a block that is always run
  | block (body : β)
  -- a guarded block with nothing for the other case
  | last (guard : γ) (body : β)
  -- a guarded block with a conditional for the other case
  | orElse (guard : γ) (body : β) (rest : Conditional γ β)

namespace Conditional

variable {γ β : Type}

def clauseText (guardText : γ → String) (bodyText : β → String) (guard : γ) (body : β) : String :=
  spaced ["if", guardText guard, braces (bodyText body)]

def text (guardText : γ → String) (bodyText : β → String) : Conditional γ β → String
  | block body => braces (bodyText body)
  | last guard body => clauseText guardText bodyText guard body
  | orElse guard body rest => clauseText guardText bodyText guard body ++ " else " ++ rest.text guardText bodyText

def eval (holds : γ → Bool) : Conditional γ β → Option β
  | block body => some body
  | last guard body => if holds guard then some body else none
  | orElse guard body rest => if holds guard then some body else rest.eval holds

end Conditional

namespace ChainCall

variable {γ β : Type} {ks : List (ChainCall γ β)}

def branch? : ChainCall γ β → Option (γ × β)
  | branch guard body => some (guard, body)
  | fallback _ => none

def fallback? : ChainCall γ β → Option β
  | branch .. => none
  | fallback body => some body

def pushed (ks : List (ChainCall γ β)) : List (γ × β) :=
  (ks.takeWhile fun k => k.fallback?.isNone).filterMap branch?

def firstFallback (ks : List (ChainCall γ β)) : Option β :=
  ks.findSome? fallback?

lemma isSome_firstFallback_iff : (firstFallback ks).isSome ↔ ∃ b, fallback b ∈ ks := by
  rw [firstFallback, List.findSome?_isSome_iff]
  refine ⟨?_, fun ⟨b, hb⟩ => ⟨_, hb, rfl⟩⟩
  rintro ⟨k, hk, hb⟩
  cases k with
  | branch guard body => cases hb
  | fallback body => exact ⟨body, hk⟩

end ChainCall

namespace Chain

open ChainCall

variable {γ β : Type} {c : Chain γ β} {k : ChainCall γ β} {ks : List (ChainCall γ β)} {n : ℕ}

def outcome (c : Chain γ β) (k : ChainCall γ β) : Option ChainError :=
  (c.call k).1

def next (c : Chain γ β) (k : ChainCall γ β) : Chain γ β :=
  (c.call k).2

def after (c : Chain γ β) (ks : List (ChainCall γ β)) : Chain γ β :=
  ks.foldl next c

lemma isSome_outcome (c : Chain γ β) (k : ChainCall γ β) : (c.outcome k).isSome = c.fallback.isSome := by
  cases k <;> cases h : c.fallback <;> simp [outcome, call, branch, setFallback, h]

lemma next_of_isSome_outcome (h : (c.outcome k).isSome) : c.next k = c := by
  rw [isSome_outcome] at h
  cases k <;> simp [next, call, branch, setFallback, h]

lemma calls_cons (c : Chain γ β) (k : ChainCall γ β) (ks : List (ChainCall γ β)) :
    c.calls (k :: ks) = (c.outcome k, c.next k) :: (c.next k).calls ks := rfl

lemma after_take_succ (h : ks[n]? = some k) : c.after (ks.take (n + 1)) = (c.after (ks.take n)).next k := by
  rw [after, List.take_add_one, h, Option.toList_some, List.foldl_append]
  rfl

lemma getElem?_calls (h : ks[n]? = some k) :
    (c.calls ks)[n]? = some ((c.after (ks.take n)).outcome k, c.after (ks.take (n + 1))) := by
  -- By induction on the calls, from any chain on.
  induction ks generalizing c n with
  | nil => cases h
  | cons k' ks ih =>
    rw [calls_cons]
    cases n with
    | zero =>
      obtain rfl : k' = k := Option.some.inj h
      rfl
    | succ n => exact ih h

lemma after_eq (c : Chain γ β) (ks : List (ChainCall γ β)) : c.after ks =
    { branches := c.branches ++ if c.fallback.isSome then [] else pushed ks
      fallback := c.fallback.or (firstFallback ks) } := by
  -- By induction on the calls: a chain without a fallback takes a branch to its end, and one with a fallback stays
  -- as it is.
  induction ks generalizing c with
  | nil => obtain ⟨branches, _ | fallback⟩ := c <;> simp [after, pushed, firstFallback]
  | cons k ks ih =>
    rw [after, List.foldl_cons, ← after, ih]
    obtain ⟨branches, _ | fallback⟩ := c <;> cases k <;>
      simp [next, call, branch, setFallback, pushed, firstFallback, branch?, fallback?, List.findSome?_cons]

lemma after_empty (ks : List (ChainCall γ β)) :
    ({} : Chain γ β).after ks = { branches := pushed ks, fallback := firstFallback ks } := by
  rw [after_eq]
  rfl

lemma foldlM_attempt_eq_ok_iff {c' : Chain γ β} :
    ks.foldlM attempt c = .ok c' ↔ (∀ r ∈ c.calls ks, r.1 = none) ∧ c' = c.after ks := by
  induction ks generalizing c with
  | nil => simp [calls, after, pure, Except.pure, eq_comm]
  | cons k ks ih =>
    rw [List.foldlM_cons, calls_cons, List.forall_mem_cons, after, List.foldl_cons, ← after, outcome, next, attempt]
    rcases c.call k with ⟨_ | e, c₁⟩
    · simp [taken, bind, Except.bind, ih]
    · simp [taken, bind, Except.bind]

def conditional? : List (γ × β) → Option β → Option (Conditional γ β)
  | [], fallback => fallback.map .block
  | (guard, body) :: branches, fallback =>
    match conditional? branches fallback with
    | none => some (.last guard body)
    | some rest => some (.orElse guard body rest)

variable {branches : List (γ × β)} {fallback : Option β}

lemma conditional?_eq_none_iff : conditional? branches fallback = none ↔ branches = [] ∧ fallback = none := by
  cases branches with
  | nil => simp [conditional?]
  | cons b branches =>
    simp only [conditional?]
    split <;> simp

lemma render_eq (guardText : γ → String) (bodyText : β → String) (branches : List (γ × β)) (fallback : Option β) :
    ({ branches, fallback } : Chain γ β).render guardText bodyText =
      ((conditional? branches fallback).map (Conditional.text guardText bodyText)).getD "" := by
  -- By induction on the branches: what stands behind one is set off by an `else` if there is anything.
  induction branches with
  | nil => cases fallback <;> simp [render, conditional?, Conditional.text]
  | cons b branches ih =>
    rw [render] at ih ⊢
    rw [List.map_cons, List.cons_append, conditional?]
    cases h : conditional? branches fallback with
    | none =>
      obtain ⟨rfl, rfl⟩ := conditional?_eq_none_iff.mp h
      exact String.intercalate_singleton
    | some rest =>
      have hne : ¬ (branches = [] ∧ fallback = none) := fun hn => by simp [conditional?_eq_none_iff.mpr hn] at h
      rw [String.intercalate_cons_of_ne_nil (by simpa using hne), ih, h]
      rfl

lemma eval_conditional? (holds : γ → Bool) (branches : List (γ × β)) (fallback : Option β) :
    (conditional? branches fallback).bind (Conditional.eval holds) =
      ((branches.find? fun b => holds b.1).map Prod.snd).or fallback := by
  induction branches with
  | nil => cases fallback <;> rfl
  | cons b branches ih =>
    rw [conditional?]
    cases h : conditional? branches fallback with
    | none =>
      obtain ⟨rfl, rfl⟩ := conditional?_eq_none_iff.mp h
      cases hb : holds b.1 <;> simp [Conditional.eval, hb]
    | some rest =>
      rw [h, Option.bind_some] at ih
      cases hb : holds b.1 <;> simp [Conditional.eval, hb, ih]

lemma select_eq {ρ : Type} (test : γ → Option ρ) (otherwise : ρ) (c : Chain γ β) :
    (c.select test otherwise).map Prod.fst =
      ((c.branches.find? fun b => (test b.1).isSome).map Prod.snd).or c.fallback := by
  obtain ⟨branches, fallback⟩ := c
  rw [select]
  induction branches with
  | nil => cases fallback <;> rfl
  | cons b branches ih => cases hb : test b.1 <;> simp_all

end Chain

namespace Chain

variable {γ β : Type} {guardTrees : γ → Row} {bodyTrees : β → Row}

lemma renderAll_clause {guard : Row} (hc : guard.Closed) (hn : renderAll guard ≠ "") (body : Row) :
    renderAll (Row.ofWord "if" ++ guard ++ Row.ofGroup .brace body) =
      spaced ["if", renderAll guard, braces (renderAll body)] := by
  have hif : Row.Closed (Row.ofWord "if") := ⟨_, rfl, rfl⟩
  have hbraces : braces (renderAll body) ≠ "" := by
    rw [braces, enclose]
    split <;> simp
  have hspaced : spaced ["if", renderAll guard, braces (renderAll body)] =
      "if" ++ " " ++ renderAll guard ++ " " ++ braces (renderAll body) := by
    simp [spaced, hn, hbraces, String.intercalate_cons_cons, String.append_assoc]
  rw [hspaced, Row.renderAll_append (hc.append _) (by simp [Row.ofGroup]), Row.renderAll_append hif hc.ne_nil]
  simp [renderAll, Tree.render, Row.ofWord, Row.ofGroup, braces, Ident.text]

lemma renderAll_trees (hg : ∀ g, (guardTrees g).Closed ∧ renderAll (guardTrees g) ≠ "") (c : Chain γ β) :
    renderAll (c.trees guardTrees bodyTrees) =
      c.render (fun g => renderAll (guardTrees g)) fun b => renderAll (bodyTrees b) := by
  have hclosed : ∀ row ∈ c.branches.map (fun b => Row.ofWord "if" ++ guardTrees b.1 ++
      Row.ofGroup .brace (bodyTrees b.2)) ++ c.fallback.toList.map fun b => Row.ofGroup .brace (bodyTrees b),
      row.Closed := by
    intro row hr
    rcases List.mem_append.mp hr with hr | hr
    · obtain ⟨b, -, rfl⟩ := List.mem_map.mp hr
      exact (Row.closed_ofGroup _ _).append _
    · obtain ⟨b, -, rfl⟩ := List.mem_map.mp hr
      exact Row.closed_ofGroup _ _
  rw [trees, Row.renderAll_separated hclosed, render, List.map_append, List.map_map, List.map_map]
  refine congrArg₂ _ rfl (congrArg₂ _ (List.map_congr_left fun b _ => ?_) (List.map_congr_left fun b _ => ?_))
  · exact renderAll_clause (hg b.1).1 (hg b.1).2 _
  · simp [renderAll, Tree.render, Row.ofGroup, braces]

end Chain

lemma Mark.closed_guardTrees (m : Mark) : m.guardTrees.Closed ∧ renderAll m.guardTrees ≠ "" := by
  refine ⟨(Row.closed_ofGroup _ _).append _, fun h => ?_⟩
  cases m <;> simp [guardTrees, Row.ofWord, renderAll, render, Ident.text] at h

lemma Command.dispatch_eq_foldlM (c : Command) : c.dispatch = c.dispatchCalls.foldlM Chain.attempt {} :=
  c.dispatch_eq.trans c.foldlM_dispatchCalls.symm

namespace Chain

open ChainCall

/-- A chain decides like its branches from before the first fallback, and that fallback. -/
theorem calls_decide {γ β ρ : Type} (ks : List (ChainCall γ β)) (c : Command) :
    (∀ n k, ks[n]? = some k → ∃ e, (({} : Chain γ β).calls ks)[n]? = some (e, after {} (ks.take (n + 1))) ∧
      (e.isSome ↔ ∃ b, .fallback b ∈ ks.take n) ∧
      (e.isSome → ({} : Chain γ β).after (ks.take (n + 1)) = after {} (ks.take n))) ∧
    ({} : Chain γ β).after ks = { branches := pushed ks, fallback := firstFallback ks } ∧
    (∀ guardText bodyText, (({} : Chain γ β).after ks).render guardText bodyText =
      ((conditional? (pushed ks) (firstFallback ks)).map (Conditional.text guardText bodyText)).getD "") ∧
    (pushed ks = [] → ∀ guardText bodyText, (({} : Chain γ β).after ks).render guardText bodyText =
      ((firstFallback ks).map fun body => braces (bodyText body)).getD "") ∧
    (∀ holds, (conditional? (pushed ks) (firstFallback ks)).bind (Conditional.eval holds) =
      (((pushed ks).find? fun b => holds b.1).map Prod.snd).or (firstFallback ks)) ∧
    (∀ (test : γ → Option ρ) otherwise, ((({} : Chain γ β).after ks).select test otherwise).map Prod.fst =
      (conditional? (pushed ks) (firstFallback ks)).bind (Conditional.eval fun g => (test g).isSome)) ∧
    c.dispatch = c.dispatchCalls.foldlM attempt {} ∧
    (∀ r ∈ ({} : Chain Mark Block).calls c.dispatchCalls, r.1 = none) ∧
    c.dispatch = .ok (after {} c.dispatchCalls) ∧
    renderAll ((after {} c.dispatchCalls).trees Mark.guardTrees Block.trees) =
      (after {} c.dispatchCalls).render (fun m => renderAll m.guardTrees) fun b => renderAll b.trees := by
  have hd := foldlM_attempt_eq_ok_iff.mp (c.dispatch_eq_foldlM.symm.trans c.dispatch_eq)
  refine ⟨fun n k hk => ⟨_, getElem?_calls hk, ?_, fun he => ?_⟩, after_empty ks, fun guardText bodyText => ?_,
    fun hp guardText bodyText => ?_, fun holds => eval_conditional? holds _ _, fun test otherwise => ?_,
    c.dispatch_eq_foldlM, hd.1, hd.2 ▸ c.dispatch_eq, renderAll_trees Mark.closed_guardTrees _⟩
  · rw [isSome_outcome, after_empty, isSome_firstFallback_iff]
  · rw [after_take_succ hk, next_of_isSome_outcome he]
  · rw [after_empty, render_eq]
  · rw [after_empty, render_eq, hp, conditional?, Option.map_map]
    rfl
  · rw [eval_conditional?, select_eq, after_empty]

def closed : List (ChainCall String String) :=
  [.branch "a" "x", .branch "b" "y", .fallback "z", .branch "c" "w", .fallback "v"]

theorem closed_decides : closed[3]? = some (.branch "c" "w") ∧
    (∃ e, (({} : Chain String String).calls closed)[3]? = some (e, after {} (closed.take 4)) ∧ e.isSome ∧
      ({} : Chain String String).after (closed.take 4) = after {} (closed.take 3)) ∧
    (({} : Chain String String).after closed).render id id =
      "if a \x7b x \x7d else if b \x7b y \x7d else \x7b z \x7d" ∧
    pushed (closed.drop 2) = [] ∧
    (({} : Chain String String).after (closed.drop 2)).render id id = "\x7b z \x7d" ∧
    Definition.scaledCommand.dispatch = .ok (after {} Definition.scaledCommand.dispatchCalls) := by
  obtain ⟨hcalls, -, hrender, -, -, -, -, -, hdispatch, -⟩ := @calls_decide _ _ Unit closed Definition.scaledCommand
  obtain ⟨-, -, -, halone, -⟩ := @calls_decide _ _ Unit (closed.drop 2) Definition.scaledCommand
  obtain ⟨e, he, hrefused, hsame⟩ := hcalls 3 _ rfl
  have hsome : e.isSome := hrefused.mpr ⟨"z", by simp [closed]⟩
  exact ⟨rfl, ⟨e, he, hsome, hsame hsome⟩, (hrender id id).trans (by decide), rfl,
    (halone rfl id id).trans (by decide), hdispatch⟩

end Chain

end CommandLine
