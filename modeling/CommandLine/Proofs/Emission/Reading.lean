import CommandLine.Emission.Reader
import Mathlib.Data.List.Basic

/-! What a reader takes off a row, whatever stands behind it. -/

namespace CommandLine

open Source Source.Row

namespace Source.Row

variable {p : Tree → Bool} {t : Tree} {row ts : Row} {rows : List Row}

def Lacks (p : Tree → Bool) (row : Row) : Prop :=
  ∀ t ∈ row, p t = false

@[simp] lemma lacks_nil (p : Tree → Bool) : Lacks p [] :=
  fun _ h => nomatch h

@[simp] lemma lacks_cons : Lacks p (t :: ts) ↔ p t = false ∧ Lacks p ts :=
  List.forall_mem_cons

@[simp] lemma lacks_append : Lacks p (row ++ ts) ↔ Lacks p row ∧ Lacks p ts :=
  List.forall_mem_append

lemma lacks_ofPath {c : Char} (h : c ≠ ':') (names : List String) : (ofPath names).Lacks (Tree.isSign c) := by
  induction names with
  | nil => exact lacks_nil _
  | cons name names ih =>
    have hname : (ofSigns [':', ':'] ++ ofWord name).Lacks (Tree.isSign c) := by
      simp [ofSigns, ofWord, Tree.isSign, h.symm]
    exact lacks_append.mpr ⟨hname, ih⟩

lemma lacks_separated (ht : p t = false) (h : ∀ row ∈ rows, row.Lacks p) : (separated t rows).Lacks p := by
  induction rows with
  | nil => exact lacks_nil p
  | cons row rows ih =>
    obtain ⟨hrow, hrows⟩ := List.forall_mem_cons.mp h
    cases rows with
    | nil => rwa [separated, List.intercalate_singleton]
    | cons row' rows =>
      rw [separated, List.intercalate_cons_cons, lacks_append, lacks_append]
      exact ⟨⟨hrow, lacks_cons.mpr ⟨ht, lacks_nil p⟩⟩, ih hrows⟩

@[simp] lemma lacks_ofGroup (c : Char) (d : Delimiter) (body : Row) : (ofGroup d body).Lacks (Tree.isSign c) := by
  simp [ofGroup, Tree.isSign]

@[simp] lemma lacks_ofWord (c : Char) (text : String) : (ofWord text).Lacks (Tree.isSign c) := by
  simp [ofWord, Tree.isSign]

lemma splitOnP_separated (ht : p t = true) (hn : rows ≠ []) (h : ∀ row ∈ rows, row.Lacks p) :
    (separated t rows).splitOnP p = rows := by
  induction rows with
  | nil => exact absurd rfl hn
  | cons row rows ih =>
    obtain ⟨hrow, hrows⟩ := List.forall_mem_cons.mp h
    cases rows with
    | nil => rw [separated, List.intercalate_singleton, List.splitOnP_eq_singleton hrow]
    | cons row' rows =>
      have hsplit := ih (by simp) hrows
      rw [separated] at hsplit ⊢
      rw [List.intercalate_cons_cons, List.append_assoc, List.singleton_append,
        List.splitOnP_append_cons_of_forall_mem hrow _ ht, hsplit]

lemma statements_ofStatements {last : Row} (h : ∀ row ∈ rows, row.Lacks (Tree.isSign ';'))
    (hl : last.Lacks (Tree.isSign ';')) : (ofStatements rows last).statements = (rows, last) := by
  have hall : ∀ row ∈ rows ++ [last], row.Lacks (Tree.isSign ';') := by
    intro row hr
    rcases List.mem_append.mp hr with hr | hr
    · exact h row hr
    · rwa [List.mem_singleton.mp hr]
  rw [statements, ofStatements, splitOnP_separated rfl (by simp) hall]
  simp

lemma parts_separated (ht : p t = true) (h : ∀ row ∈ rows, row.Lacks p) (hn : ∀ row ∈ rows, row ≠ []) :
    (separated t rows).parts p = rows := by
  cases rows with
  | nil => rfl
  | cons row rows =>
    have hne : separated t (row :: rows) ≠ [] := by
      obtain ⟨u, row, rfl⟩ := List.exists_cons_of_ne_nil (hn row (by simp))
      cases rows <;> simp [separated, List.intercalate]
    rw [parts, List.isEmpty_eq_false_iff.mpr hne, splitOnP_separated ht (by simp) h]
    rfl

end Source.Row

lemma mapM_map_eq {α β : Type} {f : β → Option α} {g : α → β} (h : ∀ a, f (g a) = some a) (as : List α) :
    (as.map g).mapM f = some as := by
  induction as with
  | nil => rfl
  | cons a as ih =>
    rw [List.map_cons, List.mapM_cons, h, ih]
    rfl

namespace Reading

variable {α β : Type} {r s : Reading α} {f : α → Reading β} {row rest : Row} {a : α} {b : β} {i : Ident} {l : Literal}
  {d : Delimiter} {text text' : String} {texts : List String} {cs : List Char} {ways : List (String × Reading α)}

/-- The row is what the reader takes off. -/
def Reads (r : Reading α) (row : Row) (a : α) : Prop :=
  ∀ ts, r.run (row ++ ts) = some (a, ts)

def Refuses (r : Reading α) (row : Row) : Prop :=
  ∀ ts, r.run (row ++ ts) = none

lemma Reads.whole (h : Reads r row a) : whole r row = some a := by
  have hr := h []
  rw [List.append_nil] at hr
  rw [Reading.whole, hr]

lemma Reads.pure (a : α) : Reads (pure a) [] a :=
  fun _ => rfl

lemma Reads.bind (h : Reads r row a) (hf : Reads (f a) rest b) : Reads (r >>= f) (row ++ rest) b := by
  intro ts
  rw [StateT.run_bind, List.append_assoc, h]
  exact hf ts

lemma Reads.skip (h : Reads r [] a) (hf : Reads (f a) rest b) : Reads (r >>= f) rest b :=
  h.bind hf

lemma Reads.finish (h : Reads r row a) (hf : f a = Pure.pure b) : Reads (r >>= f) row b := by
  rw [← List.append_nil row]
  exact h.bind (hf ▸ .pure b)

lemma Reads.lift {o : Option α} (h : o = some a) : Reads (liftM o) [] a := by
  rw [h]
  exact fun _ => rfl

lemma Reads.left (h : Reads r row a) : Reads (r <|> s) row a := by
  intro ts
  change (r.run (row ++ ts) <|> s.run (row ++ ts)) = _
  rw [h]
  rfl

lemma Refuses.bind (h : Refuses r row) : Refuses (r >>= f) row := by
  intro ts
  rw [StateT.run_bind, h]
  rfl

lemma Refuses.run_orElse (h : Refuses r row) (ts : Row) : (r <|> s).run (row ++ ts) = s.run (row ++ ts) := by
  change (r.run (row ++ ts) <|> s.run (row ++ ts)) = _
  rw [h]
  rfl

lemma Reads.right (h : Refuses r row) (hs : Reads s row a) : Reads (r <|> s) row a := by
  intro ts
  rw [h.run_orElse, hs]

lemma reads_guard {p : Prop} [Decidable p] (h : p) : Reads (guard p) [] () := by
  rw [guard, if_pos h]
  exact .pure _

lemma reads_ident (i : Ident) : Reads ident [.ident i] i :=
  fun _ => rfl

lemma reads_literal (l : Literal) : Reads literal [.literal l] l :=
  fun _ => rfl

lemma reads_same (i : Ident) : Reads (same i) [.ident i] () :=
  (reads_ident i).bind (reads_guard rfl)

lemma reads_word (text : String) : Reads (word text) (ofWord text) () :=
  reads_same _

lemma refuses_word (h : text ≠ text') : Refuses (word text') (ofWord text) := by
  intro ts
  have hi : (⟨text, false⟩ : Ident) ≠ ⟨text', false⟩ := by simpa using h
  change (guard (_ = _) : Reading Unit).run ts = none
  rw [guard, if_neg hi]
  rfl

lemma reads_words (texts : List String) : Reads (words texts) (ofWords texts) () := by
  induction texts with
  | nil => exact .pure _
  | cons text texts ih => exact (reads_word text).bind ih

lemma reads_sign (c : Char) (glued : Bool) : Reads (sign c glued) [.punct c glued] () := by
  intro ts
  exact reads_guard (p := c = c ∧ glued = glued) ⟨rfl, rfl⟩ ts

lemma reads_operator (cs : List Char) : Reads (operator cs) (ofSigns cs) () := by
  induction cs with
  | nil => exact .pure _
  | cons c cs ih =>
    cases cs with
    | nil => exact reads_sign c false
    | cons c' cs => exact (reads_sign c true).bind ih

lemma reads_path (names : List String) : Reads (path names) (ofPath names) () := by
  induction names with
  | nil => exact .pure _
  | cons name names ih =>
    have h : Reads (path (name :: names)) (ofSigns [':', ':'] ++ (ofWord name ++ ofPath names)) () :=
      (reads_operator _).bind ((reads_word name).bind ih)
    exact h

lemma reads_group (d : Delimiter) (body : Row) : Reads (group d) (ofGroup d body) body := by
  intro ts
  have h : Reads (do guard (d = d); return body) [] body := (reads_guard rfl).bind (.pure body)
  exact h ts

lemma reads_within {body : Row} (h : Reads r body a) : Reads (within d r) (ofGroup d body) a := by
  rw [← List.append_nil (ofGroup d body)]
  exact (reads_group d body).bind (Reads.lift h.whole)

lemma run_choose {ts : Row} : (choose ways).run (ofWord text ++ ts) = ((ways.lookup text).getD failure).run ts := rfl

lemma reads_choose_cons (h : Reads r row a) : Reads (choose ((text, r) :: ways)) (ofWord text ++ row) a := by
  intro ts
  rw [List.append_assoc, run_choose, List.lookup_cons_self]
  exact h ts

lemma reads_choose_of_ne (hn : text ≠ text') (h : Reads (choose ways) (ofWord text ++ row) a) :
    Reads (choose ((text', r) :: ways)) (ofWord text ++ row) a := by
  intro ts
  have hc := h ts
  rw [List.append_assoc, run_choose] at hc ⊢
  rwa [List.lookup_cons, beq_false_of_ne hn]

end Reading

end CommandLine
