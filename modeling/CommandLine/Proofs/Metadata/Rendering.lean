import CommandLine.Proofs.Metadata.Scan

/-! Written metadata and the properties it stands for. -/

namespace CommandLine.Metadata

inductive Atom
  | plain (c : Char) (isPlain : c ≠ ' ' ∧ c ≠ ':' ∧ isQuote c = false)
  | colon
  | quoted (quote : Char) (span : List Char) (opens : isQuote quote = true) (within : quote ∉ span)

namespace Atom

def text : Atom → List Char
  | plain c _ => [c]
  | colon => [':']
  | quoted q w _ _ => q :: (w ++ [q])

def retained : Atom → List Char
  | plain c _ => [c]
  | colon => []
  | quoted _ w _ _ => w.filter fun c => !isQuote c

def isColon : Atom → Bool
  | colon => true
  | _ => false

def read (p : Pair) (a : Atom) : Pair :=
  if a.isColon then { p with inValue := true } else p.pushAll a.retained

lemma retained_of_isColon {a : Atom} (h : a.isColon = true) : a.retained = [] := by
  cases a <;> simp [isColon, retained] at h ⊢

lemma read_value {p : Pair} (h : p.inValue = true) (a : Atom) :
    a.read p = { p with
      value := p.value ++ String.ofList a.retained
      collected := p.collected || !a.retained.isEmpty } := by
  by_cases ha : a.isColon = true
  · simp [read, ha, retained_of_isColon ha, ← h]
  · rw [read, if_neg ha, Pair.pushAll_value h]

lemma run_text {s : Scan} (hs : s.openQuote = none) (a : Atom) :
    s.run a.text = ({ s with pair := a.read s.pair } : Scan).advance (width a.text) := by
  cases a with
  | plain c hc => simp [text, Scan.run_cons, Scan.step, Scan.visit, hs, hc, read, isColon, retained,
      Pair.pushAll, Scan.advance]
  | colon => simp [text, Scan.run_cons, Scan.step, Scan.visit, hs, read, isColon, Scan.advance]
  | quoted q w ho hw =>
    have hc : q ≠ ':' ∧ q ≠ ' ' := by
      constructor <;> rintro rfl <;> simp [isQuote] at ho
    have hq : s.step q = ({ s with openQuote := some ⟨q, s.offset⟩ } : Scan).advance q.utf8Size := by
      simp [Scan.step, Scan.visit, hs, hc, ho, Scan.advance]
    rw [text, Scan.run_cons, hq, Scan.run_append, Scan.run_span (w := w) rfl hw, Scan.run_cons, Scan.run_nil]
    simp [Scan.step, Scan.visit, Scan.advance, read, isColon, retained, hs, Nat.add_assoc]

end Atom

abbrev Rendering := List Atom

namespace Rendering

variable {r : Rendering} {p : Pair}

def text (r : Rendering) : List Char := r.flatMap Atom.text

def retained (r : Rendering) : List Char := r.flatMap Atom.retained

def key (r : Rendering) : String :=
  String.ofList (retained (r.takeWhile fun a => !a.isColon))

def value (r : Rendering) : String :=
  String.ofList (retained (r.dropWhile fun a => !a.isColon))

def read (p : Pair) (r : Rendering) : Pair := r.foldl Atom.read p

lemma not_isEmpty_append (xs ys : List Char) : (!(xs ++ ys).isEmpty) = (!xs.isEmpty || !ys.isEmpty) := by
  cases xs <;> simp

lemma retained_cons (a : Atom) (r : Rendering) : retained (a :: r) = a.retained ++ retained r := rfl

lemma read_value (h : p.inValue = true) (r : Rendering) :
    r.read p = { p with
      value := p.value ++ String.ofList r.retained
      collected := p.collected || !r.retained.isEmpty } := by
  induction r generalizing p with
  | nil => simp [read, retained]
  | cons a r ih =>
    have hr : read p (a :: r) = read (a.read p) r := rfl
    rw [hr, Atom.read_value h, ih (by exact h), retained_cons]
    simp [String.append_assoc, Bool.or_assoc, not_isEmpty_append]

lemma read_key (h : p.inValue = false) (r : Rendering) :
    r.read p = {
      key := p.key ++ r.key
      value := p.value ++ r.value
      inValue := r.any Atom.isColon
      collected := p.collected || !r.retained.isEmpty } := by
  induction r generalizing p with
  | nil =>
    obtain ⟨k, v, i, c⟩ := p
    obtain rfl : i = false := h
    simp [read, retained, key, value]
  | cons a r ih =>
    have hr : read p (a :: r) = read (a.read p) r := rfl
    by_cases ha : a.isColon = true
    · rw [hr, Atom.read, if_pos ha, read_value rfl]
      simp [key, value, retained_cons, Atom.retained_of_isColon ha, ha]
      simp [retained]
    · rw [hr, Atom.read, if_neg ha, Pair.pushAll_key h, ih (by exact h)]
      simp [key, value, retained_cons, ha, String.append_assoc, Bool.or_assoc, not_isEmpty_append]

lemma run_text {s : Scan} (hs : s.openQuote = none) (r : Rendering) :
    s.run r.text = ({ s with pair := r.read s.pair } : Scan).advance (width r.text) := by
  induction r generalizing s with
  | nil => rfl
  | cons a r ih =>
    have ht : text (a :: r) = a.text ++ text r := rfl
    rw [ht, Scan.run_append, Atom.run_text hs, ih (by exact hs)]
    simp [Scan.advance, read, Nat.add_assoc]

lemma run_fresh (r : Rendering) (props : Props) (offset : ℕ) :
    Scan.run ⟨props, {}, none, offset⟩ r.text =
      ⟨props, ⟨r.key, r.value, r.any Atom.isColon, !r.retained.isEmpty⟩, none, offset + width r.text⟩ := by
  rw [run_text rfl, read_key rfl]
  simp [Scan.advance]

end Rendering

structure Row where
  leading : ℕ := 0
  pairs : List (Rendering × ℕ) := []
  retains : ∀ e ∈ pairs, e.1.retained ≠ []
  apart : ∀ e ∈ pairs.dropLast, 0 < e.2

namespace Row

def textOfPairs (pairs : List (Rendering × ℕ)) : List Char :=
  pairs.flatMap fun e => e.1.text ++ List.replicate e.2 ' '

def text (w : Row) : String :=
  String.ofList (List.replicate w.leading ' ' ++ textOfPairs w.pairs)

def entries : List (Rendering × ℕ) → List (String × String)
  | [] => []
  | [(r, 0)] => if r.key = "" then [] else [(r.key, r.value)]
  | (r, _) :: rest => (r.key, r.value) :: entries rest

lemma entries_succ (r : Rendering) (n : ℕ) (rest : List (Rendering × ℕ)) :
    entries ((r, n + 1) :: rest) = (r.key, r.value) :: entries rest := by
  simp [entries]

lemma finish_textOfPairs (pairs : List (Rendering × ℕ)) (hr : ∀ e ∈ pairs, e.1.retained ≠ [])
    (ha : ∀ e ∈ pairs.dropLast, 0 < e.2) (props : Props) (offset : ℕ) :
    (Scan.run ⟨props, {}, none, offset⟩ (textOfPairs pairs)).finish = .ok (props.insertAll (entries pairs)) := by
  induction pairs generalizing props offset with
  | nil => rfl
  | cons e rest ih =>
    obtain ⟨r, n⟩ := e
    have hc : r.retained ≠ [] := hr (r, n) (by simp)
    have ht : textOfPairs ((r, n) :: rest) = r.text ++ (List.replicate n ' ' ++ textOfPairs rest) := by
      simp [textOfPairs]
    rw [ht, Scan.run_append, Scan.run_append, Rendering.run_fresh]
    cases n with
    | succ n =>
      have hflush : Scan.flush ⟨props, ⟨r.key, r.value, r.any Atom.isColon, !r.retained.isEmpty⟩, none,
          offset + width r.text⟩ = ⟨props.insert r.key r.value, {}, none, offset + width r.text⟩ := by
        simp [Scan.flush, hc]
      rw [Scan.run_spaces rfl, hflush, entries_succ]
      refine ih (fun e he => hr e (by simp [he])) (fun e he => ha e ?_) _ _
      cases rest with
      | nil => simp at he
      | cons _ _ => exact List.mem_cons_of_mem _ he
    | zero =>
      -- only the last pair may have no space behind it
      have hn : rest = [] := by
        cases rest with
        | nil => rfl
        | cons e rest => exact absurd (ha (r, 0) (by simp)) (Nat.lt_irrefl 0)
      subst hn
      by_cases hk : r.key = "" <;> simp [textOfPairs, Scan.finish, Scan.flush, entries, hk, hc, Props.insertAll]

/-- A written row reads as the properties that its pairs make from left to right. -/
theorem parse_text (w : Row) : parse w.text = .ok (Props.insertAll {} (entries w.pairs)) := by
  rw [parse, text, String.toList_ofList, Scan.run_append]
  have hl : ∃ offset, Scan.run {} (List.replicate w.leading ' ') = ⟨{}, {}, none, offset⟩ := by
    cases w.leading with
    | zero => exact ⟨0, rfl⟩
    | succ n => exact ⟨0 + (n + 1), Scan.run_spaces rfl n⟩
  obtain ⟨offset, ho⟩ := hl
  rw [ho]
  exact finish_textOfPairs w.pairs w.retains w.apart {} offset

def glued : Rendering :=
  [.plain 'k' (by decide), .colon, .quoted '"' ['a', ' ', '\'', 'b'] (by decide) (by decide), .colon,
    .plain 'c' (by decide)]

theorem parse_glued : parse " k:\"a 'b\":c :v" = .ok ⟨[("k", "a bc")]⟩ :=
  parse_text {
    leading := 1
    pairs := [(glued, 1), ([.colon, .plain 'v' (by decide)], 0)]
    retains := by decide
    apart := by decide }

end Row

end CommandLine.Metadata
