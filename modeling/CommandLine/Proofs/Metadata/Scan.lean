import CommandLine.Metadata
import CommandLine.Proofs.Props

/-! The scanner character by character, and over stretches of text: inside a span and over spaces. -/

namespace CommandLine.Metadata

def width : List Char → ℕ
  | [] => 0
  | c :: cs => c.utf8Size + width cs

@[simp] lemma width_nil : width [] = 0 := rfl

@[simp] lemma width_cons (c : Char) (cs : List Char) : width (c :: cs) = c.utf8Size + width cs := rfl

@[simp] lemma width_append (xs ys : List Char) : width (xs ++ ys) = width xs + width ys := by
  induction xs with
  | nil => simp
  | cons x xs ih => simp [ih, Nat.add_assoc]

lemma width_toList (s : String) : width s.toList = s.utf8ByteSize := by
  have h : ∀ cs, width cs = (String.ofList cs).utf8ByteSize := by
    intro cs
    induction cs with
    | nil => rfl
    | cons c cs ih => simp [ih]
  rw [h, String.ofList_toList]

namespace Pair

def pushAll (p : Pair) (cs : List Char) : Pair := cs.foldl push p

lemma pushAll_key {p : Pair} (h : p.inValue = false) (cs : List Char) :
    p.pushAll cs = { p with key := p.key ++ String.ofList cs, collected := p.collected || !cs.isEmpty } := by
  induction cs generalizing p with
  | nil => simp [pushAll]
  | cons c cs ih =>
    have hp : p.pushAll (c :: cs) = (p.push c).pushAll cs := rfl
    rw [hp, ih (by simp [push, h])]
    simp [push, h, ← String.toList_inj]

lemma pushAll_value {p : Pair} (h : p.inValue = true) (cs : List Char) :
    p.pushAll cs = { p with value := p.value ++ String.ofList cs, collected := p.collected || !cs.isEmpty } := by
  induction cs generalizing p with
  | nil => simp [pushAll]
  | cons c cs ih =>
    have hp : p.pushAll (c :: cs) = (p.push c).pushAll cs := rfl
    rw [hp, ih (by simp [push, h])]
    simp [push, h, ← String.toList_inj]

end Pair

def quoteAfter (o : Option UnterminatedQuote) (offset : ℕ) (c : Char) : Option UnterminatedQuote :=
  match o with
  | some q => if c = q.quote then none else some q
  | none => if isQuote c then some ⟨c, offset⟩ else none

def Pair.leaks (p : Pair) : Bool := p.inValue && !p.collected

/-- What a character does to the pair in progress. -/
inductive Effect
  | push | colon | space | none

def effect (o : Option UnterminatedQuote) (c : Char) : Effect :=
  match o with
  | some q => if c = q.quote ∨ isQuote c = true then .none else .push
  | none => if c = ':' then .colon else if c = ' ' then .space else if isQuote c then .none else .push

def Effect.apply (s : Scan) (c : Char) : Effect → Scan
  | push => { s with pair := s.pair.push c }
  | colon => { s with pair := { s.pair with inValue := true } }
  | space => s.flush
  | none => s

namespace Scan

variable {s : Scan} {p : Props} {q : UnterminatedQuote}

@[simp] lemma run_nil (s : Scan) : s.run [] = s := rfl

lemma run_cons (s : Scan) (c : Char) (cs : List Char) : s.run (c :: cs) = (s.step c).run cs := rfl

lemma run_append (s : Scan) (xs ys : List Char) : s.run (xs ++ ys) = (s.run xs).run ys :=
  List.foldl_append

lemma run_span {q : UnterminatedQuote} (hs : s.openQuote = some q) {w : List Char} (hw : q.quote ∉ w) :
    s.run w = { s with
      pair := s.pair.pushAll (w.filter fun c => !isQuote c)
      offset := s.offset + width w } := by
  induction w generalizing s with
  | nil => rfl
  | cons c w ih =>
    obtain ⟨hc, hw⟩ : q.quote ≠ c ∧ q.quote ∉ w := by simpa using hw
    rw [run_cons]
    by_cases hq : isQuote c = true
    · rw [ih (by simp [step, visit, hs, hq, Ne.symm hc]) hw]
      simp [step, visit, hs, hq, Ne.symm hc, Nat.add_assoc]
    · rw [ih (by simp [step, visit, hs, hq, Ne.symm hc]) hw]
      simp [step, visit, hs, hq, Ne.symm hc, Nat.add_assoc, Pair.pushAll]

def advance (s : Scan) (n : ℕ) : Scan := { s with offset := s.offset + n }

lemma advance_advance (s : Scan) (m n : ℕ) : (s.advance m).advance n = s.advance (m + n) := by
  simp [advance, Nat.add_assoc]

lemma flush_advance (s : Scan) (n : ℕ) : (s.advance n).flush = s.flush.advance n := by
  by_cases h : s.pair.collected = true <;> simp [flush, advance, h]

lemma flush_flush (s : Scan) : s.flush.flush = s.flush := by
  by_cases h : s.pair.collected = true <;> simp [flush, h]

lemma openQuote_flush (s : Scan) : s.flush.openQuote = s.openQuote := by
  by_cases h : s.pair.collected = true <;> simp [flush, h]

lemma step_space (hs : s.openQuote = none) : s.step ' ' = s.flush.advance 1 := by
  by_cases h : s.pair.collected = true <;>
    simp [step, visit, hs, flush, advance, h, show ' '.utf8Size = 1 from rfl]

lemma run_spaces (hs : s.openQuote = none) (n : ℕ) :
    s.run (List.replicate (n + 1) ' ') = s.flush.advance (n + 1) := by
  induction n generalizing s with
  | zero => rw [List.replicate_one, run_cons, run_nil, step_space hs]
  | succ n ih =>
    rw [List.replicate_succ, run_cons, step_space hs, ih (by rw [← hs, ← openQuote_flush s]; rfl),
      flush_advance, flush_flush, advance_advance, Nat.add_comm]

lemma step_eq (s : Scan) (c : Char) : s.step c =
    { (effect s.openQuote c).apply s c with
      openQuote := quoteAfter s.openQuote s.offset c
      offset := s.offset + c.utf8Size } := by
  obtain ⟨props, pair, o, offset⟩ := s
  cases o with
  | some q =>
    by_cases h : c = q.quote
    · simp [step, visit, effect, quoteAfter, h, Effect.apply]
    · by_cases hq : isQuote c = true <;> simp [step, visit, effect, quoteAfter, h, hq, Effect.apply]
  | none =>
    by_cases h₁ : c = ':'
    · subst h₁
      rfl
    · by_cases h₂ : c = ' '
      · subst h₂
        by_cases hc : pair.collected = true <;>
          simp [step, visit, effect, quoteAfter, Effect.apply, flush, hc, isQuote]
      · by_cases hq : isQuote c = true <;> simp [step, visit, effect, quoteAfter, h₁, h₂, hq, Effect.apply]

lemma openQuote_step (s : Scan) (c : Char) : (s.step c).openQuote = quoteAfter s.openQuote s.offset c := by
  rw [step_eq]

lemma offset_run (s : Scan) (cs : List Char) : (s.run cs).offset = s.offset + width cs := by
  induction cs generalizing s with
  | nil => rfl
  | cons c cs ih =>
    have ho : (s.step c).offset = s.offset + c.utf8Size := rfl
    rw [run_cons, ih, ho, width_cons, Nat.add_assoc]

structure Tidy (s : Scan) : Prop where
  keys : s.props.keys.Nodup
  pair : s.pair.collected = false → s.pair.key = "" ∧ s.pair.value = ""

lemma tidy_start : Tidy {} := ⟨List.nodup_nil, fun _ => ⟨rfl, rfl⟩⟩

lemma Tidy.flush (h : s.Tidy) : s.flush.Tidy := by
  rw [Scan.flush]
  split
  · exact ⟨Props.nodup_keys_insert h.keys _ _, fun _ => ⟨rfl, rfl⟩⟩
  · exact h

lemma Tidy.pair_flush (h : s.Tidy) : s.flush.pair = { inValue := s.pair.leaks } := by
  obtain ⟨props, ⟨key, value, i, collected⟩, o, offset⟩ := s
  cases collected with
  | true => simp [Scan.flush, Pair.leaks]
  | false =>
    obtain ⟨rfl, rfl⟩ : key = "" ∧ value = "" := h.pair rfl
    simp [Scan.flush, Pair.leaks]

lemma Tidy.apply (h : s.Tidy) (c : Char) (e : Effect) : (e.apply s c).Tidy := by
  cases e with
  | push =>
    have hc : (s.pair.push c).collected = true := by
      rw [Pair.push]
      split <;> rfl
    refine ⟨h.keys, fun hn => ?_⟩
    rw [Effect.apply, hc] at hn
    cases hn
  | colon => exact ⟨h.keys, h.pair⟩
  | space => exact h.flush
  | none => exact h

lemma Tidy.step (h : s.Tidy) (c : Char) : (s.step c).Tidy := by
  have ha := h.apply c (effect s.openQuote c)
  rw [step_eq]
  exact ⟨ha.keys, ha.pair⟩

lemma Tidy.run (h : s.Tidy) (cs : List Char) : (s.run cs).Tidy := by
  induction cs generalizing s with
  | nil => exact h
  | cons c cs ih => exact ih (h.step c)

lemma finish_eq_error_iff : s.finish = .error q ↔ s.openQuote = some q := by
  cases h : s.openQuote <;> simp [finish, h]

lemma finish_eq_ok_iff :
    s.finish = .ok p ↔ s.openQuote = none ∧ p = if s.pair.key = "" then s.props else s.flush.props := by
  cases h : s.openQuote with
  | some q => simp [finish, h]
  | none => simp only [finish, h, Except.ok.injEq, true_and, eq_comm]

end Scan

def scan (s : String) : Scan := Scan.run {} s.toList

lemma tidy_scan (s : String) : (scan s).Tidy := Scan.tidy_start.run _

lemma parse_eq (s : String) : parse s = (scan s).finish := rfl

lemma nodup_keys_of_parse {s : String} {p : Props} (h : parse s = .ok p) : p.keys.Nodup := by
  obtain ⟨-, rfl⟩ := Scan.finish_eq_ok_iff.mp h
  split
  · exact (tidy_scan s).keys
  · exact (tidy_scan s).flush.keys

end CommandLine.Metadata
