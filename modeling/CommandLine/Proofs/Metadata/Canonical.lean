import CommandLine.Proofs.Metadata.Rendering

/-! The properties that some metadata text stands for. -/

namespace CommandLine.Metadata

def Unquoted (s : String) : Prop := ∀ c ∈ s.toList, isQuote c = false

instance (s : String) : Decidable (Unquoted s) :=
  List.decidableBAll (fun c => isQuote c = false) s.toList

structure Writable (e : String × String) : Prop where
  key : Unquoted e.1
  value : Unquoted e.2
  nonempty : e ≠ ("", "")

structure Canonical (p : Props) : Prop where
  keys : p.keys.Nodup
  unquoted : ∀ e ∈ p.entries, Unquoted e.1 ∧ Unquoted e.2
  nonempty : ("", "") ∉ p.entries

def quotedPair (e : String × String) : String :=
  "'" ++ e.1 ++ "':'" ++ e.2 ++ "' "

def write (p : Props) : String :=
  String.join (p.entries.map quotedPair)

variable {p : Props} {e : String × String} {c : Char}

lemma Canonical.writable (h : Canonical p) (he : e ∈ p.entries) : Writable e :=
  ⟨(h.unquoted e he).1, (h.unquoted e he).2, fun hn => h.nonempty (hn ▸ he)⟩

lemma canonical_of_writable (hk : p.keys.Nodup) (h : ∀ e ∈ p.entries, Writable e) : Canonical p where
  keys := hk
  unquoted e he := ⟨(h e he).key, (h e he).value⟩
  nonempty he := (h _ he).nonempty rfl

lemma Unquoted.push {s : String} (h : Unquoted s) (hc : isQuote c = false) : Unquoted (s.push c) := by
  intro x hx
  rw [String.toList_push, List.mem_append, List.mem_singleton] at hx
  rcases hx with hx | rfl
  · exact h x hx
  · exact hc

lemma Unquoted.filter {s : String} (h : Unquoted s) : (s.toList.filter fun c => !isQuote c) = s.toList :=
  List.filter_eq_self.mpr fun c hc => by rw [h c hc]; rfl

lemma Unquoted.notMem {s : String} (h : Unquoted s) : '\'' ∉ s.toList :=
  fun hq => absurd (h _ hq) (by decide)

lemma isQuote_of_effect {o : Option UnterminatedQuote} (h : effect o c = .push) : isQuote c = false := by
  cases o with
  | some q =>
    simp only [effect] at h
    split at h
    · cases h
    · rename_i hq
      simpa using (not_or.mp hq).2
  | none =>
    simp only [effect] at h
    split_ifs at h with _ _ hq
    simpa using hq

namespace Scan

variable {s : Scan}

structure Clean (s : Scan) : Prop where
  entries : ∀ e ∈ s.props.entries, Writable e
  key : Unquoted s.pair.key
  value : Unquoted s.pair.value
  collected : s.pair.collected = true → (s.pair.key, s.pair.value) ≠ ("", "")

lemma clean_start : Clean {} where
  entries e he := by cases he
  key c hc := by cases hc
  value c hc := by cases hc
  collected h := by cases h

lemma Clean.flush (h : s.Clean) : s.flush.Clean := by
  rw [Scan.flush]
  split
  · rename_i hc
    refine ⟨fun e he => ?_, clean_start.key, clean_start.value, clean_start.collected⟩
    rcases Props.mem_insertEntry he with rfl | he
    · exact ⟨h.key, h.value, h.collected hc⟩
    · exact h.entries e he
  · exact h

lemma Clean.push (h : s.Clean) (hc : isQuote c = false) : Clean { s with pair := s.pair.push c } := by
  have hne : ∀ t : String, t.push c ≠ "" := by
    intro t ht
    simpa using congrArg String.toList ht
  by_cases hi : s.pair.inValue = true
  · simp only [Pair.push, hi, ↓reduceIte]
    exact ⟨h.entries, h.key, h.value.push hc, fun _ he => hne _ (congrArg Prod.snd he)⟩
  · simp only [Pair.push, hi]
    exact ⟨h.entries, h.key.push hc, h.value, fun _ he => hne _ (congrArg Prod.fst he)⟩

lemma Clean.step (h : s.Clean) (c : Char) : (s.step c).Clean := by
  have ha : ((effect s.openQuote c).apply s c).Clean := by
    cases he : effect s.openQuote c with
    | push => exact h.push (isQuote_of_effect he)
    | colon => exact ⟨h.entries, h.key, h.value, h.collected⟩
    | space => exact h.flush
    | none => exact h
  rw [step_eq]
  exact ⟨ha.entries, ha.key, ha.value, ha.collected⟩

lemma Clean.run (h : s.Clean) (cs : List Char) : (s.run cs).Clean := by
  induction cs generalizing s with
  | nil => exact h
  | cons c cs ih => exact ih (h.step c)

end Scan

lemma canonical_of_parse {s : String} (h : parse s = .ok p) : Canonical p := by
  refine canonical_of_writable (nodup_keys_of_parse h) ?_
  have hs : (scan s).Clean := Scan.clean_start.run _
  obtain ⟨-, rfl⟩ := Scan.finish_eq_ok_iff.mp h
  split
  · exact hs.entries
  · exact hs.flush.entries

lemma run_quotedPair (h : Writable e) (props : Props) (offset : ℕ) :
    Scan.run ⟨props, {}, none, offset⟩ (quotedPair e).toList =
      ⟨props.insert e.1 e.2, {}, none, offset + width (quotedPair e).toList⟩ := by
  obtain ⟨r, hr⟩ : ∃ r : Rendering, r = [.quoted '\'' e.1.toList rfl h.key.notMem, .colon,
      .quoted '\'' e.2.toList rfl h.value.notMem] := ⟨_, rfl⟩
  have ht : (quotedPair e).toList = r.text ++ [' '] := by
    simp [quotedPair, hr, Rendering.text, Atom.text]
  have hk : r.key = e.1 := by
    simp [hr, Rendering.key, Rendering.retained, Atom.isColon, Atom.retained, h.key.filter]
  have hv : r.value = e.2 := by
    simp [hr, Rendering.value, Rendering.retained, Atom.isColon, Atom.retained, h.value.filter]
  have hc : (!r.retained.isEmpty) = true := by
    have hn : ¬ (e.1 = "" ∧ e.2 = "") := fun he => h.nonempty (Prod.ext he.1 he.2)
    simpa [hr, Rendering.retained, Atom.retained, h.key.filter, h.value.filter] using hn
  rw [ht, Scan.run_append, Rendering.run_fresh, Scan.run_cons, Scan.run_nil, Scan.step_space rfl, Scan.flush,
    if_pos hc, hk, hv, Scan.advance, width_append, Nat.add_assoc]
  rfl

lemma run_quotedPairs {entries : List (String × String)} (h : ∀ e ∈ entries, Writable e) (props : Props)
    (offset : ℕ) : ∃ offset', Scan.run ⟨props, {}, none, offset⟩ (String.join (entries.map quotedPair)).toList =
      ⟨props.insertAll entries, {}, none, offset'⟩ := by
  induction entries generalizing props offset with
  | nil => exact ⟨offset, rfl⟩
  | cons e entries ih =>
    have ht : (String.join ((e :: entries).map quotedPair)).toList =
        (quotedPair e).toList ++ (String.join (entries.map quotedPair)).toList := by simp
    rw [ht, Scan.run_append, run_quotedPair (h e (by simp))]
    exact ih (fun e he => h e (by simp [he])) _ _

lemma parse_write (h : Canonical p) : parse (write p) = .ok p := by
  obtain ⟨offset, hr⟩ := run_quotedPairs (fun e => h.writable) {} 0
  have hp : Props.insertAll {} p.entries = p := Props.insertAll_eq_append h.keys
  rw [parse, write, show ({} : Scan) = ⟨{}, {}, none, 0⟩ from rfl, hr, hp]
  rfl

theorem parse_image (p : Props) :
    ((∃ s, parse s = .ok p) ↔ Canonical p) ∧ (Canonical p → parse (write p) = .ok p) ∧
      ∀ s, parse s = .ok p → parse (write p) = .ok p :=
  ⟨⟨fun ⟨_, h⟩ => canonical_of_parse h, fun h => ⟨_, parse_write h⟩⟩, parse_write,
    fun _ h => parse_write (canonical_of_parse h)⟩

theorem keyless_image : parse "'':'a b' 'größe: ':'' " = .ok ⟨[("", "a b"), ("größe: ", "")]⟩ ∧
    ¬ ∃ s, parse s = .ok ⟨[("k", "v"), ("", "")]⟩ := by
  have canonical : Canonical ⟨[("", "a b"), ("größe: ", "")]⟩ := ⟨by decide, by decide +kernel, by decide⟩
  have hw : write ⟨[("", "a b"), ("größe: ", "")]⟩ = "'':'a b' 'größe: ':'' " := by decide +kernel
  refine ⟨hw ▸ (parse_image _).2.1 canonical, fun h => ?_⟩
  exact ((parse_image _).1.mp h).nonempty (by decide)

end CommandLine.Metadata
