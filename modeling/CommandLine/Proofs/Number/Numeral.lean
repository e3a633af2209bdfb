import CommandLine.Proofs.Number.Integer

/-! Which texts are integers of a type, and what the others are refused for. -/

namespace CommandLine.IntegerType

inductive Sign
  | absent | plus | minus
  deriving DecidableEq

namespace Sign

def text : Sign → List Char
  | absent => []
  | plus => ['+']
  | minus => ['-']

def isNegative : Sign → Bool
  | minus => true
  | _ => false

structure Fits (sign : Sign) (t : IntegerType) (rest : List Char) : Prop where
  permitted : sign = minus → t.isSigned = true
  bare : sign = absent → rest.head? ≠ some '+' ∧ rest.head? ≠ some '-'

end Sign

structure Spells (t : IntegerType) (cs : List Char) (sign : Sign) (digits : List Char) (v : ℤ) : Prop where
  text : cs = sign.text ++ digits
  permitted : sign = .minus → t.isSigned = true
  nonempty : digits ≠ []
  allDigits : ∀ c ∈ digits, c.isDigit = true
  value : v = signed sign.isNegative (Nat.ofDigitChars 10 digits 0)
  range : t.Holds v

def StopsAt (t : IntegerType) (negative : Bool) (k : ℕ) (cs : List Char) (j : ℕ) (c : Char) : Prop :=
  cs[j]? = some c ∧
    (c.isDigit = false ∨ ¬ t.Holds (signed negative (Nat.ofDigitChars 10 (cs.take (j + 1)) k)))

structure FirstStop (t : IntegerType) (negative : Bool) (k : ℕ) (cs : List Char) (j : ℕ) (c : Char) : Prop where
  stops : t.StopsAt negative k cs j c
  first : ∀ i < j, ∀ c', ¬ t.StopsAt negative k cs i c'

def stopError (negative : Bool) (c : Char) : IntegerError :=
  if c.isDigit then overflow negative else .invalidDigit

inductive Refuses (t : IntegerType) : List Char → IntegerError → Prop
  | empty : t.Refuses [] .empty
  | loneSign {sign : Sign} (given : sign ≠ .absent) : t.Refuses sign.text .invalidDigit
  | unsigned (rest : List Char) (unsigned : t.isSigned = false) : t.Refuses ('-' :: rest) .invalidDigit
  | stop {sign : Sign} {rest : List Char} {j : ℕ} {c : Char} (fits : sign.Fits t rest)
      (stop : t.FirstStop sign.isNegative 0 rest j c) :
      t.Refuses (sign.text ++ rest) (stopError sign.isNegative c)

variable {t : IntegerType} {negative : Bool} {j k : ℕ} {v : ℤ} {c c' : Char} {cs digits rest : List Char}
  {sign : Sign} {e : IntegerError}

lemma not_stopsAt_nil : ¬ t.StopsAt negative k [] j c := fun h => by simp [StopsAt] at h

lemma stopsAt_zero_iff : t.StopsAt negative k (c :: cs) 0 c' ↔
    c = c' ∧ (c.isDigit = false ∨ ¬ t.Holds (signed negative (10 * k + (c.toNat - '0'.toNat)))) := by
  rw [StopsAt, List.getElem?_cons_zero, Option.some.injEq]
  refine and_congr_right fun hc => ?_
  rw [hc]
  rfl

lemma firstStop_cons_iff : t.FirstStop negative k (c :: cs) j c' ↔
    (j = 0 ∧ t.StopsAt negative k (c :: cs) 0 c') ∨
      ∃ i, j = i + 1 ∧ ¬ t.StopsAt negative k (c :: cs) 0 c ∧
        t.FirstStop negative (10 * k + (c.toNat - '0'.toNat)) cs i c' := by
  cases j with
  | zero =>
    refine ⟨fun h => Or.inl ⟨rfl, h.stops⟩, ?_⟩
    rintro (⟨-, h⟩ | ⟨i, hi, -⟩)
    · exact ⟨h, fun i hi => absurd hi (Nat.not_lt_zero i)⟩
    · cases hi
  | succ j =>
    refine ⟨fun h => Or.inr ⟨j, rfl, h.first 0 j.succ_pos c, h.stops, fun i hi => h.first (i + 1) (by omega)⟩, ?_⟩
    rintro (⟨hj, -⟩ | ⟨i, hi, hn, h⟩)
    · cases hj
    · obtain rfl : j = i := Nat.succ.inj hi
      refine ⟨h.stops, fun i hi c' hs => ?_⟩
      cases i with
      | zero =>
        obtain ⟨rfl, -⟩ := stopsAt_zero_iff.mp hs
        exact hn hs
      | succ i => exact h.first i (by omega) c' hs

lemma exists_firstStop_of_stopsAt_zero (h : t.StopsAt negative k (c :: cs) 0 c) :
    (∃ j c', t.FirstStop negative k (c :: cs) j c' ∧ e = stopError negative c') ↔ e = stopError negative c := by
  refine ⟨?_, fun he => ⟨0, c, firstStop_cons_iff.mpr (Or.inl ⟨rfl, h⟩), he⟩⟩
  rintro ⟨j, c', hj, rfl⟩
  rcases firstStop_cons_iff.mp hj with ⟨-, h'⟩ | ⟨i, -, hn, -⟩
  · rw [(stopsAt_zero_iff.mp h').1]
  · exact absurd h hn

lemma exists_firstStop_of_not_stopsAt_zero (h : ¬ t.StopsAt negative k (c :: cs) 0 c) :
    (∃ j c', t.FirstStop negative k (c :: cs) j c' ∧ e = stopError negative c') ↔
      ∃ j c', t.FirstStop negative (10 * k + (c.toNat - '0'.toNat)) cs j c' ∧ e = stopError negative c' := by
  refine ⟨?_, ?_⟩
  · rintro ⟨j, c', hj, he⟩
    rcases firstStop_cons_iff.mp hj with ⟨-, h'⟩ | ⟨i, -, -, hi⟩
    · obtain ⟨rfl, -⟩ := stopsAt_zero_iff.mp h'
      exact absurd h' h
    · exact ⟨i, c', hi, he⟩
  · rintro ⟨j, c', hj, he⟩
    exact ⟨j + 1, c', firstStop_cons_iff.mpr (Or.inr ⟨j, rfl, h, hj⟩), he⟩

lemma readDigits_eq_error_iff : t.readDigits negative (signed negative k) cs = .error e ↔
    ∃ j c, t.FirstStop negative k cs j c ∧ e = stopError negative c := by
  -- By induction on the characters, while the value of what was read moves on.
  induction cs generalizing k with
  | nil =>
    refine iff_of_false (by simp [readDigits]) ?_
    rintro ⟨j, c, h, -⟩
    exact not_stopsAt_nil h.stops
  | cons c cs ih =>
    rw [readDigits_cons, Decimal.isDigit_eq]
    cases hc : c.isDigit with
    | false =>
      rw [exists_firstStop_of_stopsAt_zero (stopsAt_zero_iff.mpr ⟨rfl, Or.inl hc⟩), stopError, hc]
      simp [eq_comm]
    | true =>
      by_cases hh : t.Holds (signed negative (10 * k + (c.toNat - '0'.toNat)))
      · have hs : ¬ t.StopsAt negative k (c :: cs) 0 c := by
          rintro hs
          rcases (stopsAt_zero_iff.mp hs).2 with hd | hn
          · exact absurd hc (by simp [hd])
          · exact hn hh
        rw [exists_firstStop_of_not_stopsAt_zero hs, ← ih, if_pos rfl, if_pos hh]
      · rw [exists_firstStop_of_stopsAt_zero (stopsAt_zero_iff.mpr ⟨rfl, Or.inr hh⟩), stopError, hc, if_pos rfl,
          if_neg hh, if_pos rfl]
        simp [eq_comm]

lemma digits_of_readDigits (h : t.readDigits negative (signed negative k) cs = .ok v) :
    (∀ c ∈ cs, c.isDigit = true) ∧ v = signed negative (Nat.ofDigitChars 10 cs k) := by
  induction cs generalizing k with
  | nil => exact ⟨by simp, (Except.ok.inj h).symm⟩
  | cons c cs ih =>
    rw [readDigits_cons] at h
    split_ifs at h with hc hh
    obtain ⟨hd, hv⟩ := ih h
    rw [Decimal.isDigit_eq] at hc
    exact ⟨List.forall_mem_cons.mpr ⟨hc, hd⟩, hv⟩

lemma readDigits_eq_ok_iff : t.readDigits negative (signed negative 0) cs = .ok v ↔
    (∀ c ∈ cs, c.isDigit = true) ∧ v = signed negative (Nat.ofDigitChars 10 cs 0) ∧ t.Holds v := by
  refine ⟨fun h => ?_, ?_⟩
  · obtain ⟨hd, hv⟩ := digits_of_readDigits h
    have hz : t.Holds (signed negative 0) := by cases negative <;> exact t.holds_zero
    exact ⟨hd, hv, holds_of_readDigits hz h⟩
  · rintro ⟨hd, rfl, hh⟩
    exact readDigits_eq (fun c hc => by rw [Decimal.isDigit_eq]; exact hd c hc) hh

lemma readChars_of_fits (h : sign.Fits t rest) (hr : rest ≠ []) :
    t.readChars (sign.text ++ rest) = t.readDigits sign.isNegative (signed sign.isNegative 0) rest := by
  obtain ⟨c, cs, rfl⟩ := List.exists_cons_of_ne_nil hr
  cases sign with
  | absent =>
    obtain ⟨hp, hm⟩ := h.bare rfl
    rw [Sign.text, List.nil_append, readChars]
    · rfl
    · rintro rfl
      exact hp rfl
    · rintro rfl
      exact hm rfl
  | plus => rfl
  | minus =>
    have hs := h.permitted rfl
    simp [Sign.text, readChars, hs, readUnsigned, Sign.isNegative]

lemma readChars_cases (t : IntegerType) (cs : List Char) : (∃ e, t.readChars cs = .error e ∧ t.Refuses cs e) ∨
    ∃ sign rest, cs = Sign.text sign ++ rest ∧ sign.Fits t rest ∧ rest ≠ [] := by
  cases cs with
  | nil => exact Or.inl ⟨_, rfl, .empty⟩
  | cons c rest =>
    by_cases hp : c = '+'
    · subst hp
      by_cases hr : rest = []
      · subst hr
        exact Or.inl ⟨_, rfl, Refuses.loneSign (fun h : Sign.plus = .absent => by cases h)⟩
      · exact Or.inr ⟨.plus, rest, rfl, ⟨by simp, by simp⟩, hr⟩
    · by_cases hm : c = '-'
      · subst hm
        cases hs : t.isSigned with
        | false => exact Or.inl ⟨.invalidDigit, by simp [readChars, hs], .unsigned rest hs⟩
        | true =>
          by_cases hr : rest = []
          · subst hr
            exact Or.inl ⟨.invalidDigit, by simp [readChars, readUnsigned],
              Refuses.loneSign (fun h : Sign.minus = .absent => by cases h)⟩
          · exact Or.inr ⟨.minus, rest, rfl, ⟨fun _ => hs, by simp⟩, hr⟩
      · exact Or.inr ⟨.absent, c :: rest, rfl, ⟨by simp, by simp [hp, hm]⟩, by simp⟩

lemma Spells.fits (h : t.Spells cs sign digits v) : sign.Fits t digits := by
  refine ⟨h.permitted, fun _ => ⟨fun hp => ?_, fun hm => ?_⟩⟩
  · exact absurd (h.allDigits _ (List.mem_of_mem_head? hp)) (by decide)
  · exact absurd (h.allDigits _ (List.mem_of_mem_head? hm)) (by decide)

lemma readChars_eq_ok_iff : t.readChars cs = .ok v ↔ ∃ sign digits, t.Spells cs sign digits v := by
  refine ⟨fun h => ?_, ?_⟩
  · rcases t.readChars_cases cs with ⟨e, he, -⟩ | ⟨sign, rest, rfl, fits, hr⟩
    · rw [he] at h
      cases h
    · rw [readChars_of_fits fits hr] at h
      obtain ⟨hd, hv, hh⟩ := readDigits_eq_ok_iff.mp h
      exact ⟨sign, rest, rfl, fits.permitted, hr, hd, hv, hh⟩
  · rintro ⟨sign, digits, h⟩
    rw [h.text, readChars_of_fits h.fits h.nonempty]
    exact readDigits_eq_ok_iff.mpr ⟨h.allDigits, h.value, h.range⟩

lemma Refuses.readChars (h : t.Refuses cs e) : t.readChars cs = .error e := by
  cases h with
  | empty => rfl
  | @loneSign sign given =>
    cases sign with
    | absent => exact absurd rfl given
    | plus => rfl
    | minus => simp [Sign.text, IntegerType.readChars, readUnsigned]
  | unsigned rest unsigned => simp [IntegerType.readChars, unsigned]
  | @stop sign rest j c fits stop =>
    have hr : rest ≠ [] := by
      rintro rfl
      exact not_stopsAt_nil stop.stops
    rw [readChars_of_fits fits hr]
    exact readDigits_eq_error_iff.mpr ⟨j, c, stop, rfl⟩

lemma readChars_eq_error_iff : t.readChars cs = .error e ↔ t.Refuses cs e := by
  refine ⟨fun h => ?_, Refuses.readChars⟩
  rcases t.readChars_cases cs with ⟨e', he, refuses⟩ | ⟨sign, rest, rfl, fits, hr⟩
  · obtain rfl := Except.error.inj (he.symm.trans h)
    exact refuses
  · rw [readChars_of_fits fits hr] at h
    obtain ⟨j, c, stop, rfl⟩ := readDigits_eq_error_iff.mp h
    exact .stop fits stop

/-- Digits read as their exact value, and any other text is refused at the first character that fails. -/
theorem read_exact (t : IntegerType) (s : String) :
    (∀ v, t.read s = .ok v ↔ ∃ sign digits, t.Spells s.toList sign digits v) ∧
    (∀ v, t.Holds v → t.read (toString v) = .ok v) ∧
    ∀ e, t.read s = .error e ↔ t.Refuses s.toList e :=
  ⟨fun _ => readChars_eq_ok_iff, fun _ => read_toString, fun _ => readChars_eq_error_iff⟩

theorem least_exact : i8.Holds (-128) ∧ i8.read (toString (-128 : ℤ)) = .ok (-128) ∧
    i8.read "-00128" = .ok (-128) ∧
    i8.FirstStop true 0 "0129x".toList 3 '9' ∧ i8.read "-0129x" = .error .negativeOverflow := by
  have hh : i8.Holds (-128) := by decide
  have spells : i8.Spells "-00128".toList .minus "00128".toList (-128) :=
    ⟨rfl, fun _ => rfl, by decide, List.all_eq_true.mp (by decide), by decide, hh⟩
  have stop : i8.FirstStop true 0 "0129x".toList 3 '9' := by
    refine ⟨⟨rfl, by decide⟩, ?_⟩
    rintro i hi c ⟨hc, hs⟩
    obtain rfl | rfl | rfl : i = 0 ∨ i = 1 ∨ i = 2 := by omega
    all_goals
      obtain rfl := Option.some.inj hc
      revert hs
      decide
  have refuses : i8.Refuses "-0129x".toList .negativeOverflow :=
    Refuses.stop (show Sign.minus.Fits i8 "0129x".toList from ⟨fun _ => rfl, by decide⟩) stop
  obtain ⟨hok, htext, -⟩ := read_exact i8 "-00128"
  obtain ⟨-, -, herror⟩ := read_exact i8 "-0129x"
  exact ⟨hh, htext _ hh, (hok _).mpr ⟨_, _, spells⟩, stop, (herror _).mpr refuses⟩

end CommandLine.IntegerType
