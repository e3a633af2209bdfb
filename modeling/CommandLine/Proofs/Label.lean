import CommandLine.Proofs.Words
import CommandLine.Proofs.Source.Lexer
import Mathlib.Data.Bool.AllAny

namespace CommandLine

namespace Label

open Text Words

variable {name : String} {c d p x : Char} {before : Option Char} {cs xs ys run : List Char}

def isSeparator (c : Char) : Bool :=
  c = '_' || c = '-' || c = ' '

def isSmall (c : Char) : Bool :=
  c.isLower || c.isDigit

def piece (before : Option Char) (c : Char) : List Char :=
  if isSeparator c then ['-']
  else if c.isUpper && before.any isSmall then ['-', c.toLower]
  else [c.toLower]

def pieces (before : Option Char) : List Char → List Char
  | [] => []
  | c :: cs => piece before c ++ pieces (some c) cs

section Characters

lemma toNat_of_isSmall (h : isSmall c = true) : c.toNat < 0x80 := by
  rcases Bool.or_eq_true_iff.mp h with hl | hd
  · exact (Source.Lexer.toNat_of_isAlpha (Bool.or_eq_true_iff.mpr (.inr hl))).2
  · have hd := Source.Lexer.toNat_of_isDigit hd
    omega

lemma isSeparator_of_isSmall (h : isSmall c = true) : isSeparator c = false :=
  forall_ascii (p := fun c => isSmall c = true → isSeparator c = false) (by decide +kernel) (toNat_of_isSmall h) h

lemma isUpper_of_isSmall (h : isSmall c = true) : c.isUpper = false :=
  forall_ascii (p := fun c => isSmall c = true → c.isUpper = false) (by decide +kernel) (toNat_of_isSmall h) h

lemma toLower_of_isSmall (h : isSmall c = true) : c.toLower = c :=
  forall_ascii (p := fun c => isSmall c = true → c.toLower = c) (by decide +kernel) (toNat_of_isSmall h) h

lemma toNat_of_isUpper (h : c.isUpper = true) : c.toNat < 0x80 :=
  (Source.Lexer.toNat_of_isAlpha (Bool.or_eq_true_iff.mpr (.inl h))).2

lemma isSeparator_of_isUpper (h : c.isUpper = true) : isSeparator c = false :=
  forall_ascii (p := fun c => c.isUpper = true → isSeparator c = false) (by decide +kernel) (toNat_of_isUpper h) h

lemma isSmall_of_isUpper (h : c.isUpper = true) : isSmall c = false :=
  forall_ascii (p := fun c => c.isUpper = true → isSmall c = false) (by decide +kernel) (toNat_of_isUpper h) h

lemma isSmall_of_isSeparator (h : isSeparator c = true) : isSmall c = false := by
  by_contra hs
  rw [isSeparator_of_isSmall (by simpa using hs)] at h
  cases h

lemma isUpper_of_isSeparator (h : isSeparator c = true) : c.isUpper = false := by
  by_contra hu
  rw [isSeparator_of_isUpper (by simpa using hu)] at h
  cases h

structure Fits (c : Char) : Prop where
  ascii : c.toNat < 0x80
  upper : c.isUpper = false
  underscore : c ≠ '_'
  space : c ≠ ' '

instance (c : Char) : Decidable (Fits c) :=
  decidable_of_iff (c.toNat < 0x80 ∧ c.isUpper = false ∧ c ≠ '_' ∧ c ≠ ' ')
    ⟨fun ⟨ha, hu, h, hs⟩ => ⟨ha, hu, h, hs⟩, fun ⟨ha, hu, h, hs⟩ => ⟨ha, hu, h, hs⟩⟩

lemma fits_toLower (hc : c.toNat < 0x80) (h : isSeparator c = false) : Fits c.toLower ∧ c.toLower ≠ '-' :=
  forall_ascii (p := fun c => isSeparator c = false → Fits c.toLower ∧ c.toLower ≠ '-') (by decide +kernel) hc h

end Characters

section Pieces

lemma piece_separator (h : isSeparator c = true) (before : Option Char) : piece before c = ['-'] := by
  rw [piece, if_pos h]

lemma piece_of_not_upper (h : isSeparator c = false) (hu : c.isUpper = false) (before : Option Char) :
    piece before c = [c.toLower] := by
  simp [piece, h, hu]

lemma piece_small (h : isSmall c = true) (before : Option Char) : piece before c = [c] := by
  rw [piece_of_not_upper (isSeparator_of_isSmall h) (isUpper_of_isSmall h), toLower_of_isSmall h]

lemma piece_upper (h : c.isUpper = true) (before : Option Char) :
    piece before c = (if before.any isSmall then ['-'] else []) ++ [c.toLower] := by
  cases hb : before.any isSmall <;> simp [piece, isSeparator_of_isUpper h, h, hb]

lemma pieces_append (before : Option Char) (xs ys : List Char) :
    pieces before (xs ++ ys) = pieces before xs ++ pieces (xs.getLast?.or before) ys := by
  induction xs generalizing before with
  | nil => rfl
  | cons x xs ih =>
    have hl : (x :: xs).getLast?.or before = xs.getLast?.or (some x) := by
      cases hxs : xs.getLast? <;> simp [List.getLast?_cons, hxs]
    rw [List.cons_append, pieces, ih, pieces, hl, List.append_assoc]

lemma fits_of_mem_pieces (ascii : ∀ c ∈ cs, c.toNat < 0x80) (hx : x ∈ pieces before cs) : Fits x := by
  induction cs generalizing before with
  | nil => cases hx
  | cons c cs ih =>
    obtain ⟨hc, hcs⟩ := List.forall_mem_cons.mp ascii
    rcases List.mem_append.mp hx with hx | hx
    · cases hs : isSeparator c with
      | true =>
        rw [piece_separator hs, List.mem_singleton] at hx
        rw [hx]
        decide
      | false =>
        rw [piece, hs] at hx
        have hx : x = '-' ∨ x = c.toLower := by
          split_ifs at hx <;> simp_all
        rcases hx with rfl | rfl
        · decide
        · exact (fits_toLower hc hs).1
    · exact ih hcs hx

lemma filter_pieces (ascii : ∀ c ∈ cs, c.toNat < 0x80) (before : Option Char) :
    (pieces before cs).filter (· ≠ '-') = (cs.filter fun c => !isSeparator c).map Char.toLower := by
  induction cs generalizing before with
  | nil => rfl
  | cons c cs ih =>
    obtain ⟨hc, hcs⟩ := List.forall_mem_cons.mp ascii
    rw [pieces, List.filter_append, ih hcs]
    cases hs : isSeparator c with
    | true =>
      rw [piece_separator hs, List.filter_cons_of_neg (by simp), List.filter_cons_of_neg (by simp [hs])]
      rfl
    | false =>
      have hl : (piece before c).filter (· ≠ '-') = [c.toLower] := by
        have hd := (fits_toLower hc hs).2
        rw [piece, hs]
        split_ifs <;> simp_all
      rw [hl, List.filter_cons_of_pos (by simp [hs])]
      rfl

lemma pieces_of_fits (h : ∀ c ∈ cs, Fits c) (before : Option Char) : pieces before cs = cs := by
  induction cs generalizing before with
  | nil => rfl
  | cons c cs ih =>
    obtain ⟨hc, hcs⟩ := List.forall_mem_cons.mp h
    have hp : piece before c = [c] := by
      cases hs : isSeparator c with
      | true =>
        have hd : c = '-' := by simpa [isSeparator, hc.underscore, hc.space] using hs
        rw [piece_separator hs, hd]
      | false =>
        have hl := forall_ascii (p := fun c => c.isUpper = false → c.toLower = c) (by decide +kernel) hc.ascii hc.upper
        rw [piece_of_not_upper hs hc.upper, hl]
    rw [pieces, hp, ih hcs]
    rfl

lemma getLast?_pieces (before : Option Char) (cs : List Char) :
    (pieces before cs).getLast? = cs.getLast?.map fun c => if isSeparator c then '-' else c.toLower := by
  rcases List.eq_nil_or_concat cs with rfl | ⟨xs, x, rfl⟩
  · rfl
  · have hp : ∀ o : Option Char, (piece o x).getLast? = some (if isSeparator x then '-' else x.toLower) := by
      intro o
      rw [piece]
      split_ifs <;> rfl
    rw [List.concat_eq_append, pieces_append, pieces, pieces, List.append_nil, List.getLast?_append, hp,
      List.getLast?_concat]
    rfl

lemma pieces_of_upper (hp : p.isUpper = true) (h : ∀ c ∈ run, c.isUpper = true) :
    pieces (some p) run = run.map Char.toLower := by
  induction run generalizing p with
  | nil => rfl
  | cons c run ih =>
    obtain ⟨hc, hrun⟩ := List.forall_mem_cons.mp h
    rw [pieces, piece_upper hc, Option.any_some, isSmall_of_isUpper hp, ih hc hrun]
    rfl

lemma exists_pieces_upper (h : ∀ c ∈ run, c.isUpper = true) (before : Option Char) :
    ∃ lead ∈ [[], ['-']], pieces before run = lead ++ run.map Char.toLower := by
  cases run with
  | nil => exact ⟨[], by simp, rfl⟩
  | cons c run =>
    obtain ⟨hc, hrun⟩ := List.forall_mem_cons.mp h
    refine ⟨if before.any isSmall then ['-'] else [], ?_, ?_⟩
    · split_ifs <;> simp
    · rw [pieces, piece_upper hc, pieces_of_upper hc hrun, List.append_assoc]
      rfl

end Pieces

section Boundaries

lemma any_drops_boundaries (c : Char) : (boundaries.any fun b => b.drops [c]) = isSeparator c := by
  simp [boundaries, Boundary.drops, isSeparator, Bool.or_assoc]

lemma endsBefore_boundaries (hc : c.toNat < 0x80) (hd : d.toNat < 0x80) (xs : List Cluster) :
    endsBefore boundaries [c] ([d] :: xs) = (d.isUpper && isSmall c) := by
  rw [isSmall, Bool.and_or_distrib_left, Bool.and_comm, Bool.and_comm d.isUpper]
  simp [endsBefore, boundaries, Boundary.cuts, Cluster.isUpper_singleton hd, Cluster.isLower_singleton hc,
    Cluster.isDigit_singleton]

def starts (before : Option Char) (cs : List Char) : Bool :=
  cs.head?.any Char.isUpper && before.any isSmall

lemma endsBefore_eq_starts (hc : c.toNat < 0x80) (ascii : ∀ c ∈ cs, c.toNat < 0x80) :
    endsBefore boundaries [c] (cs.map fun d => [d]) = starts (some c) cs := by
  cases cs with
  | nil => rfl
  | cons d cs => exact endsBefore_boundaries hc (ascii d List.mem_cons_self) _

lemma starts_separator (h : isSeparator c = true) (before : Option Char) (cs : List Char) :
    starts before (c :: cs) = false ∧ starts (some c) cs = false :=
  ⟨by simp [starts, isUpper_of_isSeparator h], by simp [starts, isSmall_of_isSeparator h]⟩

lemma pieces_eq_spell (ascii : ∀ c ∈ cs, c.toNat < 0x80) (before : Option Char) :
    pieces before cs = (if starts before cs then ['-'] else []) ++ spell boundaries '-' cs := by
  induction cs generalizing before with
  | nil => simp [pieces, starts, spell]
  | cons c cs ih =>
    obtain ⟨hc, hcs⟩ := List.forall_mem_cons.mp ascii
    rw [pieces, ih hcs, spell, any_drops_boundaries, endsBefore_eq_starts hc hcs]
    cases hs : isSeparator c with
    | true =>
      obtain ⟨hb, ha⟩ := starts_separator hs before cs
      rw [piece_separator hs, hb, ha]
      rfl
    | false =>
      have hp : piece before c = (if starts before (c :: cs) then ['-'] else []) ++ [c.toLower] := by
        cases hu : c.isUpper with
        | true => rw [piece_upper hu, starts, List.head?_cons, Option.any_some, hu, Bool.true_and]
        | false => simp [piece_of_not_upper hs hu, starts, hu]
      rw [hp]
      cases starts (some c) cs <;> simp

lemma long_of_ascii (ascii : ∀ c ∈ name.toList, c.toNat < 0x80) :
    long name = String.ofList (pieces none name.toList) := by
  have keeps : ∀ b ∈ boundaries, b.drops ['\r'] = false ∧ b.drops ['\n'] = false := by decide
  have hs : starts none name.toList = false := Bool.and_false _
  rw [long, join_of_ascii keeps ascii, pieces_eq_spell ascii, hs]
  rfl

lemma toList_long (ascii : ∀ c ∈ name.toList, c.toNat < 0x80) : (long name).toList = pieces none name.toList := by
  rw [long_of_ascii ascii, String.toList_ofList]

lemma ascii_of_append (ascii : ∀ c ∈ name.toList, c.toNat < 0x80) (h : name.toList = xs ++ ys) :
    ∀ c ∈ (String.ofList xs).toList, c.toNat < 0x80 := by
  intro c hc
  rw [String.toList_ofList] at hc
  exact ascii c (by rw [h]; exact List.mem_append_left _ hc)

lemma toList_long_append (ascii : ∀ c ∈ name.toList, c.toNat < 0x80) (h : name.toList = xs ++ ys) :
    (long name).toList = (long (String.ofList xs)).toList ++ pieces xs.getLast? ys := by
  rw [toList_long ascii, toList_long (ascii_of_append ascii h), String.toList_ofList, h, pieces_append, Option.or_none]

lemma startsWord_iff (ascii : ∀ c ∈ name.toList, c.toNat < 0x80) :
    (∀ x ∈ (long name).toList.getLast?, x = '-') ↔ ∀ x ∈ name.toList.getLast?, isSeparator x = true := by
  rw [toList_long ascii, getLast?_pieces]
  cases hl : name.toList.getLast? with
  | none => simp
  | some x =>
    have hx := ascii x (List.mem_of_getLast? hl)
    cases hs : isSeparator x with
    | true => simp [hs]
    | false => simp [hs, (fits_toLower hx hs).2]

end Boundaries

theorem long_one_pass (ascii : ∀ c ∈ name.toList, c.toNat < 0x80) :
    (long name).toList = pieces none name.toList ∧
    (long name).toList.filter (· ≠ '-') = (name.toList.filter fun c => !isSeparator c).map Char.toLower ∧
    (∀ c ∈ (long name).toList, c.isUpper = false ∧ c ≠ '_' ∧ c ≠ ' ') ∧
    (∀ xs d ys, name.toList = xs ++ d :: ys → d.isDigit = true →
      ∃ rest, (long name).toList = (long (String.ofList xs)).toList ++ d :: rest ∧
        ((∀ x ∈ (long (String.ofList xs)).toList.getLast?, x = '-') ↔ ∀ x ∈ xs.getLast?, isSeparator x = true)) ∧
    (∀ xs run ys, name.toList = xs ++ run ++ ys → (∀ c ∈ run, c.isUpper = true) →
      ∃ lead ∈ [[], ['-']], ∃ rest,
        (long name).toList = (long (String.ofList xs)).toList ++ lead ++ run.map Char.toLower ++ rest) ∧
    long (long name) = long name := by
  have hlong := toList_long ascii
  have hfits : ∀ c ∈ (long name).toList, Fits c := by
    intro c hc
    rw [hlong] at hc
    exact fits_of_mem_pieces ascii hc
  refine ⟨hlong, ?_, ?_, ?_, ?_, ?_⟩
  · rw [hlong]
    exact filter_pieces ascii none
  · intro c hc
    exact ⟨(hfits c hc).upper, (hfits c hc).underscore, (hfits c hc).space⟩
  · intro xs d ys hn hd
    have hword := startsWord_iff (ascii_of_append ascii hn)
    rw [String.toList_ofList] at hword
    refine ⟨pieces (some d) ys, ?_, hword⟩
    rw [toList_long_append ascii hn, pieces, piece_small (by simp [isSmall, hd])]
    rfl
  · intro xs run ys hn hrun
    obtain ⟨lead, hlead, hp⟩ := exists_pieces_upper hrun xs.getLast?
    rw [List.append_assoc] at hn
    refine ⟨lead, hlead, pieces (run.getLast?.or xs.getLast?) ys, ?_⟩
    rw [toList_long_append ascii hn, pieces_append, hp]
    simp only [List.append_assoc]
  · rw [long_of_ascii fun c hc => (hfits c hc).ascii, pieces_of_fits hfits, String.ofList_toList]

theorem long_maxTcpConns : long "_MaxTCPConns2Go\r\n9 B" = "-max-tcpconns2-go\r\n9-b" ∧
    long "-max-tcpconns2-go\r\n9-b" = "-max-tcpconns2-go\r\n9-b" := by
  have ascii : ∀ c ∈ "_MaxTCPConns2Go\r\n9 B".toList, c.toNat < 0x80 :=
    List.all_iff_forall_prop.mp (by decide +kernel)
  obtain ⟨hlong, -, -, -, -, hlabel⟩ := long_one_pass ascii
  have hl : long "_MaxTCPConns2Go\r\n9 B" = "-max-tcpconns2-go\r\n9-b" := by
    rw [← String.toList_inj, hlong]
    decide +kernel
  rw [hl] at hlabel
  exact ⟨hl, hlabel⟩

end Label

end CommandLine
