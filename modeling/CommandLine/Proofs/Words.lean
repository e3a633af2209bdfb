import CommandLine.Proofs.Text.Ascii

/-! Words in one pass. -/

namespace CommandLine

namespace Cluster

structure IsPlain (x : Cluster) : Prop where
  upper : x.isUpper = false
  lower : x.isLower = false
  digit : x.isDigit = false

lemma isPlain_carriageReturn : IsPlain ['\r'] := by
  constructor <;> decide

lemma isPlain_lineFeed : IsPlain ['\n'] := by
  constructor <;> decide

lemma isPlain_lineEnd : IsPlain ['\r', '\n'] := by
  constructor <;> decide

end Cluster

namespace Words

open Text

variable {bs : List Boundary} {sign c : Char} {cs : List Char} {x y : Cluster} {w xs ys : List Cluster}
  {ws : List (List Cluster)} {name : String}

def spell (bs : List Boundary) (sign : Char) : List Char → List Char
  | [] => []
  | c :: cs =>
    if bs.any fun b => b.drops [c] then sign :: spell bs sign cs
    else if endsBefore bs [c] (cs.map fun d => [d]) then c.toLower :: sign :: spell bs sign cs
    else c.toLower :: spell bs sign cs

lemma cuts_of_isPlain_left (h : x.IsPlain) (b : Boundary) : b.cuts x y ys = false := by
  cases b <;> simp [Boundary.cuts, h.upper, h.lower, h.digit]

lemma cuts_of_isPlain_right (h : y.IsPlain) (b : Boundary) : b.cuts x y ys = false := by
  cases b <;> simp [Boundary.cuts, h.upper, h.lower, h.digit]

lemma endsBefore_of_isPlain (h : x.IsPlain) (xs : List Cluster) : endsBefore bs x xs = false := by
  cases xs with
  | nil => rfl
  | cons y xs => exact List.any_eq_false.mpr fun b _ => by simp [cuts_of_isPlain_left h]

lemma endsBefore_cons_of_isPlain (h : y.IsPlain) (xs : List Cluster) : endsBefore bs x (y :: xs) = false :=
  List.any_eq_false.mpr fun b _ => by simp [cuts_of_isPlain_right h]

lemma cuts_congr (h : xs.head?.any Cluster.isLower = ys.head?.any Cluster.isLower) (b : Boundary) :
    b.cuts x y xs = b.cuts x y ys := by
  cases b <;> simp [Boundary.cuts, h]

lemma head_grouped (h : Grouped xs cs) :
    xs.head?.any Cluster.isLower = (cs.map fun d => [d]).head?.any Cluster.isLower := by
  cases h with
  | nil => rfl
  | single c h => rfl
  | lineEnd h => exact Cluster.isPlain_lineEnd.lower.trans Cluster.isPlain_carriageReturn.lower.symm

lemma endsBefore_grouped (h : Grouped xs cs) (x : Cluster) :
    endsBefore bs x xs = endsBefore bs x (cs.map fun d => [d]) := by
  cases h with
  | nil => rfl
  | single c h =>
    have hcuts : ∀ b : Boundary, b.cuts x [c] _ = b.cuts x [c] _ := cuts_congr (head_grouped h)
    simp only [List.map_cons, endsBefore, hcuts]
  | lineEnd h =>
    rw [List.map_cons, endsBefore_cons_of_isPlain Cluster.isPlain_lineEnd,
      endsBefore_cons_of_isPlain Cluster.isPlain_carriageReturn]

lemma exists_split (bs : List Boundary) (xs : List Cluster) : ∃ w ws, split bs xs = w :: ws := by
  cases xs with
  | nil => exact ⟨[], [], rfl⟩
  | cons x xs =>
    rw [split]
    split_ifs
    · exact ⟨_, _, rfl⟩
    · exact ⟨_, _, rfl⟩
    · cases split bs xs with
      | nil => exact ⟨_, _, rfl⟩
      | cons w ws => exact ⟨_, _, rfl⟩

lemma mem_of_mem_split (hw : w ∈ split bs xs) (hx : x ∈ w) : x ∈ xs := by
  induction xs generalizing w with
  | nil =>
    rw [split, List.mem_singleton] at hw
    rwa [hw] at hx
  | cons y xs ih =>
    obtain ⟨v, vs, hv⟩ := exists_split bs xs
    rw [split, hv] at hw
    rw [hv] at ih
    split_ifs at hw
    · rcases List.mem_cons.mp hw with rfl | hw
      · cases hx
      · exact List.mem_cons_of_mem _ (ih hw hx)
    · rcases List.mem_cons.mp hw with rfl | hw
      · exact List.mem_cons.mpr (.inl (List.mem_singleton.mp hx))
      · exact List.mem_cons_of_mem _ (ih hw hx)
    · rcases List.mem_cons.mp hw with rfl | hw
      · rcases List.mem_cons.mp hx with rfl | hx
        · exact List.mem_cons_self
        · exact List.mem_cons_of_mem _ (ih List.mem_cons_self hx)
      · exact List.mem_cons_of_mem _ (ih (List.mem_cons_of_mem _ hw) hx)

lemma exists_mem_split (hx : x ∈ xs) (keeps : ∀ b ∈ bs, b.drops x = false) : ∃ w ∈ split bs xs, x ∈ w := by
  induction xs with
  | nil => cases hx
  | cons y xs ih =>
    obtain ⟨v, vs, hv⟩ := exists_split bs xs
    rw [hv] at ih
    rw [split, hv]
    rcases List.mem_cons.mp hx with rfl | hx
    · have hdrop : (bs.any fun b => b.drops x) = false := List.any_eq_false.mpr fun b hb => by simp [keeps b hb]
      rw [hdrop, if_neg Bool.false_ne_true]
      split_ifs
      · exact ⟨[x], List.mem_cons_self, List.mem_singleton.mpr rfl⟩
      · exact ⟨x :: v, List.mem_cons_self, List.mem_cons_self⟩
    · obtain ⟨w, hw, hx⟩ := ih hx
      split_ifs
      · exact ⟨w, List.mem_cons_of_mem _ hw, hx⟩
      · exact ⟨w, List.mem_cons_of_mem _ hw, hx⟩
      · rcases List.mem_cons.mp hw with rfl | hw
        · exact ⟨_, List.mem_cons_self, List.mem_cons_of_mem _ hx⟩
        · exact ⟨w, List.mem_cons_of_mem _ hw, hx⟩

def small (w : List Cluster) : List Char :=
  w.flatten.map Char.toLower

lemma intercalate_nil_cons (sign : Char) (w : List Char) (ws : List (List Char)) :
    [sign].intercalate ([] :: w :: ws) = sign :: [sign].intercalate (w :: ws) :=
  List.intercalate_cons_cons

lemma intercalate_append_cons (sign : Char) (v w : List Char) (ws : List (List Char)) :
    [sign].intercalate ((v ++ w) :: ws) = v ++ [sign].intercalate (w :: ws) := by
  cases ws with
  | nil => simp only [List.intercalate_singleton]
  | cons u us => simp only [List.intercalate_cons_cons, List.append_assoc]

lemma forall_mem_intercalate {p : Char → Prop} {vs : List (List Char)} (hsign : p sign)
    (h : ∀ v ∈ vs, ∀ x ∈ v, p x) : ∀ x ∈ [sign].intercalate vs, p x := by
  induction vs with
  | nil => simp
  | cons v vs ih =>
    obtain ⟨hv, hvs⟩ := List.forall_mem_cons.mp h
    cases vs with
    | nil => rwa [List.intercalate_singleton]
    | cons u us =>
      intro x hx
      rw [List.intercalate_cons_cons, List.append_assoc] at hx
      rcases List.mem_append.mp hx with hx | hx
      · exact hv x hx
      · rcases List.mem_cons.mp hx with rfl | hx
        · exact hsign
        · exact ih hvs x hx

lemma mem_intercalate {v : List Char} {vs : List (List Char)} (hv : v ∈ vs) (hc : c ∈ v) :
    c ∈ [sign].intercalate vs := by
  induction vs with
  | nil => cases hv
  | cons u us ih =>
    cases us with
    | nil => rwa [List.intercalate_singleton, ← List.mem_singleton.mp hv]
    | cons w ws =>
      rw [List.intercalate_cons_cons, List.append_assoc]
      rcases List.mem_cons.mp hv with rfl | hv
      · exact List.mem_append_left _ hc
      · exact List.mem_append_right _ (List.mem_append_right _ (ih hv))

lemma intercalate_split_cons (bs : List Boundary) (sign : Char) (x : Cluster) (xs : List Cluster) :
    [sign].intercalate ((split bs (x :: xs)).map small) =
      if bs.any fun b => b.drops x then sign :: [sign].intercalate ((split bs xs).map small)
      else if endsBefore bs x xs then x.map Char.toLower ++ sign :: [sign].intercalate ((split bs xs).map small)
      else x.map Char.toLower ++ [sign].intercalate ((split bs xs).map small) := by
  obtain ⟨w, ws, hw⟩ := exists_split bs xs
  rw [split, hw]
  split_ifs
  · exact intercalate_nil_cons sign _ _
  · have hx : small [x] = x.map Char.toLower ++ [] := by simp [small]
    rw [List.map_cons, hx, intercalate_append_cons, List.map_cons, intercalate_nil_cons]
  · have hx : small (x :: w) = x.map Char.toLower ++ small w := by simp [small]
    rw [extendFirst, List.map_cons, hx, intercalate_append_cons, List.map_cons]

lemma not_drops_lineEnd (bs : List Boundary) : (bs.any fun b => b.drops ['\r', '\n']) = false :=
  List.any_eq_false.mpr fun b _ => by cases b <;> simp [Boundary.drops]

section

variable (keeps : ∀ b ∈ bs, b.drops ['\r'] = false ∧ b.drops ['\n'] = false)
include keeps

lemma intercalate_split (h : Grouped xs cs) : [sign].intercalate ((split bs xs).map small) = spell bs sign cs := by
  induction h with
  | nil => rfl
  | single c h ih => rw [intercalate_split_cons, endsBefore_grouped h, ih, spell]; rfl
  | @lineEnd xs cs h ih =>
    have hr : (bs.any fun b => b.drops ['\r']) = false := List.any_eq_false.mpr fun b hb => by simp [keeps b hb]
    have hn : (bs.any fun b => b.drops ['\n']) = false := List.any_eq_false.mpr fun b hb => by simp [keeps b hb]
    rw [intercalate_split_cons, not_drops_lineEnd, endsBefore_of_isPlain Cluster.isPlain_lineEnd, ih,
      spell, hr, endsBefore_of_isPlain Cluster.isPlain_carriageReturn, spell, hn,
      endsBefore_of_isPlain Cluster.isPlain_lineFeed]
    rfl

lemma join_of_ascii (ascii : ∀ c ∈ name.toList, c.toNat < 0x80) :
    join bs sign name = String.ofList (spell bs sign name.toList) := by
  have hg : Grouped (clusters name.toList) name.toList := grouped_clustersFrom ascii []
  have hsmall : (split bs (clusters name.toList)).map (fun w => lower w.flatten) =
      (split bs (clusters name.toList)).map small := by
    refine List.map_congr_left fun w hw => lower_of_ascii fun c hc => ascii c ?_
    obtain ⟨x, hx, hc⟩ := List.mem_flatten.mp hc
    exact mem_of_mem_clusters (mem_of_mem_split hw hx) hc
  rw [join, hsmall, intercalate_split keeps hg]

end

end Words

end CommandLine
