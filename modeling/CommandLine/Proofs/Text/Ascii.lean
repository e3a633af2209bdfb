import CommandLine.Label
import Mathlib.Data.List.Basic

/-! Clusters of a text. Those of ASCII text are single characters but for the end of a line. -/

namespace CommandLine

namespace Text

variable {c d : Char} {cs : List Char} {xs : List Cluster}

lemma forall_ascii {p : Char → Prop} (h : ∀ n : Fin 0x80, p (Char.ofNat n)) (hc : c.toNat < 0x80) : p c := by
  have hn := h ⟨c.toNat, hc⟩
  rwa [Char.ofNat_toNat] at hn

lemma lowerFrom_of_ascii (h : ∀ c ∈ cs, c.toNat < 0x80) (before : List Char) :
    lowerFrom before cs = cs.map Char.toLower := by
  induction cs generalizing before with
  | nil => rfl
  | cons c cs ih =>
    obtain ⟨hc, hcs⟩ := List.forall_mem_cons.mp h
    have hs : c ≠ 'Σ' := by
      rintro rfl
      exact absurd hc (by decide)
    rw [lowerFrom, if_neg hs, lowerChar, if_pos hc, ih hcs]
    rfl

lemma lower_of_ascii (h : ∀ c ∈ cs, c.toNat < 0x80) : lower cs = cs.map Char.toLower :=
  lowerFrom_of_ascii h []

lemma flatten_clustersFrom (before : List ClusterRole) (cs : List Char) : (clustersFrom before cs).flatten = cs := by
  induction cs generalizing before with
  | nil => rfl
  | cons c cs ih =>
    cases cs with
    | nil => rfl
    | cons d cs =>
      have ih := ih (.ofChar c :: before)
      unfold clustersFrom
      cases hx : clustersFrom (.ofChar c :: before) (d :: cs) with
      | nil =>
        rw [hx] at ih
        cases ih
      | cons cluster rest =>
        rw [hx, List.flatten_cons] at ih
        simp only [hx]
        split_ifs <;> simp [ih]

lemma mem_of_mem_clusters {x : Cluster} (hx : x ∈ clusters cs) (hc : c ∈ x) : c ∈ cs := by
  rw [← flatten_clustersFrom [] cs]
  exact List.mem_flatten.mpr ⟨x, hx, hc⟩

inductive IsAsciiRole (c : Char) : ClusterRole → Prop
  | carriageReturn (h : c = '\r') : IsAsciiRole c .carriageReturn
  | lineFeed (h : c = '\n') : IsAsciiRole c .lineFeed
  | control (hr : c ≠ '\r') (hn : c ≠ '\n') : IsAsciiRole c .control
  | other (hr : c ≠ '\r') (hn : c ≠ '\n') : IsAsciiRole c .other

lemma isAsciiRole_ofChar (hc : c.toNat < 0x80) : IsAsciiRole c (.ofChar c) := by
  rw [ClusterRole.ofChar, if_pos hc, ClusterRole.ofAscii]
  split_ifs with hr hn
  · exact .carriageReturn hr
  · exact .lineFeed hn
  · exact .control hr hn
  · exact .other hr hn

lemma joins_ascii_iff (hc : c.toNat < 0x80) (hd : d.toNat < 0x80) (before : List ClusterRole) :
    ClusterRole.joins (.ofChar c :: before) (.ofChar d) = true ↔ c = '\r' ∧ d = '\n' := by
  have hrc := isAsciiRole_ofChar hc
  have hrd := isAsciiRole_ofChar hd
  generalize ClusterRole.ofChar c = a at hrc
  generalize ClusterRole.ofChar d = b at hrd
  cases hrc <;> cases hrd <;>
    simp_all [ClusterRole.joins, ClusterRole.isBreaking, ClusterRole.isTrailing, ClusterRole.formSyllable]

inductive Grouped : List Cluster → List Char → Prop
  | nil : Grouped [] []
  | single {xs : List Cluster} {cs : List Char} (c : Char) (h : Grouped xs cs) : Grouped ([c] :: xs) (c :: cs)
  | lineEnd {xs : List Cluster} {cs : List Char} (h : Grouped xs cs) :
      Grouped (['\r', '\n'] :: xs) ('\r' :: '\n' :: cs)

lemma grouped_clustersFrom (h : ∀ c ∈ cs, c.toNat < 0x80) (before : List ClusterRole) :
    Grouped (clustersFrom before cs) cs := by
  induction cs generalizing before with
  | nil => exact .nil
  | cons c cs ih =>
    obtain ⟨hc, hcs⟩ := List.forall_mem_cons.mp h
    have hg := ih hcs (.ofChar c :: before)
    cases cs with
    | nil => exact .single c .nil
    | cons d cs =>
      have hj := joins_ascii_iff hc (hcs d List.mem_cons_self) before
      unfold clustersFrom
      cases hx : clustersFrom (.ofChar c :: before) (d :: cs) with
      | nil =>
        rw [hx] at hg
        cases hg
      | cons cluster rest =>
        rw [hx] at hg
        simp only [hx]
        split_ifs with hjoin
        · obtain ⟨rfl, rfl⟩ := hj.mp hjoin
          cases hg with
          | single _ hg => exact .lineEnd hg
        · exact .single c hg

end Text

namespace Cluster

variable {c : Char}

lemma isUpper_singleton (hc : c.toNat < 0x80) : isUpper [c] = c.isUpper :=
  Text.forall_ascii (p := fun c => isUpper [c] = c.isUpper) (by decide +kernel) hc

lemma isLower_singleton (hc : c.toNat < 0x80) : isLower [c] = c.isLower :=
  Text.forall_ascii (p := fun c => isLower [c] = c.isLower) (by decide +kernel) hc

lemma isDigit_singleton (c : Char) : isDigit [c] = c.isDigit := by
  rw [isDigit, List.all_cons, List.all_nil, Bool.and_true]

end Cluster

end CommandLine
