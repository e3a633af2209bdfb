import CommandLine.Proofs.ClosedForm
import CommandLine.Proofs.Kind
import CommandLine.Proofs.Number.Integer

/-! A command line written for given values is read as these values, in whatever order its items stand as long as the
arguments keep theirs. -/

namespace CommandLine

namespace Kind

inductive Spells : Kind → Value → String → Prop
  | text (s : String) : Spells .text (.text s) s
  | integer {t : IntegerType} {n : ℤ} (holds : t.Holds n) : Spells (.integer t) (.integer n) (toString n)
  | float {w : FloatWidth} {x : FloatValue} {s : String} (reads : w.read s = .ok x) :
      Spells (.float w) (.float w x) s
  | boolean (b : Bool) : Spells .boolean (.boolean b) (if b then "true" else "false")

lemma Spells.convert {k : Kind} {v : Value} {s : String} (h : k.Spells v s) : k.convert s = .ok v := by
  cases h with
  | text s => rfl
  | integer holds =>
    exact convert_eq_ok_iff.mpr (Or.inr (Or.inl ⟨_, _, rfl, IntegerType.read_toString holds, rfl⟩))
  | float reads => exact convert_eq_ok_iff.mpr (Or.inr (Or.inr (Or.inl ⟨_, _, rfl, reads, rfl⟩)))
  | boolean b =>
    have hb : readBoolean (if b then "true" else "false") = .ok b := by cases b <;> decide
    exact convert_eq_ok_iff.mpr (Or.inr (Or.inr (Or.inr ⟨b, rfl, hb, rfl⟩)))

end Kind

namespace Command

structure Wording (c : Command) where
  content : Field → Value
  text : Field → String
  mark : Field → Mark
  spells : ∀ f ∈ c.fields, f.kind.Spells (content f) (text f)
  offers : ∀ f ∈ c.fields, f.isOption = true → c.Offers (mark f) f

variable {c : Command} {order : List Field} {f : Field}

lemma isPositional_escaped (c : Command) (s : String) : c.IsPositional ("\\" ++ s) := by
  refine ⟨?_, ?_⟩ <;> rintro ⟨-, hp⟩ <;> simp [Mark.text] at hp

lemma stripEscape_escaped (s : String) : Item.stripEscape ("\\" ++ s) = s := by
  simp [Item.stripEscape]

namespace Wording

def item (w : c.Wording) (f : Field) : String :=
  if f.isOption then (w.mark f).write (f.label (w.mark f)) (w.text f) else "\\" ++ w.text f

variable (w : c.Wording)

lemma item_gives (hf : f ∈ c.fields) (ho : f.isOption = true) : c.Gives (w.item f) f (w.text f) := by
  rw [item, if_pos ho]
  exact (w.offers f hf ho).gives _

lemma item_positional (ha : f.isArgument = true) :
    c.IsPositional (w.item f) ∧ Item.stripEscape (w.item f) = w.text f := by
  have ho : f.isOption = false := by rw [isOption_eq, ha]; rfl
  rw [item, if_neg (by simp [ho])]
  exact ⟨c.isPositional_escaped _, stripEscape_escaped _⟩

lemma isPositional_item (hf : f ∈ c.fields) : c.IsPositional (w.item f) ↔ f.isArgument = true := by
  refine ⟨fun hp => ?_, fun ha => (w.item_positional ha).1⟩
  by_contra ha
  have ho : f.isOption = true := by simpa [isOption_eq] using ha
  exact (w.item_gives hf ho).not_isPositional hp

variable (all : order.Perm c.fields)
include all

lemma payloads_items (turns : order.filter Field.isArgument = c.arguments) :
    c.payloads (order.map w.item) = c.arguments.map w.text := by
  have hfilter : (order.map w.item).filter (fun item => c.IsPositional item) =
      (order.filter Field.isArgument).map w.item := by
    rw [List.filter_map]
    refine congrArg _ (List.filter_congr fun f hf => ?_)
    rw [Function.comp_apply, Bool.eq_iff_iff, decide_eq_true_eq]
    exact w.isPositional_item (all.mem_iff.mp hf)
  rw [payloads, hfilter, turns, List.map_map]
  refine List.map_congr_left fun f hf => ?_
  exact (w.item_positional (mem_arguments_iff.mp hf).2).2

lemma accepts_items (turns : order.filter Field.isArgument = c.arguments) : c.Accepts (order.map w.item) where
  options item hi hn := by
    obtain ⟨f, hf, rfl⟩ := List.mem_map.mp hi
    have hf := all.mem_iff.mp hf
    rw [w.isPositional_item hf] at hn
    have ho : f.isOption = true := by simpa [isOption_eq] using hn
    exact ⟨f, w.text f, w.content f, w.item_gives hf ho, (w.spells f hf).convert⟩
  count := by rw [w.payloads_items all turns, List.length_map]
  arguments i f payload hf hp := by
    rw [w.payloads_items all turns, List.getElem?_map, hf, Option.map_some] at hp
    obtain rfl := Option.some.inj hp
    exact ⟨w.content f, (w.spells f (mem_of_argument hf).1).convert⟩

lemma holds_items (turns : order.filter Field.isArgument = c.arguments) :
    c.Holds (order.map w.item) w.content where
  given f hf ho value hl := by
    obtain ⟨before, item, after, hi, hg, -⟩ := hl
    obtain ⟨g, hm, rfl⟩ := List.mem_map.mp (show item ∈ order.map w.item by simp [hi])
    have hm := all.mem_iff.mp hm
    have hn : ¬ g.isArgument = true := fun ha => hg.not_isPositional ((w.isPositional_item hm).mpr ha)
    -- only its own item gives the field a value
    obtain ⟨rfl, rfl⟩ := hg.unique (w.item_gives hm (by simpa [isOption_eq] using hn))
    exact (w.spells f hf).convert
  notGiven f hf ho hn :=
    absurd (w.item_gives hf ho) (hn _ (List.mem_map_of_mem (all.mem_iff.mpr hf)) _)
  filled i f payload hf hp := by
    rw [w.payloads_items all turns, List.getElem?_map, hf, Option.map_some] at hp
    obtain rfl := Option.some.inj hp
    exact (w.spells f (mem_of_argument hf).1).convert
  unfilled i f hf hp := by
    rw [w.payloads_items all turns, List.getElem?_map, hf] at hp
    simp at hp

end Wording

/-- The values of a wording come back, wherever its options stand. -/
theorem run_wording (distinct : (c.fields.map Field.ident).Nodup) (w : c.Wording) (all : order.Perm c.fields)
    (turns : order.filter Field.isArgument = c.arguments) :
    c.run (order.map w.item) = .ok (c.fields.map fun f => (f.ident, w.content f)) ∧
      ∀ d : Definition, d.command = .ok c → ∃ p, c.program = .ok p ∧
        p.run? (order.map w.item) = some (.ok (c.fields.map fun f => (f.ident, w.content f))) := by
  have hrun := run_of_holds distinct (w.accepts_items all turns) (w.holds_items all turns)
  refine ⟨hrun, fun d hd => ?_⟩
  obtain ⟨p, hp, hr⟩ := Definition.exists_program hd
  exact ⟨p, hp, (hr _).trans (congrArg some hrun)⟩

def sizeOption : Field where
  ident := ⟨"size", false⟩
  name := "size"
  short := "s"
  kind := .integer .i8
  role := .option

def labelOption : Field where
  ident := ⟨"label", false⟩
  name := "label"
  kind := .text
  role := .option

def ratioOption : Field where
  ident := ⟨"ratio", false⟩
  name := "ratio"
  kind := .float .single
  role := .option

def inputArgument : Field where
  ident := ⟨"input", false⟩
  name := "input"
  kind := .text

def forceArgument : Field where
  ident := ⟨"force", false⟩
  name := "force"
  kind := .boolean

def mixed : Command where
  ident := ⟨"Mixed", false⟩
  fields := [sizeOption, inputArgument, labelOption, forceArgument, ratioOption]

def hostile : mixed.Wording where
  content f :=
    if f = sizeOption then .integer (-128)
    else if f = labelOption then .text "--=\\"
    else if f = ratioOption then .float .single (.nan true)
    else if f = inputArgument then .text "\\--size=1"
    else .boolean false
  text f :=
    if f = sizeOption then toString (-128 : ℤ)
    else if f = labelOption then "--=\\"
    else if f = ratioOption then "-NaN"
    else if f = inputArgument then "\\--size=1"
    else "false"
  mark f := if f = sizeOption then .short else .long
  spells := by
    have hs : ∀ f ∈ mixed.fields, f = sizeOption ∨ f = inputArgument ∨ f = labelOption ∨ f = forceArgument ∨
        f = ratioOption := by simp [mixed]
    intro f hf
    rcases hs f hf with rfl | rfl | rfl | rfl | rfl
    · exact .integer (by decide)
    · exact .text _
    · exact .text _
    · exact .boolean false
    · exact .float (by decide)
  offers := by
    have ho : ∀ f ∈ mixed.fields, f.isOption = true → f = sizeOption ∨ f = labelOption ∨ f = ratioOption := by
      decide
    intro f hf hf'
    rcases ho f hf hf' with rfl | rfl | rfl
    · exact ⟨find?_table_eq_some_iff.mp (by decide +kernel), by decide +kernel, fun _ _ => by decide +kernel⟩
    · exact ⟨find?_table_eq_some_iff.mp (by decide +kernel), by decide +kernel, by decide⟩
    · exact ⟨find?_table_eq_some_iff.mp (by decide +kernel), by decide +kernel, by decide⟩

theorem run_hostile : (mixed.fields.map Field.ident).Nodup ∧
    [labelOption, inputArgument, sizeOption, forceArgument, ratioOption].Perm mixed.fields ∧
    [labelOption, inputArgument, sizeOption, forceArgument, ratioOption].filter Field.isArgument = mixed.arguments ∧
    mixed.run ["--label=--=\\", "\\\\--size=1", "-s=-128", "\\false", "--ratio=-NaN"] = .ok [
      (⟨"size", false⟩, .integer (-128)), (⟨"input", false⟩, .text "\\--size=1"), (⟨"label", false⟩, .text "--=\\"),
      (⟨"force", false⟩, .boolean false), (⟨"ratio", false⟩, .float .single (.nan true))] := by
  have distinct : (mixed.fields.map Field.ident).Nodup := by decide
  have all : [labelOption, inputArgument, sizeOption, forceArgument, ratioOption].Perm mixed.fields := by decide
  have turns : [labelOption, inputArgument, sizeOption, forceArgument, ratioOption].filter Field.isArgument =
      mixed.arguments := by decide
  have hitems : [labelOption, inputArgument, sizeOption, forceArgument, ratioOption].map hostile.item =
      ["--label=--=\\", "\\\\--size=1", "-s=-128", "\\false", "--ratio=-NaN"] := by decide +kernel
  refine ⟨distinct, all, turns, ?_⟩
  rw [← hitems, (run_wording distinct hostile all turns).1]
  decide +kernel

end Command

end CommandLine
