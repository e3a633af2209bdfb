import CommandLine.Proofs.Emission.Refinement
import CommandLine.Proofs.ClosedForm
import CommandLine.Proofs.Field

/-! A default is what the option would hold had its text been typed in front. -/

namespace CommandLine

open Source

def Props.without (p : Props) (key : String) : Props :=
  ⟨p.entries.filter fun e => e.1 ≠ key⟩

namespace FieldDecl

variable {decl decl₀ : FieldDecl} {owner ident : Ident} {kind : Kind} {p : Props} {f : Field}
  {source : String}

def HasDefault (decl : FieldDecl) (source : String) : Prop :=
  ∃ p, decl.props = .ok p ∧ p.get? "default" = some source

structure OmitsDefault (decl decl₀ : FieldDecl) : Prop where
  ident : decl₀.ident = decl.ident
  type : decl₀.type = decl.type
  props : ∃ p, decl.props = .ok p ∧ decl₀.props = .ok (p.without "default")

def OmitsDefaultOf (i : Ident) (decl decl₀ : FieldDecl) : Prop :=
  if decl.ident = some i then decl.OmitsDefault decl₀ else decl₀ = decl

namespace Settings

variable {s s' : Settings} {key value : String} {entries : List (String × String)}

lemma set_withDefault (hk : key ≠ "default") (o : Option String) :
    Settings.set { s with default := o } key value = (s.set key value).map fun s' => { s' with default := o } := by
  rw [set, set]
  split_ifs <;> try rfl
  cases Role.ofName? value <;> rfl

lemma setAll_without (h : s.setAll entries = .ok s') (o : Option String) :
    Settings.setAll { s with default := o } (entries.filter fun e => e.1 ≠ "default") =
      .ok { s' with default := o } := by
  induction entries generalizing s with
  | nil =>
    obtain rfl : s = s' := Except.ok.inj h
    rfl
  | cons e entries ih =>
    obtain ⟨t, ht, h⟩ := setAll_cons_eq_ok h
    by_cases hk : e.1 = "default"
    · obtain rfl : { s with default := some e.2 } = t := by
        rw [hk] at ht
        exact Except.ok.inj ht
      have hrest := ih h
      rwa [List.filter_cons_of_neg (by simpa using hk)]
    · rw [List.filter_cons_of_pos (by simpa using hk), setAll, set_withDefault hk, ht]
      exact ih h

end Settings

lemma fieldOfProps_without (h : fieldOfProps ident kind p = .ok f) :
    fieldOfProps ident kind (p.without "default") = .ok { f with default := none } := by
  obtain ⟨s, hs, -, hr, hf⟩ := fieldOfProps_eq_ok h
  have hs₀ := Settings.setAll_without hs none
  rw [fieldOfProps, Props.without, hs₀, hf]
  simp only [Settings.defaultValue, hr, ↓reduceIte]

lemma OmitsDefault.field (h : decl.OmitsDefault decl₀) (hf : decl.field owner = .ok f) :
    decl₀.field owner = .ok { f with default := none } := by
  obtain ⟨p, hi, hk, hp, hf⟩ := field_eq_ok hf
  obtain ⟨p', hp', hp₀⟩ := h.props
  obtain rfl := Except.ok.inj (hp.symm.trans hp')
  simp only [FieldDecl.field, namedField, h.ident, hi, h.type, hk, hp₀, fieldOfProps_without hf]
  rfl

lemma OmitsDefaultOf.field {i : Ident} (h : OmitsDefaultOf i decl decl₀) (hf : decl.field owner = .ok f) :
    decl₀.field owner = .ok { f with default := if f.ident = i then none else f.default } := by
  obtain ⟨p, hi, -, -, -⟩ := field_eq_ok hf
  simp only [OmitsDefaultOf, hi, Option.some.injEq] at h
  split_ifs at h with he
  · rw [h.field hf, if_pos he]
  · rw [h, hf, if_neg he]

lemma HasDefault.default (h : decl.HasDefault source) (hf : decl.field owner = .ok f) :
    ∃ v, f.default = some v ∧ f.kind.convert source = .ok v := by
  obtain ⟨p, -, -, hp, hf⟩ := field_eq_ok hf
  obtain ⟨p', hp', hg⟩ := h
  obtain rfl := Except.ok.inj (hp.symm.trans hp')
  obtain ⟨s, hs, hd, -, -⟩ := fieldOfProps_eq_ok hf
  have hsource : s.default = some source := by
    rw [settings_of_setAll (nodup_keys_of_props hp) hs, settingsOf_default, hg]
  obtain ⟨v, hr, hv⟩ := (Settings.defaultValue_eq_ok hd).2 source hsource
  exact ⟨v, hv, (Kind.readDefault_eq_ok_iff.mp hr).1⟩

end FieldDecl

namespace Command

variable {c : Command} {m : Mark} {item : String} {items : List String} {f : Field} {s : State} {v : Value}
  {source : String}

def withDefaults (c : Command) (δ : Field → Option Value) : Command :=
  { c with fields := c.fields.map fun f => { f with default := δ f } }

def withoutDefault (c : Command) (i : Ident) : Command :=
  c.withDefaults fun f => if f.ident = i then none else f.default

section

variable (c : Command) (δ : Field → Option Value)

lemma longOptions_withDefaults :
    (c.withDefaults δ).longOptions = c.longOptions.map fun f => { f with default := δ f } := by
  rw [longOptions_eq, longOptions_eq]
  exact List.filter_map

lemma shortOptions_withDefaults :
    (c.withDefaults δ).shortOptions = c.shortOptions.map fun f => { f with default := δ f } := by
  rw [shortOptions_eq, shortOptions_eq]
  exact List.filter_map

lemma arguments_withDefaults :
    (c.withDefaults δ).arguments = c.arguments.map fun f => { f with default := δ f } := by
  rw [arguments_eq, arguments_eq]
  exact List.filter_map

lemma route_withDefaults (item : String) : (c.withDefaults δ).route item = c.route item := by
  rw [route, route, longOptions_withDefaults, shortOptions_withDefaults, List.isEmpty_map, List.isEmpty_map]

lemma readOption_map (table : List Field) (label : Field → String) (hl : ∀ f, label { f with default := δ f } = label f)
    (unknown : String → String → ArgsError) (s : State) (text item : String) :
    readOption (table.map fun f => { f with default := δ f }) label unknown s text item =
      readOption table label unknown s text item := by
  simp only [readOption, List.find?_map, Function.comp_def, hl]
  cases table.find? fun f => label f = (Item.splitOption text).1 with
  | none => rfl
  | some f => cases (Item.splitOption text).2 <;> rfl

lemma step_withDefaults (s : State) (item : String) : (c.withDefaults δ).step s item = c.step s item := by
  rw [step, step, route_withDefaults]
  cases c.route item with
  | long text =>
    rw [longOptions_withDefaults]
    exact readOption_map δ _ _ (fun _ => rfl) _ s text item
  | short text =>
    rw [shortOptions_withDefaults]
    exact readOption_map δ _ _ (fun _ => rfl) _ s text item
  | positional payload => rfl

lemma steps_withDefaults (s : State) (items : List String) :
    (c.withDefaults δ).steps s items = c.steps s items := by
  induction items generalizing s with
  | nil => rfl
  | cons item items ih => simp only [steps, step_withDefaults, ih]

end

section

variable (distinct : (c.fields.map Field.ident).Nodup) (hf : f ∈ c.fields)
include distinct hf

lemma arguments_withoutDefault (ho : f.isOption = true) : (c.withoutDefault f.ident).arguments = c.arguments := by
  rw [withoutDefault, arguments_withDefaults]
  refine (List.map_congr_left fun g hg => ?_).trans c.arguments.map_id
  obtain ⟨hg, ha⟩ := mem_arguments_iff.mp hg
  have hne : g.ident ≠ f.ident := by
    intro hi
    obtain rfl := eq_of_ident_eq distinct hg hf hi
    simp [isOption_eq, ha] at ho
  rw [if_neg hne, id]

lemma initialRecord_withoutDefault (hv : f.default = some v) :
    (c.withoutDefault f.ident).initialRecord.assign f.ident v = c.initialRecord := by
  have hr : (c.withoutDefault f.ident).initialRecord = c.fields.map fun g =>
      (g.ident, (if g.ident = f.ident then none else g.default).getD g.kind.zero) := List.map_map
  rw [hr, Record.assign_map, initialRecord]
  refine List.map_congr_left fun g hg => congrArg (g.ident, ·) ?_
  by_cases hi : g.ident = f.ident
  · rw [if_pos hi, eq_of_ident_eq distinct hg hf hi, Field.initialValue, hv, Option.getD_some]
  · rw [if_neg hi, if_neg hi, Field.initialValue]

lemma step_withoutDefault (hv : f.default = some v) (hs : f.kind.convert source = .ok v) (h : c.Offers m f) :
    (c.withoutDefault f.ident).step (c.withoutDefault f.ident).start (m.write (f.label m) source) = .ok c.start := by
  have ho : f.isOption = true := (mem_table h.first.mem).2
  rw [withoutDefault, step_withDefaults, step_of_gives (h.gives source), store_eq_ok_iff]
  refine ⟨v, hs, ?_⟩
  rw [← withoutDefault, start, start, initialRecord_withoutDefault distinct hf hv,
    arguments_withoutDefault distinct hf ho]

lemma run_withoutDefault (hv : f.default = some v) (hs : f.kind.convert source = .ok v) (h : c.Offers m f)
    (items : List String) :
    (c.withoutDefault f.ident).run (m.write (f.label m) source :: items) = c.run items := by
  rw [run, run, steps, step_withoutDefault distinct hf hv hs h]
  exact congrArg _ (c.steps_withDefaults _ _ _)

end

end Command

namespace Definition

variable {d d₀ : Definition} {c : Command} {decl : FieldDecl} {f : Field} {source : String}

structure OmitsDefault (d d₀ : Definition) (i : Ident) : Prop where
  heading : d₀ = { d with fields := d₀.fields }
  fields : List.Forall₂ (FieldDecl.OmitsDefaultOf i) d.fields d₀.fields

lemma map_field_of_omits {i owner : Ident} {decls decls₀ : List FieldDecl} {fields : List Field}
    (h : List.Forall₂ (FieldDecl.OmitsDefaultOf i) decls decls₀)
    (hf : decls.map (fun decl => decl.field owner) = fields.map .ok) :
    decls₀.map (fun decl => decl.field owner) =
      (fields.map fun f => { f with default := if f.ident = i then none else f.default }).map .ok := by
  induction h generalizing fields with
  | nil =>
    obtain rfl : fields = [] := by simpa using hf.symm
    rfl
  | cons hd _ ih =>
    cases fields with
    | nil => cases hf
    | cons f fields =>
      obtain ⟨hdecl, hf⟩ := List.cons.inj hf
      exact congrArg₂ List.cons (hd.field hdecl) (ih hf)

lemma OmitsDefault.command {i : Ident} (h : d.OmitsDefault d₀ i) (accepted : d.command = .ok c) :
    d₀.command = .ok (c.withoutDefault i) := by
  obtain ⟨ho, hg, hr, hc⟩ := command_eq_ok_iff.mp accepted
  obtain ⟨hs, hn⟩ := outerErrors_eq_nil_iff.mp ho
  rw [h.heading, command_eq_ok_iff]
  exact ⟨outerErrors_eq_nil_iff.mpr ⟨hs, hn⟩, hg, map_field_of_omits h.fields hr, by rw [hc]; rfl⟩

/-- A default does what its text would do, typed in front. -/
theorem run_default_eq_run_typed (accepted : d.command = .ok c) (distinct : (c.fields.map Field.ident).Nodup)
    (declared : decl ∈ d.fields) (hf : decl.field d.ident = .ok f) (hsource : decl.HasDefault source)
    (omits : d.OmitsDefault d₀ f.ident) :
    d₀.command = .ok (c.withoutDefault f.ident) ∧
      ∃ p p₀, c.program = .ok p ∧ (c.withoutDefault f.ident).program = .ok p₀ ∧
        ∀ m, c.Offers m f → ∀ items,
          (c.withoutDefault f.ident).run (m.write (f.label m) source :: items) = c.run items ∧
            p.run? items = some (c.run items) ∧
            p₀.run? (m.write (f.label m) source :: items) = some (c.run items) := by
  have accepted₀ := omits.command accepted
  obtain ⟨g, hg, hfg⟩ := exists_field_of_mem accepted declared
  obtain rfl := Except.ok.inj (hf.symm.trans hfg)
  obtain ⟨v, hv, hs⟩ := hsource.default hf
  have hp := c.program_eq
  have hp₀ := (c.withoutDefault f.ident).program_eq
  refine ⟨accepted₀, _, _, hp, hp₀, fun m offered items => ?_⟩
  have hrun := Command.run_withoutDefault distinct hg hv hs offered items
  exact ⟨hrun, run?_eq accepted hp items, hrun ▸ run?_eq accepted₀ hp₀ _⟩

def ratioDecl (metadata : String) : FieldDecl where
  ident := some ⟨"ratio", false⟩
  type := [.ident ⟨"f32", false⟩]
  attributes := [⟨[.ident ⟨"cli", false⟩], .list .parenthesis [.literal (.ofString metadata)]⟩]

def blended (metadata : String) : Definition where
  ident := ⟨"Blended", false⟩
  fields := [ratioDecl metadata, { ident := some ⟨"input", false⟩, type := [.ident ⟨"String", false⟩] }]

def ratioField : Field where
  ident := ⟨"ratio", false⟩
  name := ""
  short := "-r"
  kind := .float .single
  role := .option
  default := some (.float .single (.finite false 13421773 (-27)))

def blendedCommand : Command where
  ident := ⟨"Blended", false⟩
  fields := [ratioField, { ident := ⟨"input", false⟩, name := "input", kind := .text }]

theorem blended_default_eq_typed : (blended "type:option name: short:-r").command =
      .ok (blendedCommand.withoutDefault ⟨"ratio", false⟩) ∧
    blendedCommand.Offers .short ratioField ∧
    (blendedCommand.withoutDefault ⟨"ratio", false⟩).run ["--r=.1", "\\-in"] = .ok [
      (⟨"ratio", false⟩, .float .single (.finite false 13421773 (-27))), (⟨"input", false⟩, .text "-in")] := by
  have accepted : (blended "type:option name: short:-r default:.1").command = .ok blendedCommand := by
    rw [command_eq_ok_iff]
    exact ⟨by decide +kernel, by decide +kernel, by decide +kernel, rfl⟩
  have distinct : (blendedCommand.fields.map Field.ident).Nodup := by decide
  have hf : (ratioDecl "type:option name: short:-r default:.1").field ⟨"Blended", false⟩ = .ok ratioField := by
    decide +kernel
  have hsource : (ratioDecl "type:option name: short:-r default:.1").HasDefault ".1" :=
    ⟨⟨[("type", "option"), ("name", ""), ("short", "-r"), ("default", ".1")]⟩, by decide +kernel, by decide +kernel⟩
  have hratio : (ratioDecl "type:option name: short:-r default:.1").OmitsDefault
      (ratioDecl "type:option name: short:-r") :=
    ⟨rfl, rfl, ⟨[("type", "option"), ("name", ""), ("short", "-r"), ("default", ".1")]⟩, by decide +kernel,
      by decide +kernel⟩
  have omits : (blended "type:option name: short:-r default:.1").OmitsDefault (blended "type:option name: short:-r")
      ⟨"ratio", false⟩ := ⟨rfl, .cons hratio (.cons rfl .nil)⟩
  have offers : blendedCommand.Offers .short ratioField :=
    ⟨Command.find?_table_eq_some_iff.mp (by decide +kernel), by decide +kernel, by decide +kernel⟩
  obtain ⟨accepted₀, p, p₀, hp, hp₀, hrun⟩ := run_default_eq_run_typed accepted distinct List.mem_cons_self hf
    hsource omits
  obtain ⟨he, -, -⟩ := hrun .short offers ["\\-in"]
  have hitem : Mark.short.write (ratioField.label .short) ".1" = "--r=.1" := by decide +kernel
  rw [hitem] at he
  refine ⟨accepted₀, offers, he.trans ?_⟩
  decide +kernel

end Definition

end CommandLine
