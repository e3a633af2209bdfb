import CommandLine.Proofs.Definition
import CommandLine.Proofs.Metadata.Scan

namespace CommandLine

open Source

def FirstFault {α ε : Type} (finds : List α → α → ε → Prop) (as : List α) (fault : ε) : Prop :=
  ∃ before a after, as = before ++ a :: after ∧ finds before a fault ∧
    ∀ front b rest, before = front ++ b :: rest → ∀ fault, ¬ finds front b fault

section

variable {α ε : Type} {finds : List α → α → ε → Prop} {a : α} {as : List α} {fault : ε}

lemma not_firstFault_nil : ¬ FirstFault finds [] fault := by
  rintro ⟨before, a, after, h, -⟩
  simp at h

lemma firstFault_cons_iff : FirstFault finds (a :: as) fault ↔ finds [] a fault ∨
    (∀ fault, ¬ finds [] a fault) ∧ FirstFault (fun before => finds (a :: before)) as fault := by
  refine ⟨?_, ?_⟩
  · rintro ⟨before, b, after, h, hb, hf⟩
    cases before with
    | nil =>
      obtain ⟨rfl, -⟩ := List.cons.inj h
      exact Or.inl hb
    | cons c before =>
      obtain ⟨rfl, ht⟩ := List.cons.inj h
      refine Or.inr ⟨hf [] a before rfl, before, b, after, ht, hb, fun front b rest hr => ?_⟩
      exact hf (a :: front) b rest (by rw [hr]; rfl)
  · rintro (ha | ⟨ha, before, b, after, rfl, hb, hf⟩)
    · exact ⟨[], a, as, rfl, ha, fun front b rest h => by simp at h⟩
    · refine ⟨a :: before, b, after, rfl, hb, fun front c rest h => ?_⟩
      cases front with
      | nil =>
        obtain ⟨rfl, -⟩ := List.cons.inj h
        exact ha
      | cons c' front =>
        obtain ⟨rfl, ht⟩ := List.cons.inj h
        exact hf front c rest ht

section

variable {finds : α → ε → Prop} {fault' : ε}

lemma firstFault_skip (h : ∀ fault, ¬ finds a fault) :
    FirstFault (fun _ => finds) (a :: as) fault ↔ FirstFault (fun _ => finds) as fault := by
  rw [firstFault_cons_iff, or_iff_right (h fault), and_iff_right h]

lemma firstFault_stop (h : ∀ fault, finds a fault ↔ fault = fault') :
    FirstFault (fun _ => finds) (a :: as) fault ↔ fault = fault' := by
  rw [firstFault_cons_iff, h]
  refine or_iff_left fun hn => ?_
  exact hn.1 fault' ((h fault').mpr rfl)

lemma exists_firstFault_iff :
    (∃ fault, FirstFault (fun _ => finds) as fault) ↔ ∃ a ∈ as, ∃ fault, finds a fault := by
  induction as with
  | nil => simp [not_firstFault_nil]
  | cons a as ih =>
    by_cases h : ∃ fault, finds a fault
    · obtain ⟨fault, ha⟩ := h
      exact iff_of_true ⟨fault, firstFault_cons_iff.mpr (Or.inl ha)⟩ ⟨a, by simp, fault, ha⟩
    · have hn : ∀ fault, ¬ finds a fault := fun fault ha => h ⟨fault, ha⟩
      simp only [firstFault_skip hn, ih, List.mem_cons, exists_eq_or_imp, hn, exists_false, false_or]

end

end

namespace Attribute

inductive Faulty (before : List Attribute) (a : Attribute) : AttributeFault → Prop
  | malformed {fault : AttributeFault} (h : a.metadata = .error fault) : Faulty before a fault
  | repeated {s : String} (h : a.metadata = .ok s) (second : before ≠ []) : Faulty before a .duplicate

variable {before : List Attribute} {a : Attribute} {fault : AttributeFault}

lemma faulty_iff : Faulty before a fault ↔
    a.metadata = .error fault ∨ (∃ s, a.metadata = .ok s) ∧ before ≠ [] ∧ fault = .duplicate := by
  refine ⟨fun h => ?_, ?_⟩
  · cases h with
    | malformed h => exact Or.inl h
    | repeated h second => exact Or.inr ⟨⟨_, h⟩, second, rfl⟩
  · rintro (h | ⟨⟨s, h⟩, second, rfl⟩)
    · exact .malformed h
    · exact .repeated h second

end Attribute

namespace Props

inductive Faulty : String × String → FieldFault → Prop
  | unknown {key value : String} (h : key ∉ ["short", "default", "type", "name"]) :
      Faulty (key, value) (.undefinedProperty key)
  | role {value : String} (h : value ∉ ["option", "argument"]) : Faulty ("type", value) (.undefinedRole value)

lemma faulty_iff {key value : String} {fault : FieldFault} : Faulty (key, value) fault ↔
    (key ∉ ["short", "default", "type", "name"] ∧ fault = .undefinedProperty key) ∨
      (key = "type" ∧ value ∉ ["option", "argument"] ∧ fault = .undefinedRole value) := by
  refine ⟨fun h => ?_, ?_⟩
  · cases h with
    | unknown h => exact Or.inl ⟨h, rfl⟩
    | role h => exact Or.inr ⟨rfl, h, rfl⟩
  · rintro (⟨h, rfl⟩ | ⟨rfl, h, rfl⟩)
    · exact .unknown h
    · exact .role h

end Props

lemma Role.ofName?_eq_none_iff {value : String} : Role.ofName? value = none ↔ value ∉ ["option", "argument"] := by
  rw [ofName?]
  split_ifs <;> simp [*]

namespace FieldDecl

inductive Check
  | name | type | attributes | metadata | properties | default | reachability
  deriving DecidableEq

def Check.all : List Check :=
  [name, type, attributes, metadata, properties, default, reachability]

def metadataAttributes (d : FieldDecl) : List Attribute :=
  d.attributes.filter fun a => a.isNamed "cli"

def Carries (d : FieldDecl) (s : String) : Prop :=
  ∃ a, d.metadataAttributes = [a] ∧ a.metadata = .ok s

def Decodes (d : FieldDecl) (p : Props) : Prop :=
  (d.metadataAttributes = [] ∧ p = {}) ∨ ∃ s, d.Carries s ∧ Metadata.parse s = .ok p

def Finds (d : FieldDecl) : Check → FieldFault → Prop
  | .name, fault => d.ident = none ∧ fault = .nameless
  | .type, fault => Kind.ofType? d.type = none ∧ fault = .unsupportedType (Row.typeText d.type)
  | .attributes, fault => ∃ cause, FirstFault Attribute.Faulty d.metadataAttributes cause ∧ fault = .attribute cause
  | .metadata, fault => ∃ s cause, d.Carries s ∧ Metadata.parse s = .error cause ∧ fault = .metadata cause
  | .properties, fault => ∃ p, d.Decodes p ∧ FirstFault (fun _ => Props.Faulty) p.entries fault
  | .default, fault => ∃ p kind source cause, d.Decodes p ∧ Kind.ofType? d.type = some kind ∧
      p.get? "default" = some source ∧ kind.readDefault source = .error cause ∧ fault = .invalidDefault cause
  | .reachability, fault => ∃ p ident, d.Decodes p ∧ d.ident = some ident ∧ p.get? "type" = some "option" ∧
      (p.get? "name").getD ident.name = "" ∧ (p.get? "short").getD "" = "" ∧ fault = .unreachable

structure Describes (d : FieldDecl) (pairs : List (String × String)) (f : Field) : Prop where
  ident : d.ident = some f.ident
  kind : Kind.ofType? d.type = some f.kind
  name : f.name = (pairs.reverse.lookup "name").getD f.ident.name
  short : f.short = (pairs.reverse.lookup "short").getD ""
  role : f.role = .option ↔ pairs.reverse.lookup "type" = some "option"
  noDefault : pairs.reverse.lookup "default" = none → f.default = none
  default : ∀ source, pairs.reverse.lookup "default" = some source →
    ∃ v, f.kind.readDefault source = .ok v ∧ f.default = some v

variable {d : FieldDecl} {owner ident : Ident} {kind : Kind} {p : Props} {f : Field} {fault : FieldFault}
  {a : Attribute} {as : List Attribute} {cause : AttributeFault} {o : Option String} {s : String}
  {entries : List (String × String)}

lemma findMetadata_filter (found : Option String) (as : List Attribute) :
    findMetadata found (as.filter fun a => a.isNamed "cli") = findMetadata found as := by
  induction as generalizing found with
  | nil => rfl
  | cons a as ih => by_cases h : a.isNamed "cli" = true <;> simp [findMetadata, h, ih]

section

variable (named : ∀ a ∈ as, a.isNamed "cli" = true)
include named

lemma findMetadata_some (s : String) : findMetadata (some s) as = .error cause ↔
    FirstFault (fun before => Attribute.Faulty (a :: before)) as cause := by
  cases as with
  | nil => simp [findMetadata, not_firstFault_nil]
  | cons b as =>
    have hb : b.isNamed "cli" = true := named b (by simp)
    rw [firstFault_cons_iff]
    cases hm : b.metadata with
    | error cause' => simp [findMetadata, hb, hm, Attribute.faulty_iff, eq_comm]
    | ok s' => simp [findMetadata, hb, hm, Attribute.faulty_iff, eq_comm]

lemma findMetadata_eq_error_iff : findMetadata none as = .error cause ↔ FirstFault Attribute.Faulty as cause := by
  cases as with
  | nil => simp [findMetadata, not_firstFault_nil]
  | cons a as =>
    have ha : a.isNamed "cli" = true := named a (by simp)
    rw [firstFault_cons_iff]
    cases hm : a.metadata with
    | error cause' => simp [findMetadata, ha, hm, Attribute.faulty_iff, eq_comm]
    | ok s =>
      rw [← findMetadata_some (fun b hb => named b (by simp [hb])) s]
      simp [findMetadata, ha, hm, Attribute.faulty_iff]

lemma findMetadata_eq_ok_iff : findMetadata none as = .ok o ↔
    (as = [] ∧ o = none) ∨ ∃ a s, as = [a] ∧ a.metadata = .ok s ∧ o = some s := by
  cases as with
  | nil => simp [findMetadata, eq_comm]
  | cons a as =>
    have ha : a.isNamed "cli" = true := named a (by simp)
    cases hm : a.metadata with
    | error cause' => simp [findMetadata, ha, hm]
    | ok s =>
      cases as with
      | nil => simp [findMetadata, ha, hm, eq_comm]
      | cons b as =>
        have hb : b.isNamed "cli" = true := named b (by simp)
        cases hm' : b.metadata <;> simp [findMetadata, ha, hm, hb, hm']

end

section

variable (d : FieldDecl)

lemma named_metadataAttributes : ∀ a ∈ d.metadataAttributes, a.isNamed "cli" = true :=
  fun _ ha => (List.mem_filter.mp ha).2

lemma findMetadata_metadataAttributes : findMetadata none d.metadataAttributes = findMetadata none d.attributes :=
  findMetadata_filter none d.attributes

lemma firstFault_metadataAttributes_iff :
    FirstFault Attribute.Faulty d.metadataAttributes cause ↔ findMetadata none d.attributes = .error cause := by
  rw [← findMetadata_eq_error_iff d.named_metadataAttributes, findMetadata_metadataAttributes]

lemma metadataAttributes_eq_nil_iff : d.metadataAttributes = [] ↔ findMetadata none d.attributes = .ok none := by
  rw [← findMetadata_metadataAttributes, findMetadata_eq_ok_iff d.named_metadataAttributes]
  simp

lemma carries_iff : d.Carries s ↔ findMetadata none d.attributes = .ok (some s) := by
  rw [← findMetadata_metadataAttributes, findMetadata_eq_ok_iff d.named_metadataAttributes, Carries]
  simp

lemma props_eq_ok_iff : d.props = .ok p ↔ d.Decodes p := by
  rw [props, Decodes, metadataAttributes_eq_nil_iff]
  simp only [carries_iff]
  cases findMetadata none d.attributes with
  | error cause => simp
  | ok o =>
    cases o with
    | none => simp [eq_comm]
    | some s => cases hs : Metadata.parse s <;> simp [hs]

lemma props_eq_error_iff : d.props = .error fault ↔ d.Finds .attributes fault ∨ d.Finds .metadata fault := by
  simp only [props, Finds, carries_iff, firstFault_metadataAttributes_iff]
  cases findMetadata none d.attributes with
  | error cause => simp [eq_comm]
  | ok o =>
    cases o with
    | none => simp
    | some s => cases hs : Metadata.parse s <;> simp [hs, eq_comm]

end

namespace Settings

variable {s s' : Settings} {key value : String}

def updated (s : Settings) (find : String → Option String) : Settings where
  name := (find "name").getD s.name
  short := (find "short").getD s.short
  role := (find "type").elim s.role fun value => (Role.ofName? value).getD .argument
  default := (find "default").or s.default

lemma updated_updated (s : Settings) (find find' : String → Option String) :
    (s.updated find).updated find' = s.updated fun key => (find' key).or (find key) := by
  cases hn : find' "name" <;> cases hs : find' "short" <;> cases ht : find' "type" <;>
    simp [updated, hn, hs, ht, Option.or_assoc]

lemma set_eq_error_iff : s.set key value = .error fault ↔ Props.Faulty (key, value) fault := by
  rw [Props.faulty_iff, ← Role.ofName?_eq_none_iff, set]
  split_ifs with hs hd hn ht
  · simp [hs]
  · simp [hd]
  · simp [hn]
  · cases Role.ofName? value <;> simp [ht, eq_comm]
  · simp [hs, hd, hn, ht, eq_comm]

lemma updated_of_set (h : s.set key value = .ok s') : s' = s.updated fun k => if k = key then some value else none := by
  rw [set] at h
  split_ifs at h with hs hd hn ht
  · obtain rfl := Except.ok.inj h
    simp [updated, hs]
  · obtain rfl := Except.ok.inj h
    simp [updated, hd]
  · obtain rfl := Except.ok.inj h
    simp [updated, hn]
  · cases hr : Role.ofName? value with
    | none => simp [hr] at h
    | some r =>
      obtain rfl := Except.ok.inj (by simpa only [hr] using h)
      simp [updated, ht, hr]

lemma setAll_eq_error_iff : s.setAll entries = .error fault ↔ FirstFault (fun _ => Props.Faulty) entries fault := by
  induction entries generalizing s with
  | nil => simp [setAll, not_firstFault_nil]
  | cons e entries ih =>
    rw [firstFault_cons_iff, setAll, ← set_eq_error_iff]
    simp only [← set_eq_error_iff (s := s)]
    cases hs : s.set e.1 e.2 with
    | error fault' => simp
    | ok t => simp [ih]

lemma setAll_cons_eq_ok (h : s.setAll ((key, value) :: entries) = .ok s') :
    ∃ t, s.set key value = .ok t ∧ t.setAll entries = .ok s' := by
  rw [setAll] at h
  split at h
  · cases h
  · exact ⟨_, ‹_›, h⟩

lemma updated_of_setAll (h : s.setAll entries = .ok s') :
    s' = s.updated fun key => entries.reverse.lookup key := by
  induction entries generalizing s with
  | nil =>
    obtain rfl : s = s' := Except.ok.inj h
    rfl
  | cons e entries ih =>
    obtain ⟨t, ht, h⟩ := setAll_cons_eq_ok h
    rw [ih h, updated_of_set ht, updated_updated]
    refine congrArg _ (funext fun key => ?_)
    rw [List.reverse_cons, List.lookup_append, Props.lookup_cons_eq]
    rfl

lemma defaultValue_eq_error_iff : s.defaultValue kind = .error fault ↔ ∃ source cause,
    s.default = some source ∧ kind.readDefault source = .error cause ∧ fault = .invalidDefault cause := by
  rw [defaultValue]
  cases s.default with
  | none => simp
  | some source => cases hr : kind.readDefault source <;> simp [hr, eq_comm]

end Settings

lemma nodup_keys_of_props (h : d.props = .ok p) : p.keys.Nodup := by
  rcases d.props_eq_ok_iff.mp h with ⟨-, rfl⟩ | ⟨s, -, hs⟩
  · exact List.nodup_nil
  · exact Metadata.nodup_keys_of_parse hs

def settingsOf (ident : Ident) (p : Props) : Settings :=
  Settings.updated { name := ident.name } p.get?

lemma reverse_lookup (h : p.keys.Nodup) (key : String) : p.entries.reverse.lookup key = p.get? key := by
  have hp : Props.insertAll {} p.entries = p := Props.insertAll_eq_append h
  rw [← hp, Props.get?_insertAll, hp]
  simp [Props.get?]

section

variable (distinct : p.keys.Nodup)
include distinct

lemma settings_of_setAll {t : Settings} (h : Settings.setAll { name := ident.name } p.entries = .ok t) :
    t = settingsOf ident p := by
  rw [Settings.updated_of_setAll h, settingsOf]
  exact congrArg _ (funext (reverse_lookup distinct))

lemma fieldOfProps_eq_error_iff : fieldOfProps ident kind p = .error fault ↔
    FirstFault (fun _ => Props.Faulty) p.entries fault ∨
      (∀ fault, ¬ FirstFault (fun _ => Props.Faulty) p.entries fault) ∧
        ((settingsOf ident p).defaultValue kind = .error fault ∨
          (∀ fault, (settingsOf ident p).defaultValue kind ≠ .error fault) ∧
            (settingsOf ident p).role = .option ∧ (settingsOf ident p).name = "" ∧
              (settingsOf ident p).short = "" ∧ fault = .unreachable) := by
  simp only [← Settings.setAll_eq_error_iff (s := { name := ident.name })]
  rw [fieldOfProps]
  cases hs : Settings.setAll { name := ident.name } p.entries with
  | error fault' => simp
  | ok t =>
    obtain rfl := settings_of_setAll distinct hs
    cases hd : (settingsOf ident p).defaultValue kind with
    | error fault' => simp [hd]
    | ok v =>
      by_cases hr : (settingsOf ident p).role = .option ∧ (settingsOf ident p).name = "" ∧
          (settingsOf ident p).short = ""
      · simp [hd, hr, eq_comm]
      · simp only [hd, hr, ↓reduceIte, reduceCtorEq, false_or, false_iff]
        rintro ⟨-, -, ho, hn, hs, -⟩
        exact hr ⟨ho, hn, hs⟩

end

lemma settingsOf_role_iff : (settingsOf ident p).role = .option ↔ p.get? "type" = some "option" := by
  rw [settingsOf, Settings.updated]
  cases p.get? "type" with
  | none => simp
  | some value => by_cases h : value = "option" <;> by_cases h' : value = "argument" <;> simp [Role.ofName?, h, h']

lemma settingsOf_default : (settingsOf ident p).default = p.get? "default" :=
  Option.or_none

lemma finds_default_iff (ident : Ident) (hk : Kind.ofType? d.type = some kind) (hp : d.props = .ok p) :
    d.Finds .default fault ↔ (settingsOf ident p).defaultValue kind = .error fault := by
  rw [Settings.defaultValue_eq_error_iff, settingsOf_default]
  simp only [Finds, ← props_eq_ok_iff, hp, hk, Except.ok.injEq, Option.some.injEq]
  refine ⟨?_, ?_⟩
  · rintro ⟨p', k, source, cause, rfl, rfl, h⟩
    exact ⟨source, cause, h⟩
  · rintro ⟨source, cause, h⟩
    exact ⟨p, kind, source, cause, rfl, rfl, h⟩

lemma finds_reachability_iff (hi : d.ident = some ident) (hp : d.props = .ok p) :
    d.Finds .reachability fault ↔ (settingsOf ident p).role = .option ∧ (settingsOf ident p).name = "" ∧
      (settingsOf ident p).short = "" ∧ fault = .unreachable := by
  rw [settingsOf_role_iff]
  simp only [Finds, ← props_eq_ok_iff, hp, hi, Except.ok.injEq, Option.some.injEq]
  refine ⟨?_, ?_⟩
  · rintro ⟨p', i, rfl, rfl, h⟩
    exact h
  · intro h
    exact ⟨p, ident, rfl, rfl, h⟩

lemma finds_properties_iff (hp : d.props = .ok p) :
    d.Finds .properties fault ↔ FirstFault (fun _ => Props.Faulty) p.entries fault := by
  simp only [Finds, ← props_eq_ok_iff, hp, Except.ok.injEq]
  refine ⟨?_, fun h => ⟨p, rfl, h⟩⟩
  rintro ⟨p', rfl, h⟩
  exact h

lemma not_finds_attributes_of_finds_metadata {fault' : FieldFault} (h : d.Finds .metadata fault') :
    ¬ d.Finds .attributes fault := by
  rintro ⟨cause, ha, -⟩
  obtain ⟨s, -, hs, -⟩ := h
  rw [firstFault_metadataAttributes_iff, d.carries_iff.mp hs] at ha
  cases ha

lemma namedField_eq_error_iff (hi : d.ident = some ident) :
    d.namedField ident = .error fault ↔ FirstFault (fun _ => d.Finds) Check.all fault := by
  have hname : ∀ fault, ¬ d.Finds .name fault := fun fault h => by simp [Finds, hi] at h
  rw [Check.all, firstFault_skip hname, namedField]
  cases hk : Kind.ofType? d.type with
  | none =>
    have htype : ∀ fault, d.Finds .type fault ↔ fault = .unsupportedType (Row.typeText d.type) := fun fault => by
      simp only [Finds, hk, true_and]
    rw [firstFault_stop htype]
    simp [eq_comm]
  | some kind =>
    have htype : ∀ fault, ¬ d.Finds .type fault := fun fault h => by simp [Finds, hk] at h
    rw [firstFault_skip htype]
    cases hp : d.props with
    | error fault' =>
      have unique : ∀ fault, d.Finds .attributes fault ∨ d.Finds .metadata fault ↔ fault = fault' := by
        intro fault
        rw [← props_eq_error_iff, hp, Except.error.injEq, eq_comm]
      rcases (unique fault').mpr rfl with ha | hm
      · have hattributes : ∀ fault, d.Finds .attributes fault ↔ fault = fault' := fun fault =>
          ⟨fun h => (unique fault).mp (Or.inl h), fun h => h ▸ ha⟩
        rw [firstFault_stop hattributes]
        simp [eq_comm]
      · have hattributes : ∀ fault, ¬ d.Finds .attributes fault := fun _ =>
          not_finds_attributes_of_finds_metadata hm
        have hmetadata : ∀ fault, d.Finds .metadata fault ↔ fault = fault' := fun fault => by
          rw [← unique, or_iff_right (hattributes fault)]
        rw [firstFault_skip hattributes, firstFault_stop hmetadata]
        simp [eq_comm]
    | ok p =>
      have hprops : ∀ fault, ¬ d.Finds .attributes fault ∧ ¬ d.Finds .metadata fault := fun fault => by
        rw [← not_or, ← props_eq_error_iff, hp]
        simp
      rw [firstFault_skip fun fault => (hprops fault).1, firstFault_skip fun fault => (hprops fault).2]
      simp only [firstFault_cons_iff, not_firstFault_nil, finds_properties_iff hp,
        finds_default_iff ident hk hp, finds_reachability_iff hi hp, and_false, or_false]
      exact fieldOfProps_eq_error_iff (nodup_keys_of_props hp)

lemma field_eq_error_iff {e : FieldError} : d.field owner = .error e ↔
    ∃ fault, FirstFault (fun _ => d.Finds) Check.all fault ∧ e = ⟨owner, d.ident, fault⟩ := by
  rw [field]
  cases hi : d.ident with
  | none =>
    have hname : ∀ fault, d.Finds .name fault ↔ fault = .nameless := fun fault => by
      simp only [Finds, hi, true_and]
    simp only [Check.all, firstFault_stop hname, exists_eq_left, Except.error.injEq, eq_comm]
  | some ident =>
    simp only [← namedField_eq_error_iff hi]
    cases d.namedField ident <;> simp [Except.mapError, eq_comm]

lemma exists_field_iff : (∃ f, d.field owner = .ok f) ↔ ∀ check fault, ¬ d.Finds check fault := by
  have hall : ∀ check, check ∈ Check.all := fun check => by cases check <;> decide
  have herror : (∃ f, d.field owner = .ok f) ↔ ¬ ∃ e, d.field owner = .error e := by
    cases d.field owner <;> simp
  have hfirst : (∃ e, d.field owner = .error e) ↔ ∃ fault, FirstFault (fun _ => d.Finds) Check.all fault := by
    simp only [field_eq_error_iff]
    exact ⟨fun ⟨_, fault, h, _⟩ => ⟨fault, h⟩, fun ⟨fault, h⟩ => ⟨_, fault, h, rfl⟩⟩
  rw [herror, hfirst, exists_firstFault_iff]
  simp [hall]

lemma describes_of_field (h : d.field owner = .ok f) : ∃ p, d.Decodes p ∧
    ∀ pairs, p = Props.insertAll {} pairs → d.Describes pairs f := by
  obtain ⟨p, hi, hk, hp, hf⟩ := field_eq_ok h
  obtain ⟨t, ht, hd, -, hf⟩ := fieldOfProps_eq_ok hf
  obtain rfl := settings_of_setAll (nodup_keys_of_props hp) ht
  refine ⟨p, d.props_eq_ok_iff.mp hp, fun pairs hpairs => ?_⟩
  have hget : ∀ key, pairs.reverse.lookup key = p.get? key := fun key => by
    rw [hpairs, Props.get?_insertAll]
    simp [Props.get?]
  obtain ⟨hnone, hsome⟩ := Settings.defaultValue_eq_ok hd
  rw [settingsOf_default] at hnone hsome
  refine ⟨hi, hk, ?_, ?_, ?_, ?_, ?_⟩
  · rw [hget, hf]
    rfl
  · rw [hget, hf]
    rfl
  · rw [hget, hf]
    exact settingsOf_role_iff
  · rwa [hget]
  · simpa only [hget] using hsome

lemma field_congr_attributes {attributes : List Attribute}
    (h : (attributes.filter fun a => a.isNamed "cli") = d.metadataAttributes) (owner : Ident) :
    FieldDecl.field { d with attributes } owner = d.field owner := by
  have hm : findMetadata none attributes = findMetadata none d.attributes := by
    rw [← findMetadata_filter, h, findMetadata_metadataAttributes]
  simp only [field, namedField, props, hm]

/-- A declaration is refused for the first fault in the order of the checks, and accepted if there is none. -/
theorem field_checks (d : FieldDecl) (owner : Ident) :
    (∀ e, d.field owner = .error e ↔
      ∃ fault, FirstFault (fun _ => d.Finds) Check.all fault ∧ e = ⟨owner, d.ident, fault⟩) ∧
    ((∃ f, d.field owner = .ok f) ↔ ∀ check fault, ¬ d.Finds check fault) ∧
    (∀ f, d.field owner = .ok f → ∃ p, d.Decodes p ∧
      ∀ pairs, p = Props.insertAll {} pairs → d.Describes pairs f) ∧
    ∀ attributes : List Attribute, (attributes.filter fun a => a.isNamed "cli") = d.metadataAttributes →
      FieldDecl.field { d with attributes } owner = d.field owner :=
  ⟨fun _ => field_eq_error_iff, exists_field_iff, fun _ => describes_of_field,
    fun _ h => field_congr_attributes h owner⟩

def overwritten : FieldDecl :=
  annotated "size" "u8" "name:x type:flag name:'' short:s type:option default:007"

def undefined : FieldDecl :=
  annotated "size" "u8" "default:x type:flag foo:1 type:argument"

def sizeField : Field where
  ident := ⟨"size", false⟩
  name := ""
  short := "s"
  kind := .integer .u8
  role := .option
  default := some (.integer 7)

theorem overwritten_checks : overwritten.field ⟨"Copy", false⟩ = .ok sizeField ∧
    overwritten.Describes [("name", "x"), ("type", "flag"), ("name", ""), ("short", "s"), ("type", "option"),
      ("default", "007")] sizeField ∧
    FieldDecl.field { overwritten with
      attributes := ⟨[.ident ⟨"doc", false⟩], .value [.literal (.ofString "cli")]⟩ :: overwritten.attributes }
      ⟨"Copy", false⟩ = .ok sizeField ∧
    undefined.field ⟨"Copy", false⟩ =
      .error ⟨⟨"Copy", false⟩, some ⟨"size", false⟩, .undefinedProperty "foo"⟩ ∧
    FirstFault (fun _ => undefined.Finds) Check.all (.undefinedProperty "foo") := by
  have hok : overwritten.field ⟨"Copy", false⟩ = .ok sizeField := by decide +kernel
  have hprops : overwritten.props =
      .ok ⟨[("name", ""), ("type", "option"), ("short", "s"), ("default", "007")]⟩ := by decide +kernel
  have herror : undefined.field ⟨"Copy", false⟩ =
      .error ⟨⟨"Copy", false⟩, some ⟨"size", false⟩, .undefinedProperty "foo"⟩ := by decide +kernel
  obtain ⟨-, -, describes, congr⟩ := field_checks overwritten ⟨"Copy", false⟩
  obtain ⟨errors, -⟩ := field_checks undefined ⟨"Copy", false⟩
  obtain ⟨p, decodes, hp⟩ := describes _ hok
  obtain rfl := Except.ok.inj (hprops.symm.trans ((props_eq_ok_iff _).mpr decodes))
  obtain ⟨fault, first, he⟩ := (errors _).mp herror
  obtain rfl : .undefinedProperty "foo" = fault := congrArg FieldError.fault he
  refine ⟨hok, hp _ (by decide +kernel), (congr _ ?_).trans hok, herror, first⟩
  exact List.filter_cons_of_neg (by decide +kernel)

end FieldDecl

end CommandLine
