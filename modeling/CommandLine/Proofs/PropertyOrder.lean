import CommandLine.Proofs.Field
import CommandLine.Proofs.Source.Escape

namespace CommandLine.FieldDecl

open Source

variable {d d' : FieldDecl} {ident : Ident} {p q : Props} {s s' : String} {t : Settings}

lemma Settings.exists_setAll_iff {entries : List (String × String)} :
    (∃ t', t.setAll entries = .ok t') ↔ ∀ e ∈ entries, ∀ fault, ¬ Props.Faulty e fault := by
  have herror : (∃ t', t.setAll entries = .ok t') ↔ ¬ ∃ fault, t.setAll entries = .error fault := by
    cases t.setAll entries <;> simp
  simp only [herror, setAll_eq_error_iff, exists_firstFault_iff]
  simp

lemma setAll_eq_ok_iff (distinct : p.keys.Nodup) : Settings.setAll { name := ident.name } p.entries = .ok t ↔
    (∀ key value, p.get? key = some value → ∀ fault, ¬ Props.Faulty (key, value) fault) ∧
      t = settingsOf ident p := by
  have hentries : (∀ key value, p.get? key = some value → ∀ fault, ¬ Props.Faulty (key, value) fault) ↔
      ∀ e ∈ p.entries, ∀ fault, ¬ Props.Faulty e fault := by
    simp only [Props.get?_eq_some_iff distinct, Prod.forall]
  rw [hentries, ← Settings.exists_setAll_iff]
  refine ⟨fun h => ⟨⟨t, h⟩, settings_of_setAll distinct h⟩, ?_⟩
  rintro ⟨⟨t', h⟩, rfl⟩
  rwa [settings_of_setAll distinct h] at h

section

variable (distinct : p.keys.Nodup) (distinct' : q.keys.Nodup) (same : ∀ key, p.get? key = q.get? key)
include distinct distinct' same

lemma setAll_congr (ident : Ident) (t : Settings) : Settings.setAll { name := ident.name } p.entries = .ok t ↔
    Settings.setAll { name := ident.name } q.entries = .ok t := by
  rw [setAll_eq_ok_iff distinct, setAll_eq_ok_iff distinct', settingsOf, settingsOf, funext same]

lemma fieldOfProps_congr (ident : Ident) (kind : Kind) (f : Field) :
    fieldOfProps ident kind p = .ok f ↔ fieldOfProps ident kind q = .ok f := by
  have hset := setAll_congr distinct distinct' same ident
  rw [fieldOfProps, fieldOfProps]
  cases hp : Settings.setAll { name := ident.name } p.entries with
  | error fault =>
    cases hq : Settings.setAll { name := ident.name } q.entries with
    | error fault' => simp
    | ok t => exact absurd ((hset t).mpr hq) (by simp [hp])
  | ok t => rw [(hset t).mp hp]

end

lemma field_congr (named : d'.ident = d.ident) (type : d'.type = d.type) (hp : d.props = .ok p) (hq : d'.props = .ok q)
    (same : ∀ key, p.get? key = q.get? key) (owner : Ident) (f : Field) :
    d.field owner = .ok f ↔ d'.field owner = .ok f := by
  rw [field, field, named]
  cases d.ident with
  | none => simp
  | some ident =>
    simp only [mapError_eq_ok_iff, namedField, type, hp, hq]
    cases Kind.ofType? d.type with
    | none => simp
    | some kind => exact fieldOfProps_congr (nodup_keys_of_props hp) (nodup_keys_of_props hq) same ident kind f

/-- A field depends only on what its metadata says for each key. -/
theorem field_of_same_properties (named : d'.ident = d.ident) (type : d'.type = d.type) (h : d.Carries s)
    (h' : d'.Carries s') (hp : Metadata.parse s = .ok p) (hq : Metadata.parse s' = .ok q)
    (same : ∀ key, p.get? key = q.get? key) (owner : Ident) :
    (∃ f, d.field owner = .ok f ∧ d'.field owner = .ok f) ∨
      ∃ e e', d.field owner = .error e ∧ d'.field owner = .error e' := by
  have hprops : d.props = .ok p := d.props_eq_ok_iff.mpr (Or.inr ⟨s, h, hp⟩)
  have hprops' : d'.props = .ok q := d'.props_eq_ok_iff.mpr (Or.inr ⟨s', h', hq⟩)
  have hiff := field_congr named type hprops hprops' same owner
  cases hf : d.field owner with
  | ok f => exact Or.inl ⟨f, rfl, (hiff f).mp hf⟩
  | error e =>
    cases hf' : d'.field owner with
    | ok f => exact absurd ((hiff f).mpr hf') (by simp [hf])
    | error e' => exact Or.inr ⟨e, e', rfl, rfl⟩

lemma get?_eq_of_perm (distinct : p.keys.Nodup) (perm : p.entries.Perm q.entries) (key : String) :
    p.get? key = q.get? key := by
  have distinct' : q.keys.Nodup := (perm.map Prod.fst).nodup_iff.mp distinct
  ext value
  rw [Props.get?_eq_some_iff distinct, Props.get?_eq_some_iff distinct', perm.mem_iff]

lemma carries_annotated (name type metadata : String) : (annotated name type metadata).Carries metadata := by
  refine ⟨_, rfl, ?_⟩
  simp [Attribute.metadata, Literal.stringValue?_ofString]

def sizeDecl (metadata : String) : FieldDecl := annotated "size" "u8" metadata

theorem reordered_same_properties :
    (sizeDecl "short:s name:x type:option default:7 name:''").field ⟨"Copy", false⟩ = .ok sizeField ∧
    (sizeDecl "default:many `type`:option name:'' default:7 short:s").field ⟨"Copy", false⟩ = .ok sizeField ∧
    (sizeDecl "type:flag foo:1").field ⟨"Copy", false⟩ =
      .error ⟨⟨"Copy", false⟩, some ⟨"size", false⟩, .undefinedRole "flag"⟩ ∧
    ∃ e, (sizeDecl "foo:1 type:flag").field ⟨"Copy", false⟩ = .error e := by
  have hok : (sizeDecl "short:s name:x type:option default:7 name:''").field ⟨"Copy", false⟩ = .ok sizeField := by
    decide +kernel
  have herror : (sizeDecl "type:flag foo:1").field ⟨"Copy", false⟩ =
      .error ⟨⟨"Copy", false⟩, some ⟨"size", false⟩, .undefinedRole "flag"⟩ := by decide +kernel
  have named : ∀ s s', (sizeDecl s').ident = (sizeDecl s).ident := fun _ _ => rfl
  have type : ∀ s s', (sizeDecl s').type = (sizeDecl s).type := fun _ _ => rfl
  have carries : ∀ s, (sizeDecl s).Carries s := carries_annotated "size" "u8"
  have hp : Metadata.parse "short:s name:x type:option default:7 name:''" =
      .ok ⟨[("short", "s"), ("name", ""), ("type", "option"), ("default", "7")]⟩ := by decide +kernel
  have hq : Metadata.parse "default:many `type`:option name:'' default:7 short:s" =
      .ok ⟨[("default", "7"), ("type", "option"), ("name", ""), ("short", "s")]⟩ := by decide +kernel
  have hr : Metadata.parse "type:flag foo:1" = .ok ⟨[("type", "flag"), ("foo", "1")]⟩ := by decide +kernel
  have hs : Metadata.parse "foo:1 type:flag" = .ok ⟨[("foo", "1"), ("type", "flag")]⟩ := by decide +kernel
  refine ⟨hok, ?_, herror, ?_⟩
  · have same := get?_eq_of_perm (Metadata.nodup_keys_of_parse hp)
      (q := ⟨[("default", "7"), ("type", "option"), ("name", ""), ("short", "s")]⟩) (by decide +kernel)
    rcases field_of_same_properties (named _ _) (type _ _) (carries _) (carries _) hp hq same
      ⟨"Copy", false⟩ with ⟨f, hf, hf'⟩ | ⟨e, -, he, -⟩
    · rw [hf', ← hf, hok]
    · rw [hok] at he
      cases he
  · have same := get?_eq_of_perm (Metadata.nodup_keys_of_parse hr) (q := ⟨[("foo", "1"), ("type", "flag")]⟩)
      (by decide +kernel)
    rcases field_of_same_properties (named _ _) (type _ _) (carries _) (carries _) hr hs same
      ⟨"Copy", false⟩ with ⟨f, hf, -⟩ | ⟨-, e, -, he⟩
    · rw [herror] at hf
      cases hf
    · exact ⟨e, he⟩

end CommandLine.FieldDecl
