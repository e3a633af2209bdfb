import CommandLine.Proofs.Field
import CommandLine.Proofs.Refusal
import CommandLine.Proofs.Source.Ident

/-! Which errors say where they come from. -/

namespace CommandLine

open Source

section Text

variable {i : Ident} {c : Char} {cs ds : List Char}

lemma Source.Ident.IsSpelled.colon_notMem (h : i.IsSpelled) : ':' ∉ i.text.toList := by
  obtain ⟨name, raw⟩ := i
  have hname : ':' ∉ name.toList := fun hm => absurd (h.chars ':' hm) (by decide)
  cases raw with
  | false => exact hname
  | true => simpa [Ident.toList_text_raw] using hname

lemma takeWhile_ne_append_cons (h : c ∉ cs) : (cs ++ c :: ds).takeWhile (· ≠ c) = cs := by
  have hcs : ∀ x ∈ cs, decide (x ≠ c) = true := by
    intro x hx
    exact decide_eq_true fun he => h (he ▸ hx)
  rw [List.takeWhile_append_of_pos hcs, List.takeWhile_cons_of_neg (by simp), List.append_nil]

end Text

lemma AttributeFault.not_labelled (cause : AttributeFault) : ¬ "error parsing ".toList <+: cause.message.toList := by
  cases cause
  all_goals decide +kernel

namespace FieldError

variable {e : FieldError} {owner ident ident' : Ident} {cs : List Char}

def fieldLabel (owner ident : Ident) : String :=
  "error parsing " ++ owner.text ++ "." ++ ident.text ++ ": "

lemma label_of_field (h : e.field = some ident) : e.label = fieldLabel e.owner ident := by
  rw [label, h]
  rfl

lemma toList_fieldLabel (owner ident : Ident) : (fieldLabel owner ident).toList =
    "error parsing ".toList ++ (owner.text ++ ".").toList ++ (ident.text.toList ++ ':' :: [' ']) := by
  -- the rewrite rule of the definition would compare texts byte by byte
  unfold fieldLabel
  simp only [String.toList_append, List.append_assoc]
  rfl

lemma message_of_attribute {cause : AttributeFault} (h : e.fault = .attribute cause) : e.message = cause.message := by
  rw [message, h]

lemma label_prefix_message (h : ∀ cause, e.fault ≠ .attribute cause) : e.label.toList <+: e.message.toList := by
  rw [message]
  split
  case h_3 cause hc => exact absurd hc (h cause)
  all_goals
    rw [String.toList_append]
    exact List.prefix_append _ _

lemma fieldLabel_prefix_iff (h : e.field = some ident) :
    (fieldLabel e.owner ident).toList <+: e.message.toList ↔ ∀ cause, e.fault ≠ .attribute cause := by
  refine ⟨fun hl cause hc => ?_, fun hc => label_of_field h ▸ label_prefix_message hc⟩
  apply cause.not_labelled
  rw [← message_of_attribute hc]
  rw [toList_fieldLabel, List.append_assoc] at hl
  exact (List.prefix_append _ _).trans hl

lemma eq_of_fieldLabel_prefix (hi : ident.IsSpelled) (hi' : ident'.IsSpelled)
    (h : (fieldLabel owner ident).toList <+: cs) (h' : (fieldLabel owner ident').toList <+: cs) : ident' = ident := by
  obtain ⟨ds, rfl⟩ := h
  obtain ⟨ds', he⟩ := h'
  simp only [toList_fieldLabel, List.append_assoc, List.append_cancel_left_eq, List.cons_append] at he
  have ht : ident'.text.toList = ident.text.toList := by
    rw [← takeWhile_ne_append_cons hi'.colon_notMem, he, takeWhile_ne_append_cons hi.colon_notMem]
  exact hi'.text_inj hi (String.toList_inj.mp ht)

end FieldError

namespace FieldDecl

open FieldError

variable {d : FieldDecl} {owner ident : Ident} {e : FieldError} {check : Check} {cause : AttributeFault}

def Misannotated (d : FieldDecl) (cause : AttributeFault) : Prop :=
  Kind.ofType? d.type ≠ none ∧ FirstFault Attribute.Faulty d.metadataAttributes cause

lemma finds_attribute_iff : d.Finds check (.attribute cause) ↔
    check = .attributes ∧ FirstFault Attribute.Faulty d.metadataAttributes cause := by
  cases check with
  | attributes => simp [Finds]
  | properties =>
    simp only [Finds, reduceCtorEq, false_and, iff_false]
    rintro ⟨p, -, before, a, after, -, hf, -⟩
    cases hf
  | _ => simp [Finds]

lemma firstFault_attribute_iff (hi : d.ident = some ident) :
    FirstFault (fun _ => d.Finds) Check.all (.attribute cause) ↔ d.Misannotated cause := by
  have hname : ∀ fault, ¬ d.Finds .name fault := by simp [Finds, hi]
  rw [Misannotated, Check.all, firstFault_skip hname]
  cases hk : Kind.ofType? d.type with
  | none =>
    have htype : ∀ fault, d.Finds .type fault ↔ fault = .unsupportedType (Row.typeText d.type) := by simp [Finds, hk]
    rw [firstFault_stop htype]
    simp
  | some kind =>
    have htype : ∀ fault, ¬ d.Finds .type fault := by simp [Finds, hk]
    have later : ¬ FirstFault (fun _ => d.Finds) [.metadata, .properties, .default, .reachability]
        (.attribute cause) := by
      rintro ⟨before, check, after, hs, hf, -⟩
      obtain ⟨rfl, -⟩ := finds_attribute_iff.mp hf
      have hm : Check.attributes ∈ [Check.metadata, .properties, .default, .reachability] := by simp [hs]
      revert hm
      decide
    rw [firstFault_skip htype, firstFault_cons_iff, or_iff_left fun h => later h.2, finds_attribute_iff]
    simp

section

variable (named : d.ident = some ident) (failed : d.field owner = .error e)
include named failed

lemma error_of_field :
    e = ⟨owner, some ident, e.fault⟩ ∧ ∀ cause, e.fault = .attribute cause ↔ d.Misannotated cause := by
  obtain ⟨fault, hf, rfl⟩ := field_eq_error_iff.mp failed
  refine ⟨by rw [named], fun cause => ⟨?_, fun h => ?_⟩⟩
  · rintro rfl
    exact (firstFault_attribute_iff named).mp hf
  · have hcause : d.field owner = .error ⟨owner, d.ident, .attribute cause⟩ :=
      field_eq_error_iff.mpr ⟨_, (firstFault_attribute_iff named).mpr h, rfl⟩
    exact congrArg FieldError.fault (Except.error.inj (failed.symm.trans hcause))

lemma fieldLabel_prefix_of_field :
    (fieldLabel owner ident).toList <+: e.message.toList ↔ ∀ cause, ¬ d.Misannotated cause := by
  obtain ⟨he, hcause⟩ := error_of_field named failed
  have howner : e.owner = owner := congrArg FieldError.owner he
  simp only [← hcause, ← howner]
  exact fieldLabel_prefix_iff (congrArg FieldError.field he)

/-- An error carries the label of its field unless an attribute of the field is at fault. -/
theorem message_labelled_iff :
    ((fieldLabel owner ident).toList <+: e.message.toList ↔ ∀ cause, ¬ d.Misannotated cause) ∧
    (∀ cause, d.Misannotated cause → e.message = cause.message) ∧
    ((∀ cause, ¬ d.Misannotated cause) → ident.IsSpelled →
      ∀ (d' : FieldDecl) (ident' : Ident) (e' : FieldError), d'.ident = some ident' → ident'.IsSpelled →
        d'.field owner = .error e' → e'.message = e.message → ident' = ident) := by
  obtain ⟨-, hcause⟩ := error_of_field named failed
  refine ⟨fieldLabel_prefix_of_field named failed, fun cause h => message_of_attribute ((hcause cause).mpr h), ?_⟩
  intro sound spelled d' ident' e' named' spelled' failed' same
  have hl := (fieldLabel_prefix_of_field named failed).mpr sound
  by_cases sound' : ∀ cause, ¬ d'.Misannotated cause
  · have hl' := (fieldLabel_prefix_of_field named' failed').mpr sound'
    rw [same] at hl'
    exact eq_of_fieldLabel_prefix spelled spelled' hl hl'
  · -- the words for a faulty attribute are no message that begins with a label
    obtain ⟨cause, h⟩ := not_forall_not.mp sound'
    obtain ⟨-, hcause'⟩ := error_of_field named' failed'
    rw [← same, message_of_attribute ((hcause' cause).mpr h), toList_fieldLabel, List.append_assoc] at hl
    exact absurd ((List.prefix_append _ _).trans hl) cause.not_labelled

end

def bare (name : String) : FieldDecl where
  ident := some ⟨name, false⟩
  type := [.ident ⟨"String", false⟩]
  attributes := [⟨[.ident ⟨"cli", false⟩], .bare⟩]

def bareError (name : String) : FieldError :=
  ⟨⟨"Cmd", false⟩, some ⟨name, false⟩, .attribute .bare⟩

def labelError : FieldError :=
  ⟨⟨"Cmd", false⟩, some ⟨"label", false⟩, .metadata ⟨'\'', 5⟩⟩

theorem message_labelled_label :
    (annotated "label" "String" "name:'Oops").field ⟨"Cmd", false⟩ = .error labelError ∧
    (bare "value").field ⟨"Cmd", false⟩ = .error (bareError "value") ∧
    "error parsing Cmd.label: ".toList <+: labelError.message.toList ∧ (bare "value").Misannotated .bare ∧
    (bareError "value").message = AttributeFault.bare.message ∧ labelError.message ≠ (bareError "value").message := by
  have hl : (annotated "label" "String" "name:'Oops").field ⟨"Cmd", false⟩ = .error labelError := by decide +kernel
  have hb : (bare "value").field ⟨"Cmd", false⟩ = .error (bareError "value") := by decide +kernel
  obtain ⟨labelled, -, distinct⟩ := message_labelled_iff rfl hl
  obtain ⟨-, bareWords, -⟩ := message_labelled_iff rfl hb
  have hprefix : "error parsing Cmd.label: ".toList <+: labelError.message.toList := by decide +kernel
  have hfault : (bare "value").Misannotated .bare :=
    ((error_of_field rfl hb).2 _).mp rfl
  refine ⟨hl, hb, hprefix, hfault, bareWords _ hfault, fun same => ?_⟩
  have he := distinct (labelled.mp hprefix) (by decide +kernel) _ _ _ rfl (by decide +kernel) hb same.symm
  revert he
  decide

end FieldDecl

namespace Definition

def bareTwice : Definition where
  ident := ⟨"Cmd", false⟩
  fields := [.bare "value", .bare "other"]

theorem bareTwice_unlabelled :
    bareTwice.command = .error [.field (FieldDecl.bareError "value"), .field (FieldDecl.bareError "other")] ∧
    (FieldDecl.bareError "value").message = (FieldDecl.bareError "other").message ∧
    ¬ ∀ (d : FieldDecl) (owner ident : Ident) (e : FieldError), d.ident = some ident → d.field owner = .error e →
      ("error parsing " ++ owner.text ++ "." ++ ident.text ++ ": ").toList <+: e.message.toList := by
  have value : (FieldDecl.bare "value").field ⟨"Cmd", false⟩ = .error (FieldDecl.bareError "value") := by
    decide +kernel
  have other : (FieldDecl.bare "other").field ⟨"Cmd", false⟩ = .error (FieldDecl.bareError "other") := by
    decide +kernel
  refine ⟨?_, rfl, fun labelled => ?_⟩
  · rw [command_of_failures (by decide +kernel) rfl]
    simp [fieldResults, bareTwice, failures, value, other]
  · have h := labelled _ _ _ _ rfl value
    revert h
    decide +kernel

end Definition

end CommandLine
