import CommandLine.Proofs.Emission.Refinement
import CommandLine.Proofs.Provenance

namespace CommandLine

namespace Command

variable {c : Command} {item item' : String} {items items' : List String} {f : Field} {m m' : Mark} {s : State}

inductive Synonymous (c : Command) : String → String → Prop
  | same (item : String) : Synonymous c item item
  | gives {item item' : String} {f : Field} {value : String} (h : c.Gives item f value)
      (h' : c.Gives item' f value) : Synonymous c item item'

lemma Offers.synonymous (h : c.Offers m f) (h' : c.Offers m' f) (value : String) :
    c.Synonymous (m.write (f.label m) value) (m'.write (f.label m') value) :=
  .gives (h.gives value) (h'.gives value)

lemma Synonymous.step (h : c.Synonymous item item') (s : State) : c.step s item = c.step s item' := by
  cases h with
  | same => rfl
  | gives h h' => rw [step_of_gives h, step_of_gives h']

lemma steps_of_synonymous (h : List.Forall₂ c.Synonymous items items') (s : State) :
    c.steps s items = c.steps s items' := by
  induction h generalizing s with
  | nil => rfl
  | cons hi _ ih =>
    rw [steps, steps, hi.step]
    cases c.step s _ with
    | error e => rfl
    | ok t => exact ih t

lemma run_of_synonymous (h : List.Forall₂ c.Synonymous items items') : c.run items = c.run items' := by
  rw [run, run, steps_of_synonymous h]

lemma synonymous_between (h : c.Synonymous item item') (before after : List String) :
    List.Forall₂ c.Synonymous (before ++ item :: after) (before ++ item' :: after) := by
  have hsame : ∀ items : List String, List.Forall₂ c.Synonymous items items :=
    fun items => List.forall₂_same.mpr fun item _ => .same item
  exact List.rel_append (hsame before) (.cons h (hsame after))

end Command

namespace Definition

open Command

variable {d : Definition} {c : Command} {f : Field}

/-- An option that both marks offer may be written behind either of them. -/
theorem run_long_eq_run_short (accepted : d.command = .ok c) (long : c.Offers .long f) (short : c.Offers .short f) :
    ∃ p, c.program = .ok p ∧ ∀ before value after,
      c.run (before ++ Mark.long.write f.longLabel value :: after) =
          c.run (before ++ Mark.short.write f.shortLabel value :: after) ∧
        p.run? (before ++ Mark.long.write f.longLabel value :: after) =
          p.run? (before ++ Mark.short.write f.shortLabel value :: after) ∧
        ∀ r e, c.run before = .ok r → f.kind.convert value = .error e →
          c.run (before ++ Mark.short.write f.shortLabel value :: after) = .error e := by
  have hp := c.program_eq
  refine ⟨_, hp, fun before value after => ?_⟩
  have hrun : c.run (before ++ Mark.long.write f.longLabel value :: after) =
      c.run (before ++ Mark.short.write f.shortLabel value :: after) :=
    run_of_synonymous (synonymous_between (long.synonymous short value) before after)
  refine ⟨hrun, ?_, ?_⟩
  · rw [run?_eq accepted hp, run?_eq accepted hp, hrun]
  · intro r e hr he
    obtain ⟨s, hs, -⟩ := run_eq_ok_iff.mp hr
    apply hs.run_eq_error_iff.mpr
    left
    rw [show Mark.short.write f.shortLabel value = Mark.short.write (f.label .short) value from rfl,
      step_of_gives (short.gives value), store_eq_error_iff]
    exact he

def logLevelField : Field where
  ident := ⟨"level", false⟩
  name := "LogLevel"
  short := "l"
  kind := .integer .u8
  role := .option

def logging : Definition where
  ident := ⟨"Logging", false⟩
  fields := [.annotated "level" "u8" "type:option short:l name:LogLevel", .annotated "file" "String" ""]

def loggingCommand : Command where
  ident := ⟨"Logging", false⟩
  fields := [logLevelField, { ident := ⟨"file", false⟩, name := "file", kind := .text }]

theorem logging_long_eq_short : logging.command = .ok loggingCommand ∧
    loggingCommand.Offers .long logLevelField ∧ loggingCommand.Offers .short logLevelField ∧
    loggingCommand.run ["-l=1", "a", "--log-level=7"] =
      .ok [(⟨"level", false⟩, .integer 7), (⟨"file", false⟩, .text "a")] ∧
    loggingCommand.run ["-l=1", "a", "-l=7"] =
      .ok [(⟨"level", false⟩, .integer 7), (⟨"file", false⟩, .text "a")] ∧
    loggingCommand.run ["-l=1", "--log-level=256", "a", "b"] = .error (.integer .positiveOverflow) := by
  have accepted : logging.command = .ok loggingCommand := by
    rw [command_eq_ok_iff]
    exact ⟨by decide +kernel, rfl, by decide +kernel, rfl⟩
  have long : loggingCommand.Offers .long logLevelField :=
    ⟨find?_table_eq_some_iff.mp (by decide +kernel), by decide +kernel, by decide +kernel⟩
  have short : loggingCommand.Offers .short logLevelField :=
    ⟨find?_table_eq_some_iff.mp (by decide +kernel), by decide +kernel, by decide +kernel⟩
  have hl : logLevelField.longLabel = "log-level" := by decide +kernel
  obtain ⟨p, -, hrun⟩ := run_long_eq_run_short accepted long short
  rw [hl] at hrun
  obtain ⟨hok, -, -⟩ := hrun ["-l=1", "a"] "7" []
  obtain ⟨herror, -, hconvert⟩ := hrun ["-l=1"] "256" ["a", "b"]
  have hr : loggingCommand.run ["-l=1", "a", "-l=7"] =
      .ok [(⟨"level", false⟩, .integer 7), (⟨"file", false⟩, .text "a")] := by decide +kernel
  refine ⟨accepted, long, short, hok.trans hr, hr, herror.trans ?_⟩
  apply hconvert [(⟨"level", false⟩, .integer 1), (⟨"file", false⟩, .text "")]
  · decide +kernel
  · decide +kernel

end Definition

end CommandLine
