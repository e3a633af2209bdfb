import CommandLine.Number.Decimal

/-! What can go wrong with one command-line item. -/

namespace CommandLine

inductive ArgsError
  | unknownLongOption (key item : String)
  | unknownShortOption (key item : String)
  | unexpectedArgument (item : String)
  | missingValue (key item : String)
  | integer (cause : IntegerError)
  | float (cause : FloatError)
  | boolean (literal : String)
  deriving DecidableEq, Repr

namespace ArgsError

def message : ArgsError → String
  | unknownLongOption key item => s!"wrong long option '{key}' from '{item}'"
  | unknownShortOption key item => s!"wrong short option '{key}' from '{item}'"
  | unexpectedArgument item => s!"wrong argument '{item}'"
  | missingValue key item => s!"missing value for option '{key}' in '{item}'"
  | integer cause => cause.message
  | float cause => cause.message
  | boolean literal => s!"invalid boolean literal '{literal}'"

end ArgsError

end CommandLine
