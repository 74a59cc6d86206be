import SecretAccess.CommandLine.Options
import SecretAccess.Text.Ansi

/-!
# Usage errors

The ways in which a command line is refused, and the styled line that says so.
-/

namespace SecretAccess.CommandLine

open Text (Style)

inductive UsageError where
  | unknownArgument (text : String)
  | unexpectedValue (o : Opt) (value : String)
  | missingValue (o : Opt)
  | unknownFormat (value : String)
  | unknownShell (value : String)
  | unknownCommand (name : String)
  | missingShell
  | repeated (o : Opt)
deriving DecidableEq, Repr

/-- Why a command line is not run: it is wrong, or it asks for a text. -/
inductive Stop where
  | usage (e : UsageError)
  | help (l : Level)
  | helpOnHelp
  | version
deriving DecidableEq, Repr

namespace UsageError

def shellShown : String := "<SHELL>"

def wrong (text : String) : String := "'" ++ Style.paint [33] text ++ "'"

def named (text : String) : String := "'" ++ Style.paint [1] text ++ "'"

def valueRequired (shown : String) : String :=
  "a value is required for " ++ wrong shown ++ " but none was supplied"

/-- An empty value counts as none. -/
def invalidValue (value shown : String) : String :=
  if value.isEmpty then valueRequired shown
  else "invalid value " ++ wrong value ++ " for " ++ named shown

def explanation : UsageError → String
  | unknownArgument text => "unexpected argument " ++ wrong text ++ " found"
  | unexpectedValue o value =>
    "unexpected value " ++ wrong value ++ " for " ++ named o.shown ++
      " found; no more were expected"
  | missingValue o => valueRequired o.shown
  | unknownFormat value => invalidValue value Opt.graphFormat.shown
  | unknownShell value => invalidValue value shellShown
  | unknownCommand name => "unrecognized subcommand " ++ wrong name
  | missingShell => "the following required arguments were not provided:"
  | repeated o => "the argument " ++ wrong o.shown ++ " cannot be used multiple times"

def line (e : UsageError) : String := Style.paint [1, 31] "error:" ++ " " ++ e.explanation

end UsageError

end SecretAccess.CommandLine
