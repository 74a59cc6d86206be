import SecretAccess.CommandLine.Help

/-!
# Completion scripts

A script for each shell that offers the options of the program by name.
-/

namespace SecretAccess.CommandLine.Completions

open Help (programName)

def offered : List Opt := Level.program.options

def names : List String := offered.map fun o => "--" ++ o.long

def quoted (text : String) : String := "'" ++ text ++ "'"

def described (o : Opt) : String :=
  quoted ("--" ++ o.long ++ "[" ++ String.ofList ((Help.meaning o).toList.filter fun c =>
    c ≠ '[' && c ≠ ']') ++ "]")

def fishLine (o : Opt) : String :=
  let letter :=
    match o.short? with
    | some c => " -s " ++ c.toString
    | none => ""
  let value := if o.takesValue then " -r" else ""
  "complete -c " ++ programName ++ letter ++ " -l " ++ o.long ++ value ++ " -d " ++
    quoted (Help.meaning o) ++ "\n"

def script : Shell → String
  | .bash =>
    "complete -o default -W \"" ++ " ".intercalate names ++ "\" " ++ programName ++ "\n"
  | .elvish =>
    "set edit:completion:arg-completer[" ++ programName ++ "] = \x7b|@words|\n  put " ++
      " ".intercalate names ++ "\n\x7d\n"
  | .fish => String.join (offered.map fishLine)
  | .powershell =>
    "Register-ArgumentCompleter -Native -CommandName " ++ quoted programName ++
      " -ScriptBlock \x7b\n  param($word)\n  @(" ++ ", ".intercalate (names.map quoted) ++
      ") | Where-Object \x7b $_ -like \"$word*\" \x7d\n\x7d\n"
  | .zsh =>
    "#compdef " ++ programName ++ "\n_arguments \\\n  " ++
      " \\\n  ".intercalate (offered.map described) ++ "\n"

end SecretAccess.CommandLine.Completions
