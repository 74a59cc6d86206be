import SecretAccess.CommandLine.Usage
import SecretAccess.Environment

/-!
# Help texts

What the program, its subcommand and the help command say of themselves, in
styled text. The descriptions of a list stand two columns behind its longest
entry.
-/

namespace SecretAccess.CommandLine.Help

open Text (Style)

def programName : String := "sops-acl"

def version : String := "0.1.0"

/-- One entry of a list: how it is written, how long that is, and what it means. -/
structure Entry where
  written : String
  length : Nat
  meaning : String

def spaces (n : Nat) : String := String.ofList (List.replicate n ' ')

/-- The lines of a text below its first, moved to a column. -/
def hanging (column : Nat) (text : String) : String :=
  String.join (text.toList.map fun c =>
    if c = '\n' then "\n" ++ spaces column else c.toString)

def list (entries : List Entry) : String :=
  let width := entries.foldl (fun width e => max width e.length) 0
  String.join (entries.map fun e =>
    "  " ++ e.written ++ spaces (width - e.length) ++ "  " ++ hanging (width + 4) e.meaning ++ "\n")

def heading (text : String) : String := Style.paint [1, 4] text

def literal (text : String) : String := Style.paint [1] text

def group (title : String) (entries : List Entry) : String := heading title ++ "\n" ++ list entries

def usage (command rest : String) : String :=
  heading "Usage:" ++ " " ++ literal command ++ " " ++ rest ++ "\n"

def meaning : Opt → String
  | .root => "SOPS root directory [default: ./sops]"
  | .config => "Config file [default: ./.sops-acl.toml when present]"
  | .basic => "Plain text output (no colour, no icons)"
  | .table => "Show the secret access matrix"
  | .keys => "Show the public key table"
  | .graph => "Export a graph of the hierarchy"
  | .graphFormat => "Graph output format [default: png] [possible values: png, svg, pdf, dot]"
  | .graphOutput => "Graph output file name, without extension [default: sops_hierarchy]"
  | .all => "Show every view"
  | .json => "Emit the selected views as JSON"
  | .noSummary => "Skip the summary statistics"
  | .verbose => "Enable debug logging"
  | .help => "Print help"
  | .version => "Print version"

/-- The root also shows what the environment gives for it. -/
def note (root : Option String) : Opt → String
  | .root => " [env: " ++ Environment.rootVariable ++ "=" ++ root.getD "" ++ "]"
  | _ => ""

def optionEntry (root : Option String) (o : Opt) : Entry :=
  let letter (write : String → String) :=
    match o.short? with
    | some c => write ("-" ++ c.toString) ++ ", "
    | none => "    "
  let name (write : String → String) := write ("--" ++ o.long)
  let value :=
    match o.placeholder? with
    | some placeholder => " <" ++ placeholder ++ ">"
    | none => ""
  ⟨letter literal ++ name literal ++ value, (letter id ++ name id ++ value).length,
    meaning o ++ note root o⟩

def options (root : Option String) (l : Level) : String :=
  group "Options:" (l.options.map (optionEntry root))

def named (name meaning : String) : Entry := ⟨literal name, name.length, meaning⟩

def helpMeaning : String := "Print this message or the help of the given subcommand(s)"

def completionsMeaning : String := "Generate shell completions"

def ofLevel (root : Option String) : Level → String
  | .program =>
    "Inspect who can decrypt what in a SOPS secrets repository\n\n" ++
      usage programName "[OPTIONS] [COMMAND]" ++ "\n" ++
      group "Commands:" [named "completions" completionsMeaning, named "help" helpMeaning] ++
      "\n" ++ options root .program ++ "\nWith no view flag the hierarchy tree is shown.\n"
  | .completions =>
    completionsMeaning ++ "\n\n" ++
      usage (programName ++ " completions") "[OPTIONS] <SHELL>" ++ "\n" ++
      group "Arguments:"
        [⟨UsageError.shellShown, UsageError.shellShown.length,
          "Shell to generate completions for [possible values: " ++
            ", ".intercalate (Shell.every.map Shell.name) ++ "]"⟩] ++ "\n" ++
      options root .completions

def ofHelp : String :=
  helpMeaning ++ "\n\n" ++ usage (programName ++ " help") "[COMMAND]..." ++ "\n" ++
    group "Arguments:" [⟨"[COMMAND]...", 12, "Print help for the subcommand(s)"⟩]

def versionLine : String := programName ++ " " ++ version ++ "\n"

end SecretAccess.CommandLine.Help
