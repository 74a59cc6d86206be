import SecretAccess.GraphFormat

/-!
# Options

The options of the program and of its one subcommand, and what a command line
asks for once it is read.
-/

namespace SecretAccess.CommandLine

inductive Opt where
  | root
  | config
  | basic
  | table
  | keys
  | graph
  | graphFormat
  | graphOutput
  | all
  | json
  | noSummary
  | verbose
  | help
  | version
deriving DecidableEq, Repr

inductive Shell where
  | bash
  | elvish
  | fish
  | powershell
  | zsh
deriving DecidableEq, Repr

/-- The program itself, or the subcommand that writes completion scripts. -/
inductive Level where
  | program
  | completions
deriving DecidableEq, Repr

namespace Opt

def every : List Opt :=
  [root, config, basic, table, keys, graph, graphFormat, graphOutput, all, json, noSummary,
    verbose, help, version]

def long : Opt → String
  | root => "root"
  | config => "config"
  | basic => "basic"
  | table => "table"
  | keys => "keys"
  | graph => "graph"
  | graphFormat => "graph-format"
  | graphOutput => "graph-output"
  | all => "all"
  | json => "json"
  | noSummary => "no-summary"
  | verbose => "verbose"
  | help => "help"
  | version => "version"

def short? : Opt → Option Char
  | root => some 'r'
  | config => some 'c'
  | verbose => some 'v'
  | help => some 'h'
  | version => some 'V'
  | _ => none

/-- What stands for the value of an option, if it takes one. -/
def placeholder? : Opt → Option String
  | root => some "ROOT"
  | config => some "CONFIG"
  | graphFormat => some "GRAPH_FORMAT"
  | graphOutput => some "GRAPH_OUTPUT"
  | _ => none

def takesValue (o : Opt) : Bool := o.placeholder?.isSome

/-- The option as messages show it. -/
def shown (o : Opt) : String :=
  match o.placeholder? with
  | some placeholder => "--" ++ o.long ++ " <" ++ placeholder ++ ">"
  | none => "--" ++ o.long

end Opt

namespace Shell

def every : List Shell := [bash, elvish, fish, powershell, zsh]

def name : Shell → String
  | bash => "bash"
  | elvish => "elvish"
  | fish => "fish"
  | powershell => "powershell"
  | zsh => "zsh"

def named? (text : String) : Option Shell := every.find? (·.name = text)

end Shell

namespace Level

def options : Level → List Opt
  | program => Opt.every
  | completions => [.root, .config, .verbose, .help]

def long? (l : Level) (name : String) : Option Opt := l.options.find? (·.long = name)

def letter? (l : Level) (c : Char) : Option Opt := l.options.find? (·.short? = some c)

end Level

/-- What a command line asks for. -/
structure Request where
  root : Option String
  config : Option String
  basic : Bool
  table : Bool
  keys : Bool
  graph : Bool
  graphFormat : Option GraphFormat
  graphOutput : Option String
  all : Bool
  json : Bool
  noSummary : Bool
  verbose : Bool
  shell : Option Shell
deriving DecidableEq, Repr

def Request.empty : Request :=
  ⟨none, none, false, false, false, false, none, none, false, false, false, false, none⟩

end SecretAccess.CommandLine
