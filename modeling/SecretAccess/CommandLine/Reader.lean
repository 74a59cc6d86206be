import SecretAccess.CommandLine.Usage

/-!
# Reading a command line

Arguments are read from left to right. A value that is an argument of its own
waits until the next option, or the end, before it is looked at; a value that
is attached to its option is looked at once. Behind `--` everything is a plain
argument, and the program itself takes none.
-/

namespace SecretAccess.CommandLine

/-- What has been read but not yet looked at. -/
inductive Pending where
  | option (o : Opt) (value : Option String)
  | shell (text : String)
deriving DecidableEq, Repr

structure Progress where
  request : Request
  pending : Option Pending
  /-- Whether `--` has been passed. -/
  plain : Bool
deriving DecidableEq, Repr

namespace Request

/-- Gives an option its value. An option is given at most once. -/
def setValue (r : Request) (o : Opt) (value : String) : Except UsageError Request :=
  match o with
  | .root =>
    if r.root.isSome then .error (.repeated o)
    else if value.isEmpty then .error (.missingValue o)
    else .ok { r with root := some value }
  | .config =>
    if r.config.isSome then .error (.repeated o)
    else if value.isEmpty then .error (.missingValue o)
    else .ok { r with config := some value }
  | .graphFormat =>
    if r.graphFormat.isSome then .error (.repeated o)
    else
      match GraphFormat.named? value with
      | some f => .ok { r with graphFormat := some f }
      | none => .error (.unknownFormat value)
  | .graphOutput =>
    if r.graphOutput.isSome then .error (.repeated o)
    else .ok { r with graphOutput := some value }
  | _ => .error (.unexpectedValue o value)

/-- Raises a flag. A flag is given at most once. -/
def raise (r : Request) (o : Opt) : Except UsageError Request :=
  match o with
  | .basic => if r.basic then .error (.repeated o) else .ok { r with basic := true }
  | .table => if r.table then .error (.repeated o) else .ok { r with table := true }
  | .keys => if r.keys then .error (.repeated o) else .ok { r with keys := true }
  | .graph => if r.graph then .error (.repeated o) else .ok { r with graph := true }
  | .all => if r.all then .error (.repeated o) else .ok { r with all := true }
  | .json => if r.json then .error (.repeated o) else .ok { r with json := true }
  | .noSummary => if r.noSummary then .error (.repeated o) else .ok { r with noSummary := true }
  | .verbose => if r.verbose then .error (.repeated o) else .ok { r with verbose := true }
  | _ => .error (.missingValue o)

end Request

def refuse (e : UsageError) : Except Stop α := .error (.usage e)

def lift : Except UsageError α → Except Stop α
  | .ok a => .ok a
  | .error e => refuse e

namespace Progress

def start : Progress := ⟨.empty, none, false⟩

/-- Whether the next argument may be the value of an option. -/
def awaits (p : Progress) : Option Opt :=
  match p.pending with
  | some (.option o none) => some o
  | _ => none

/-- Looks at what is pending. -/
def settle (p : Progress) : Except Stop Progress :=
  match p.pending with
  | none => .ok p
  | some (.option o none) => refuse (.missingValue o)
  | some (.option o (some value)) => do
    let request ← lift (p.request.setValue o value)
    .ok { p with request, pending := none }
  | some (.shell text) =>
    match Shell.named? text with
    | some shell =>
      let request := { p.request with shell := some shell }
      .ok { p with request, pending := none }
    | none => refuse (.unknownShell text)

def attach (p : Progress) (o : Opt) (value : String) : Except Stop Progress := do
  let p ← p.settle
  let request ← lift (p.request.setValue o value)
  .ok { p with request }

def expectValue (p : Progress) (o : Opt) : Except Stop Progress := do
  let p ← p.settle
  .ok { p with pending := some (.option o none) }

def raise (p : Progress) (l : Level) (o : Opt) : Except Stop Progress := do
  let p ← p.settle
  match o with
  | .help => .error (.help l)
  | .version => .error .version
  | o =>
    let request ← lift (p.request.raise o)
    .ok { p with request }

/-- An option by its name, with the value behind its equals sign, if any. -/
def longOption (p : Progress) (l : Level) (name : String) (value : Option String) :
    Except Stop Progress :=
  match l.long? name, value with
  | none, _ => refuse (.unknownArgument ("--" ++ name))
  | some o, some value =>
    if o.takesValue then p.attach o value else refuse (.unexpectedValue o value)
  | some o, none => if o.takesValue then p.expectValue o else p.raise l o

/-- A run of option letters. The first that takes a value takes the rest. -/
def letters (p : Progress) (l : Level) : List Char → Except Stop Progress
  | [] => .ok p
  | c :: cs =>
    match l.letter? c with
    | none => refuse (.unknownArgument ("-" ++ c.toString))
    | some o =>
      if o.takesValue then
        match cs with
        | [] => p.expectValue o
        | '=' :: value => p.attach o (String.ofList value)
        | value => p.attach o (String.ofList value)
      else do
        let p ← p.raise l o
        p.letters l cs

/-- A plain argument. The program has no use for one, and says so in words that
depend on whether it could have been a subcommand. -/
def plainArgument (p : Progress) (l : Level) (arg : String) : Except Stop Progress :=
  match l with
  | .program =>
    if p.plain && (arg = "completions" || arg = "help") then refuse (.unknownArgument arg)
    else refuse (.unknownCommand arg)
  | .completions =>
    if p.request.shell.isSome then refuse (.unknownArgument arg)
    else
      match p.pending with
      | some (.shell _) => refuse (.unknownArgument arg)
      | _ => do
        let p ← p.settle
        .ok { p with pending := some (.shell arg) }

/-- Splits an option from the value behind its first equals sign. -/
def splitValue (cs : List Char) : String × Option String :=
  let name := String.ofList (cs.takeWhile (· ≠ '='))
  match cs.dropWhile (· ≠ '=') with
  | [] => (name, none)
  | _ :: value => (name, some (String.ofList value))

def argument (p : Progress) (l : Level) (arg : String) : Except Stop Progress :=
  if p.plain then p.plainArgument l arg
  else
    match arg.toList with
    | ['-', '-'] => .ok { p with plain := true }
    | '-' :: '-' :: cs =>
      let (name, value) := splitValue cs
      p.longOption l name value
    | '-' :: c :: cs => p.letters l (c :: cs)
    | _ =>
      match p.awaits with
      | some o => .ok { p with pending := some (.option o (some arg)) }
      | none => p.plainArgument l arg

/-- A root that the environment gives is looked at where none was given. -/
def checkRoot (p : Progress) (root : Option String) : Except Stop Unit :=
  if p.request.root.isNone && root = some "" then refuse (.missingValue .root) else .ok ()

end Progress

/-- The topic of a request for help: the program, or what is named. -/
def helpTopic : List String → Stop
  | [] => .help .program
  | name :: rest =>
    if name = "completions" then
      match rest with
      | [] => .help .completions
      | name :: _ => .usage (.unknownCommand name)
    else if name = "help" then
      match rest with
      | [] => .helpOnHelp
      | name :: _ => .usage (.unknownCommand name)
    else .usage (.unknownCommand name)

/-- Reads the arguments of the program up to its subcommand, if there is one. -/
def programArguments (p : Progress) : List String → Except Stop (Progress × Option (List String))
  | [] => .ok (p, none)
  | arg :: args =>
    if !p.plain && p.awaits.isNone && arg = "help" then .error (helpTopic args)
    else if !p.plain && p.awaits.isNone && arg = "completions" then .ok (p, some args)
    else do
      let p ← p.argument .program arg
      programArguments p args

/-- Reads the arguments of the subcommand. Its shell is required. -/
def completionsRequest (root : Option String) (args : List String) : Except Stop Request := do
  let p ← args.foldlM (fun p arg => p.argument .completions arg) Progress.start
  let p ← p.settle
  p.checkRoot root
  if p.request.shell.isNone then refuse .missingShell
  .ok p.request

/-- What the subcommand is given counts before what the program is given. -/
def Request.within (sub program : Request) : Request :=
  { program with
    root := sub.root.or program.root
    config := sub.config.or program.config
    verbose := sub.verbose || program.verbose
    shell := sub.shell }

/-- Reads a command line; `root` is what the environment gives for the root. -/
def parse (root : Option String) (args : List String) : Except Stop Request := do
  let (p, rest) ← programArguments .start args
  let sub ← rest.mapM (completionsRequest root)
  let p ← p.settle
  p.checkRoot root
  let request :=
    match sub with
    | some sub => sub.within p.request
    | none => p.request
  .ok { request with root := request.root.or root }

end SecretAccess.CommandLine
