import SecretAccess.Host.Script.Condition
import SecretAccess.Host.Script.Expansion
import SecretAccess.Host.Script.Grammar
import SecretAccess.Host.Script.Printing

/-!
# Commands of the shell

The commands that a shell carries out itself, without running another script:
printing, reading, and all that changes its own state.
-/

namespace SecretAccess.Host.Script

open Text (Octets)

namespace Builtin

/-- A number as an argument. -/
def natural? (o : Octets) : Option Nat :=
  if o.isEmpty || !o.all Char.isDigit then none else some (Arithmetic.ofDigits 10 o)

def illegal (o : Octets) : Octets := octets "Illegal number: " ++ o

def badName (o : Octets) : Octets := o ++ octets ": bad variable name"

def illegalOption (c : Char) : Octets := octets "Illegal option -" ++ [c]

/-- Does something with a number, or with another one if none is given. -/
def withNumber (s : State) (command : String) (arguments : List Octets) (standard : Nat)
    (act : Nat → State) : State :=
  match arguments with
  | [] => act standard
  | o :: _ =>
    match natural? o with
    | some n => act n
    | none => s.failAs command (illegal o)

def echo (s : State) (arguments : List Octets) : State := s.say "echo" (Printing.line arguments)

def printf (s : State) (arguments : List Octets) : State :=
  match arguments with
  | ['-', '-'] :: rest => fillIn rest
  | ('-' :: c :: _) :: _ => s.complainAs "printf" (illegalOption c) 2
  | rest => fillIn rest
where
  fillIn : List Octets → State
    | [] => s.complainAs "printf" (octets "usage: printf format [arg ...]") 2
    | form :: rest =>
      let f := Printing.format form (rest.length + 1) rest
      let s := f.complaints.foldl (fun s c => s.complainAs "printf" c (if f.ends then 2 else 1))
        (s.ended 0)
      let status := s.status
      let s := s.say "printf" f.text
      s.ended (max status s.status)

def test (s : State) (command : String) (arguments : List Octets) : State :=
  let arguments? :=
    if command = "[" then
      if arguments.getLast? = some [']'] then some arguments.dropLast else none
    else some arguments
  match arguments? with
  | none => s.complainAs command (octets "missing ]") 2
  | some arguments =>
    match Condition.holds s.process arguments with
    | .ok holds => s.ended (if holds then 0 else 1)
    | .error message => s.complainAs command message 2

/-- A line with its backslashes taken out, and what follows it. A backslash in
front of the end of a line joins it with the next one. -/
def logicalLine (raw : Bool) : Octets → List Glyph × Bool × Octets
  | [] => ([], false, [])
  | '\n' :: rest => ([], true, rest)
  | '\\' :: c :: rest =>
    if raw then
      let (gs, closed, rest) := logicalLine raw (c :: rest)
      (⟨'\\', false⟩ :: gs, closed, rest)
    else if c = '\n' then logicalLine raw rest
    else
      let (gs, closed, rest) := logicalLine raw rest
      (⟨c, true⟩ :: gs, closed, rest)
  | c :: rest =>
    let (gs, closed, rest) := logicalLine raw rest
    (⟨c, false⟩ :: gs, closed, rest)

def isGap (gaps : Octets) (g : Glyph) : Bool := !g.quoted && gaps.contains g.char

def isBlankGap (gaps : Octets) (g : Glyph) : Bool := isGap gaps g && isSpaceGap g.char

/-- What the last variable is given: a single field without what ends it, or all
fields without blanks at the end. -/
def lastField (gaps : Octets) (gs : List Glyph) : List Glyph :=
  let field := gs.takeWhile fun g => !isGap gaps g
  let rest := gs.dropWhile fun g => !isGap gaps g
  let behind := rest.dropWhile (isBlankGap gaps)
  let behind := if behind.head?.any (isGap gaps) then behind.drop 1 else behind
  if (behind.dropWhile (isBlankGap gaps)).isEmpty then field
  else (gs.reverse.dropWhile (isBlankGap gaps)).reverse

/-- The fields of a line for so many variables; the last one takes what is left. -/
def divide (gaps : Octets) : Nat → List Glyph → List Octets
  | 0, _ => []
  | 1, gs => [(lastField gaps (gs.dropWhile (isBlankGap gaps))).map Glyph.char]
  | count + 1, gs =>
    let gs := gs.dropWhile (isBlankGap gaps)
    let field := gs.takeWhile fun g => !isGap gaps g
    let rest := (gs.dropWhile fun g => !isGap gaps g).dropWhile (isBlankGap gaps)
    let rest := if rest.head?.any (isGap gaps) then rest.drop 1 else rest
    field.map Glyph.char :: divide gaps count rest

/-- Reads a line from the input into variables. -/
def readLine (s : State) (raw : Bool) (names : List Octets) : State :=
  match names.find? fun o => !isName o with
  | some o => s.failAs "read" (badName o)
  | none =>
    match s.process.pending 0 with
    | .error _ => s.ended 1
    | .ok input =>
      let (line, closed, rest) := logicalLine raw input
      let s := { s with process := s.process.consume 0 (input.length - rest.length) }
      let s := (names.zip (divide s.gaps names.length line)).foldl
        (fun s (name, value) => s.assign (Octets.toText name) value) s
      if s.isRunning then s.ended (if closed then 0 else 1) else s

def read (s : State) (arguments : List Octets) : State :=
  let isFlag (o : Octets) : Bool := o.head? = some '-' && 1 < o.length
  let flags := (arguments.takeWhile isFlag).flatMap (List.drop 1)
  let names := arguments.dropWhile isFlag
  match flags.find? fun c => !(c = 'r' || c = '-') with
  | some c => s.failAs "read" (illegalOption c)
  | none =>
    if names.isEmpty then s.failAs "read" (octets "arg count")
    else readLine s (flags.contains 'r') names

/-- Options by their long names, in the order in which they are listed. -/
def longOptions : List (String × Char) :=
  [("errexit", 'e'), ("noglob", 'f'), ("ignoreeof", 'I'), ("interactive", 'i'), ("monitor", 'm'),
    ("noexec", 'n'), ("stdin", 's'), ("xtrace", 'x'), ("verbose", 'v'), ("vi", 'V'),
    ("emacs", 'E'), ("noclobber", 'C'), ("allexport", 'a'), ("notify", 'b'), ("nounset", 'u'),
    ("privileged", 'p'), ("nolog", '0'), ("debug", '1')]

def optionListing (s : State) (asCommands : Bool) : Octets :=
  let row : String × Char → String := fun (name, c) =>
    if asCommands then "set " ++ (if s.has c then "-" else "+") ++ "o " ++ name ++ "\n"
    else name ++ String.ofList (List.replicate (16 - name.length) ' ') ++
      (if s.has c then "on\n" else "off\n")
  octets ((if asCommands then "" else "Current option settings\n") ++
    String.join (longOptions.map row))

def setOption (s : State) (on : Bool) (option : Char) : State :=
  let others := s.options.filter (· ≠ option)
  { s with options := if on then others ++ [option] else others }

/-- Sets options by their letters, or says which one there is not. -/
def setLetters (s : State) (on : Bool) : List Char → State
  | [] => s
  | c :: cs =>
    if longOptions.any (·.2 = c) && c.isAlpha then setLetters (setOption s on c) on cs
    else s.failAs "set" (illegalOption c)

/-- Takes options from the front of arguments, and gives what is left, if anything
was meant to be. -/
def setOptions (s : State) : List Octets → State × Option (List Octets)
  | [] => (s, none)
  | ['-', '-'] :: rest => (s, some rest)
  | ['-'] :: rest =>
    (setOption (setOption s false 'x') false 'v', if rest.isEmpty then none else some rest)
  | [sign, 'o'] :: rest =>
    if sign ≠ '-' && sign ≠ '+' then (s, some ([sign, 'o'] :: rest))
    else
      match rest with
      | [] => (s.say "set" (optionListing s (sign = '+')), none)
      | name :: rest =>
        match longOptions.lookup (Octets.toText name) with
        | some c => setOptions (setOption s (sign = '-') c) rest
        | none => (s.failAs "set" (octets "Illegal option -o " ++ name), none)
  | (sign :: letters) :: rest =>
    if sign = '-' || sign = '+' then
      let s := setLetters s (sign = '-') letters
      if s.isRunning then setOptions s rest else (s, none)
    else (s, some ((sign :: letters) :: rest))
  | [] :: rest => (s, some ([] :: rest))

/-- New arguments, which are gone through for options anew. -/
def setArguments (s : State) (arguments : List Octets) : State :=
  { s with arguments, optionIndex := 1, optionOffset := none, status := 0 }

def set (s : State) (arguments : List Octets) : State :=
  let (s, left) := setOptions s arguments
  if !s.isRunning then s
  else
    match left with
    | some arguments => setArguments s arguments
    | none => s.ended 0

def shift (s : State) (arguments : List Octets) : State :=
  withNumber s "shift" arguments 1 fun n =>
    if s.arguments.length < n then s.failAs "shift" (octets "can't shift that many")
    else setArguments s (s.arguments.drop n)

/-- A name with a value, or without. -/
def declaration (o : Octets) : Octets × Option Octets :=
  (o.takeWhile (· ≠ '='),
    if o.contains '=' then some ((o.dropWhile (· ≠ '=')).drop 1) else none)

/-- Does something for each declaration as long as nothing is wrong with it. -/
def eachDeclaration (s : State) (command : String) (arguments : List Octets)
    (act : State → String → Option Octets → State) : State :=
  arguments.foldl (fun s o =>
    if !s.isRunning then s
    else
      let (name, value) := declaration o
      if isName name then act s (Octets.toText name) value
      else s.failAs command (badName name)) (s.ended 0)

/-- Quotes a value so that it can be read again. -/
def inQuotes (o : Octets) : Octets :=
  '\'' :: (o.flatMap fun c => if c = '\'' then "'\"'\"'".toList else [c]) ++ ['\'']

def listing (command : String) (s : State) (shows : Binding → Bool) : Octets :=
  let shown := (s.bindings.filter fun b => shows b.2).mergeSort fun a b => decide (a.1 ≤ b.1)
  shown.flatMap fun (name, b) =>
    octets (command ++ " " ++ name) ++ (b.value.elim [] fun o => '=' :: inQuotes o) ++ ['\n']

/-- Marks variables, and assigns those that come with a value. -/
def mark (command : String) (shows : Binding → Bool) (apply : Binding → Binding) (s : State)
    (arguments : List Octets) : State :=
  if arguments.isEmpty || arguments = [['-', 'p']] then
    s.say command (listing command s shows)
  else
    eachDeclaration s command arguments fun s name value =>
      let s := value.elim s (s.assign name)
      if !s.isRunning then s
      else s.bind name (apply ((s.binding? name).getD ⟨none, false, false⟩))

def unset (s : State) (arguments : List Octets) : State :=
  let ofFunctions := arguments.head? = some ['-', 'f']
  let names := if ofFunctions || arguments.head? = some ['-', 'v'] then arguments.drop 1
    else arguments
  if ofFunctions then
    { s with functions := s.functions.filter fun f => !(names.contains (octets f.1)), status := 0 }
  else
    eachDeclaration s "unset" names fun s name value =>
      if value.isSome then s.failAs "unset" (badName (octets name ++ '=' :: value.getD []))
      else if (s.binding? name).any Binding.fixed then
        s.failAs "unset" (octets (name ++ ": is read only"))
      else s.unbind name

/-- Variables that a function has for itself. -/
def localise (s : State) (arguments : List Octets) : State :=
  if s.calls = 0 then s.failAs "local" (octets "not in a function")
  else
    eachDeclaration s "local" (arguments.filter (· ≠ ['-'])) fun s name value =>
      let s :=
        if (s.hidden.lookup name).isSome then s
        else { s with hidden := (name, s.binding? name) :: s.hidden }
      value.elim s (s.assign name)

def absolute (l : Location) : Octets := '/' :: (['/'] : Octets).intercalate (l.map Octets.ofBytes)

/-- A path without names that lead nowhere or back, seen from a directory. -/
def resolve (directory path : Octets) : Octets :=
  let start : List Octets := if path.head? = some '/' then [] else directory.splitOn '/'
  let names := (start ++ path.splitOn '/').foldl (fun (names : List Octets) name =>
    if name.isEmpty || name = ['.'] then names
    else if name = ['.', '.'] then names.drop 1
    else name :: names) []
  '/' :: (['/'] : Octets).intercalate names.reverse

def placeOf? (t : FileTree) (path : Octets) : Option Location :=
  match t.locate .use (Octets.toText path) with
  | .ok l => if t.isDirectoryAt l then some l else none
  | .error _ => none

/-- Goes to a directory that is known by a path, which is shown if that was not
what was asked for. -/
def goTo (s : State) (physical shown : Bool) (path : Octets) : Option State :=
  let path := if physical then path else resolve s.directory path
  (placeOf? s.process.tree path).map fun l =>
    let directory := if physical then absolute l else path
    let process := { s.process with tree := { s.process.tree with working := l } }
    let before := s.directory
    let s := (({ s with process, directory } : State).assign "OLDPWD" before).assign "PWD" directory
    if shown then s.say "cd" (directory ++ ['\n']) else s.ended 0

/-- The directories in which a relative path is looked for. -/
def searched (s : State) (path : Octets) : List Octets :=
  if path.head? = some '/' || path.head? = some '.' then [[]]
  else
    match s.bound? "CDPATH" with
    | some directories => directories.splitOn ':' ++ [[]]
    | none => [[]]

def changeDirectory (s : State) (arguments : List Octets) : State :=
  let isFlag (o : Octets) : Bool := o = ['-', 'L'] || o = ['-', 'P'] || o = ['-', '-']
  let physical := (arguments.takeWhile isFlag).any (· = ['-', 'P'])
  let home := (s.bound? "HOME").getD []
  let (path, back) : Octets × Bool :=
    match arguments.dropWhile isFlag with
    | [] => (home, false)
    | ['-'] :: _ => ((s.bound? "OLDPWD").getD [], true)
    | path :: _ => (path, false)
  if path.isEmpty then s.ended 0
  else
    let found := (searched s path).findSome? fun d =>
      if d.isEmpty then goTo s physical back path
      else goTo s physical true (d ++ '/' :: path)
    found.getD (s.complainAs "cd" (octets "can't cd to " ++ path) 2)

def pwd (s : State) (arguments : List Octets) : State :=
  let physical := arguments.head? = some ['-', 'P']
  s.say "pwd" ((if physical then absolute s.process.tree.working else s.directory) ++ ['\n'])

/-- The signals by number; the first stands for the end of the script. -/
def signals : List (Nat × String) :=
  [(0, "EXIT"), (1, "HUP"), (2, "INT"), (3, "QUIT"), (4, "ILL"), (5, "TRAP"), (6, "ABRT"),
    (7, "BUS"), (8, "FPE"), (9, "KILL"), (10, "USR1"), (11, "SEGV"), (12, "USR2"), (13, "PIPE"),
    (14, "ALRM"), (15, "TERM"), (17, "CHLD"), (18, "CONT"), (19, "STOP"), (20, "TSTP"),
    (21, "TTIN"), (22, "TTOU"), (23, "URG"), (24, "XCPU"), (25, "XFSZ"), (26, "VTALRM"),
    (27, "PROF"), (28, "WINCH"), (29, "IO"), (30, "PWR"), (31, "SYS"), (34, "RTMIN"),
    (64, "RTMAX")]

/-- The name of a signal of those in the middle between the named ones. -/
def signalName (n : Nat) : String :=
  if n = 0 then "0"
  else (signals.lookup n).getD
    (if 34 < n && n ≤ 49 then "RTMIN+" ++ (n - 34).repr
    else if 49 < n && n < 64 then "RTMAX-" ++ (64 - n).repr
    else n.repr)

def maxSignal : Nat := 64

def signal? (o : Octets) : Option String :=
  match natural? o with
  | some n =>
    if n = 0 then some "EXIT" else if n ≤ maxSignal then some (signalName n) else none
  | none =>
    let name := String.ofList (o.map Char.toUpper)
    (signals.find? (·.2 = name)).map Prod.snd

def numberOf (name : String) : Nat := ((signals.find? (·.2 = name)).map Prod.fst).getD 0

def trapListing (s : State) : Octets :=
  (List.range (maxSignal + 1)).flatMap fun n =>
    let name := if n = 0 then "EXIT" else signalName n
    match s.traps.lookup name with
    | some action => octets "trap -- " ++ inQuotes action ++ octets (" " ++ name ++ "\n")
    | none => []

/-- Says what to do on signals: an action, nothing at all, or what is usual. -/
def trap (s : State) (arguments : List Octets) : State :=
  let illegal? : Option Char :=
    match arguments with
    | ('-' :: c :: _) :: _ => if c = '-' then none else some c
    | _ => none
  let arguments := if arguments.head? = some ['-', '-'] then arguments.drop 1 else arguments
  let (action, names) : Option Octets × List Octets :=
    match arguments with
    | [] => (none, [])
    | [name] => (none, [name])
    | action :: names =>
      if action = ['-'] then (none, names)
      else if (natural? action).isSome then (none, action :: names)
      else (some action, names)
  match illegal? with
  | some c => s.failAs "trap" (illegalOption c)
  | none =>
    if arguments.isEmpty then s.say "trap" (trapListing s)
    else
      names.foldl (fun s o =>
        match signal? o with
        | none => (s.print 2 (octets "trap: " ++ o ++ octets ": bad trap\n")).ended 1
        | some name =>
          let others := s.traps.filter (·.1 ≠ name)
          { s with traps := others ++ (action.elim [] fun a => [(name, a)]) }) (s.ended 0)

/-- How it is put that a signal ended a program. -/
def deathWord? (n : Nat) : Option String :=
  match n with
  | 1 => some "Hangup"
  | 3 => some "Quit"
  | 4 => some "Illegal instruction"
  | 5 => some "Trace/breakpoint trap"
  | 6 => some "Aborted"
  | 7 => some "Bus error"
  | 8 => some "Floating point exception"
  | 9 => some "Killed"
  | 10 => some "User defined signal 1"
  | 11 => some "Segmentation fault"
  | 12 => some "User defined signal 2"
  | 14 => some "Alarm clock"
  | 15 => some "Terminated"
  | _ => none

/-- Signals that end nothing unless a script asks for it. -/
def harmless : List String := ["EXIT", "CHLD", "CONT", "URG", "WINCH"]

/-- A signal that the script gets: an action takes it up, or it may be the end. -/
def receive (s : State) (name : String) : State :=
  if harmless.contains name then
    if (s.traps.lookup name).any (!·.isEmpty) then { s with signals := s.signals ++ [name] } else s
  else
    match if name = "KILL" || name = "STOP" then none else s.traps.lookup name with
    | some action => if action.isEmpty then s else { s with signals := s.signals ++ [name] }
    | none => { s with flow := .killed, status := 128 + numberOf name }

def killUsage : Octets :=
  octets "Usage: kill [-s sigspec | -signum | -sigspec] [pid | job]... or\nkill -l [exitstatus]"

/-- What a signal is sent to: the script itself, or nothing that there is. -/
def sendTo (name : String) (s : State) (o : Octets) : State :=
  let target := if o.head? = some '-' then o.drop 1 else o
  if !s.isRunning then s
  else if o.head? = some '%' then s.failAs "kill" (octets "No such job: " ++ o)
  else
    match natural? target with
    | none => s.failAs "kill" (illegal o)
    | some n =>
      if n = ownNumber || n = 0 then receive s name
      else s.complainAs "kill" (octets "No such process\n") 1

def signalListing : Octets :=
  (List.range (maxSignal + 1)).flatMap fun n => octets (signalName n ++ "\n")

/-- The name of the signal that an exit status tells of. -/
def nameSignal (s : State) (o : Octets) : State :=
  match natural? o with
  | none => s.failAs "kill" (illegal o)
  | some n =>
    let n := if 128 < n then n - 128 else n
    if 0 < n && n ≤ maxSignal then s.say "kill" (octets (signalName n ++ "\n"))
    else s.failAs "kill" (octets "invalid signal number or exit status: " ++ o)

def kill (s : State) (arguments : List Octets) : State :=
  let send (name : Option String) (spelling : Octets) (targets : List Octets) : State :=
    match name with
    | none => s.failAs "kill" (octets "invalid signal number or name: " ++ spelling)
    | some name =>
      if targets.isEmpty then s.failAs "kill" killUsage
      else targets.foldl (sendTo name) (s.ended 0)
  match arguments with
  | [] => s.failAs "kill" killUsage
  | ['-', 'l'] :: rest =>
    match rest with
    | [] => s.say "kill" signalListing
    | o :: _ => nameSignal s o
  | ['-', 's'] :: rest =>
    match rest with
    | [] => s.failAs "kill" (octets "No arg for -s option")
    | o :: rest => send (signal? o) o rest
  | ['-', '-'] :: rest => send (some "TERM") [] rest
  | ('-' :: o) :: rest =>
    match signal? o with
    | some name => send (some name) o rest
    | none => s.failAs "kill" (illegalOption (o.head?.getD '-'))
  | targets => send (some "TERM") [] targets

def leave (s : State) (command : String) (arguments : List Octets) (flow : Nat → Flow) : State :=
  withNumber s command arguments 1 fun n =>
    if n = 0 then s.failAs command (illegal (arguments.head?.getD []))
    else if s.loops = 0 then s.ended 0
    else { s with flow := flow (min n s.loops), status := 0 }

def exit (s : State) (arguments : List Octets) : State :=
  withNumber s "exit" arguments (s.leaving.getD s.status) fun n => s.stop (n % 256)

def giveBack (s : State) (arguments : List Octets) : State :=
  withNumber s "return" arguments s.status fun n => { s with flow := .returning, status := n }

/-- What is behind a letter among the letters that are allowed. -/
def behindLetter? (letter : Char) : Octets → Option Octets
  | [] => none
  | c :: rest =>
    if c = letter && letter ≠ ':' then some rest else behindLetter? letter rest

/-- Where the next option is: the index behind its argument, and what that one
still holds. -/
def nextOption? (s : State) (given : List Octets) : Nat × Option Octets :=
  let index := s.optionIndex
  let current := (s.optionOffset.bind fun n =>
    if index ≤ 1 then none else (given[index - 2]?).map (List.drop n)).getD []
  if !current.isEmpty then (index, some current)
  else
    match given[index - 1]? with
    | some ['-', '-'] => (index + 1, none)
    | some ('-' :: c :: cs) => (index + 1, some (c :: cs))
    | _ => (index, none)

/-- The next option among arguments: its letter and value, or that there is none. -/
def getopts (s : State) (arguments : List Octets) : State :=
  match arguments with
  | allowed :: name :: given =>
    let given := if given.isEmpty then s.arguments else given
    let silent := allowed.head? = some ':'
    let settle (s : State) (index : Nat) (rest : Option Octets) (status : Nat)
        (letter : Octets) : State :=
      let s := s.assign "OPTIND" (ofNat index)
      let offset := rest.bind fun rest => (given[index - 2]?).map fun o => o.length - rest.length
      let s := { s with optionIndex := index, optionOffset := offset }
      if !s.isRunning then s
      else if isName name then (s.assign (Octets.toText name) letter).ended status
      else s.failAs "getopts" (badName name)
    match nextOption? s given with
    | (index, none) => settle s index none 1 ['?']
    | (index, some []) => settle s index none 1 ['?']
    | (index, some (letter :: rest)) =>
      match behindLetter? letter (if silent then allowed.drop 1 else allowed) with
      | none =>
        if silent then settle (s.assign "OPTARG" [letter]) index (some rest) 0 ['?']
        else
          let s := s.print 2 (octets "Illegal option -" ++ [letter, '\n'])
          settle (s.unbind "OPTARG") index (some rest) 0 ['?']
      | some (':' :: _) =>
        if !rest.isEmpty then settle (s.assign "OPTARG" rest) index none 0 [letter]
        else
          match given[index - 1]? with
          | some value => settle (s.assign "OPTARG" value) (index + 1) none 0 [letter]
          | none =>
            if silent then settle (s.assign "OPTARG" [letter]) index (some []) 0 [':']
            else
              let s := s.print 2 (octets "No arg for -" ++ letter :: octets " option\n")
              settle (s.unbind "OPTARG") index (some []) 0 ['?']
      | some _ => settle (s.assign "OPTARG" []) index (some rest) 0 [letter]
  | _ => s.failAs "getopts" (octets "Usage: getopts optstring var [arg]")

/-- Other texts for the names of commands. -/
def setAlias (s : State) (arguments : List Octets) : State :=
  let shown (name : String) (text : Octets) : Octets :=
    octets name ++ '=' :: inQuotes text ++ ['\n']
  if arguments.isEmpty then s.say "alias" (s.aliases.flatMap fun e => shown e.1 e.2)
  else
    arguments.foldl (fun s o =>
      let (name, text) := declaration o
      let name := Octets.toText name
      match text, s.aliases.lookup name with
      | some text, _ => { s with aliases := (name, text) :: s.aliases.filter (·.1 ≠ name) }
      | none, some text =>
        let status := s.status
        (s.say "alias" (shown name text)).ended status
      | none, none => (s.print 2 (octets "alias: " ++ o ++ octets " not found\n")).ended 1)
      (s.ended 0)

def unalias (s : State) (arguments : List Octets) : State :=
  if arguments.head? = some ['-', 'a'] then { s with aliases := [], status := 0 }
  else
    arguments.foldl (fun s o =>
      let name := Octets.toText o
      if (s.aliases.lookup name).isSome then
        { s with aliases := s.aliases.filter (·.1 ≠ name) }
      else (s.print 2 (octets "unalias: " ++ o ++ octets " not found\n")).ended 1) (s.ended 0)

def octalDigits (n : Nat) : Octets :=
  let ds := Nat.toDigits 8 n
  List.replicate (4 - ds.length) '0' ++ ds

/-- What a mode lets the user, the group and others do. -/
def modeInLetters (n : Nat) : Octets :=
  let row (name : Char) (bits : Nat) : Octets :=
    name :: '=' :: (if bits / 4 % 2 = 0 then ['r'] else []) ++
      (if bits / 2 % 2 = 0 then ['w'] else []) ++ if bits % 2 = 0 then ['x'] else []
  ([','] : Octets).intercalate [row 'u' (n / 64), row 'g' (n / 8), row 'o' n]

def umask (s : State) (arguments : List Octets) : State :=
  match arguments with
  | [] => s.say "umask" (octalDigits s.mask ++ ['\n'])
  | ['-', 'S'] :: _ => s.say "umask" (modeInLetters s.mask ++ ['\n'])
  | o :: _ =>
    if o.all fun c => '0' ≤ c && c ≤ '7' then
      { s with mask := Arithmetic.ofDigits 8 o % 512, status := 0 }
    else if o.head?.any Char.isDigit then s.failAs "umask" (illegal o)
    else s.ended 0

/-- The end of commands that ran beside the script. -/
def wait (s : State) (arguments : List Octets) : State :=
  arguments.foldl (fun s o =>
    if !s.isRunning then s
    else if o.head? = some '%' then s.failAs "wait" (octets "No such job: " ++ o)
    else
      match natural? o with
      | none => s.failAs "wait" (illegal o)
      | some n => s.ended ((s.jobs.lookup n).getD 127)) (s.ended 0)

/-- The commands of the shell that leave other scripts alone. -/
def table : List (String × (State → List Octets → State)) :=
  [(":", fun s _ => s.ended 0), ("true", fun s _ => s.ended 0), ("false", fun s _ => s.ended 1),
    ("echo", echo), ("printf", printf), ("test", fun s => test s "test"),
    ("[", fun s => test s "["), ("read", read), ("set", set), ("shift", shift),
    ("export", mark "export" Binding.exported fun b => { b with exported := true }),
    ("readonly", mark "readonly" Binding.fixed fun b => { b with fixed := true }),
    ("unset", unset), ("local", localise), ("cd", changeDirectory), ("chdir", changeDirectory),
    ("pwd", pwd), ("umask", umask), ("trap", trap), ("kill", kill),
    ("break", fun s as => leave s "break" as .breaking),
    ("continue", fun s as => leave s "continue" as .continuing),
    ("exit", exit), ("return", giveBack), ("getopts", getopts), ("alias", setAlias),
    ("unalias", unalias), ("wait", wait), ("hash", fun s _ => s.ended 0),
    ("jobs", fun s _ => s.ended 0), ("bg", fun s _ => s.failAs "bg" (octets "No current job")),
    ("fg", fun s _ => s.failAs "fg" (octets "No current job")),
    ("times", fun s _ => s.say "times" (octets "0m0s 0m0s\n0m0s 0m0s\n")),
    ("ulimit", fun s _ => s.say "ulimit" (octets "unlimited\n"))]

/-- Commands of the shell that run other scripts or programs. -/
def running : List String := [".", "command", "eval", "exec", "type"]

def names : List String := running ++ table.map Prod.fst

end Builtin

end SecretAccess.Host.Script
