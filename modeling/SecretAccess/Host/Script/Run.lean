import SecretAccess.Host.Program
import SecretAccess.Host.Script.Builtin
import SecretAccess.Host.Utility
import SecretAccess.Host.Utility.Batch

/-!
# Running scripts

Commands change the state of a script one after the other. Other programs are
run to their end before the script goes on, and so is every part of a pipeline
before the next.
-/

namespace SecretAccess.Host.Script

open Text (Octets)

/-- Why a program cannot be started, as a shell says it. -/
def startingReason : Fault → String
  | .notFound | .notADirectory => "not found"
  | f => f.reason

def startingStatus : Fault → Nat
  | .notFound | .notADirectory | .nameTooLong | .tooManyLinks => 127
  | _ => 126

/-- Why a file cannot be opened, as a shell says it. -/
def openingReason (d : Direction) (f : Fault) : String :=
  match d, f with
  | .read, .notFound | .read, .notADirectory => "No such file"
  | _, .notFound | _, .notADirectory => "Directory nonexistent"
  | _, f => f.reason

def openingComplaint (d : Direction) (path : Octets) (f : Fault) : Octets :=
  octets (if d = .read then "cannot open " else "cannot create ") ++ path ++
    octets (": " ++ openingReason d f)

/-- Opens a file under a number. -/
def openUnder (s : State) (number : Nat) (d : Direction) (path : Octets) : State × Bool :=
  let isKept : Bool :=
    d = .write && s.has 'C' && (Condition.nodeAt? s.process.tree path).any Condition.isFile
  match if isKept then .error .alreadyExists else s.process.openFile d path with
  | .ok (process, channel) => ({ s with process := process.bind number channel }, true)
  | .error f => (s.complain (openingComplaint d path f), false)

/-- Lets a number stand for what another one stands for. -/
def duplicate (s : State) (number : Nat) (source : Octets) : State × Bool :=
  match source with
  | ['-'] => ({ s with process := s.process.close number }, true)
  | [c] =>
    if !c.isDigit then badNumber
    else
      match s.process.descriptors.lookup (c.toNat - 48) with
      | some channel => ({ s with process := s.process.bind number channel }, true)
      | none => (s.complain (source ++ octets ": Bad file descriptor"), false)
  | _ => badNumber
where
  badNumber : State × Bool :=
    let after := ({ s with line := s.position } : State).fail
      (octets "Syntax error: Bad fd number")
    ({ after with line := s.line }, false)

/-- The channels that redirections make, and whether all of them could be made. -/
def applyRedirections (capture : Capture) (s : State) : List Redirection → State × Bool
  | [] => (s, true)
  | r :: rs =>
    let (s, done) :=
      match r with
      | .file number d path =>
        let (s, path) := expandText capture s path
        if s.isRunning then openUnder s number d path else (s, false)
      | .duplicate number source =>
        let (s, source) := expandText capture s source
        if s.isRunning then duplicate s number source else (s, false)
      | .document number body =>
        let (s, content) := expandText capture s body
        ({ s with process := s.process.supply number (.pipe content) }, s.isRunning)
    if done then applyRedirections capture s rs else (s, false)

/-- Gives the numbers of a state back to what they stood for before. -/
def restore (before after : State) : State :=
  { after with process := { after.process with descriptors := before.process.descriptors } }

/-- Repeats a step until it says that it is enough. -/
def rounds (step : State → State × Bool) : Nat → State → State
  | 0, s => s
  | n + 1, s =>
    let (s, again) := step s
    if again then rounds step n s else s

/-- More than any script that ends repeats a loop. -/
def maxRounds : Nat := 1000000

/-- What the end of the body of a loop means: how the script goes on, and whether
the loop does. -/
def endOfBody (s : State) : State × Bool :=
  match s.flow with
  | .running => (s, true)
  | .breaking n => ({ s with flow := if n ≤ 1 then .running else .breaking (n - 1) }, false)
  | .continuing n =>
    if n ≤ 1 then ({ s with flow := .running }, true)
    else ({ s with flow := .continuing (n - 1) }, false)
  | .returning | .ended | .failed | .killed => (s, false)

/-- A failure that nothing depends on ends a strict script. -/
def settle (tested : Bool) (s : State) : State :=
  if s.isRunning && !tested && s.has 'e' && s.status ≠ 0 then s.stop s.status else s

/-- The words of a command that assign keep their values in one piece. -/
def declares : List String := ["alias", "export", "local", "readonly"]

def expandDeclaration (capture : Capture) (s : State) (w : Word) : State × List Octets :=
  match w.assignment? with
  | some (name, value) =>
    let (s, value) := expandValue capture s value
    (s, [octets name ++ '=' :: value])
  | none => expandWord capture s w

def expandCommand (capture : Capture) (s : State) (ws : List Word) : State × List Octets :=
  match ws with
  | [] => (s, [])
  | w :: more =>
    let (s, first) := expandWord capture s w
    if (w.bare?.any declares.contains) then
      more.foldl (fun (s, fields) w =>
        if s.isRunning then
          let (s, next) := expandDeclaration capture s w
          (s, fields ++ next)
        else (s, fields)) (s, first)
    else if s.isRunning then
      let (s, rest) := expandWords capture s more
      (s, first ++ rest)
    else (s, first)

/-- Assigns, one after the other, with values that see those before. -/
def assignAll (capture : Capture) (s : State) (bindings : List (String × Word)) : State :=
  bindings.foldl (fun s (name, w) =>
    if s.isRunning then
      let (s, value) := expandValue capture s w
      if s.isRunning then s.assign name value else s
    else s) s

/-- Shows a command before it is run. -/
def trace (capture : Capture) (s : State) (before : List (String × Word))
    (fields : List Octets) : State :=
  if !s.has 'x' then s
  else
    let front := (s.bound? "PS4").getD ['+', ' ']
    let quiet := { s with options := s.options.filter (· ≠ 'x') }
    let (_, front) := expandText capture quiet (wordOf .document s.line front)
    let assigned := before.map fun (name, _) => octets name ++ '=' :: (s.bound? name).getD []
    s.print 2 (front ++ ([' '] : Octets).intercalate (assigned ++ fields) ++ ['\n'])

/-- The directories in which programs are usually found. -/
def standardPath : Octets :=
  octets "/usr/local/sbin:/usr/local/bin:/usr/sbin:/usr/bin:/sbin:/bin"

/-- Where a name may lead that is looked for in directories. -/
def candidates (directories name : Octets) : List Octets :=
  if name.contains '/' then [name]
  else
    (directories.splitOn ':').map fun d => if d.isEmpty then name else d ++ '/' :: name

/-- Where a program is found by its name. -/
def lookUp (t : FileTree) (directories name : Octets) : Except Fault Octets :=
  if name.contains '/' then .ok name
  else
    let paths := candidates directories name
    match paths.find? fun path => t.isExecutable (Octets.toText path) with
    | some path => .ok path
    | none =>
      if paths.any fun path => t.pathExists (Octets.toText path) then .error .permissionDenied
      else .error .notFound

/-- Finds a program by its name, which it is then started by. What is no program
but can be run is a script. -/
def loadNamed (t : FileTree) (directories command : Octets) (arguments : List Octets) :
    Except Fault Program.Image := do
  let path ← lookUp t directories command
  match Program.load t Program.maxDepth path arguments with
  | .error .badExecutable => .ok ⟨"sh", octets "/bin/sh", path :: arguments⟩
  | .error f => .error f
  | .ok image => .ok (if image.name = path then { image with name := command } else image)

def commandPath (s : State) (name : Octets) : Except Fault Octets :=
  lookUp s.process.tree ((s.bound? "PATH").getD []) name

/-- What a name stands for as a command. -/
def kindOf (s : State) (name : Octets) : Option Octets :=
  let text := Octets.toText name
  if reservedWords.contains text then some (octets " is a shell keyword")
  else
    match s.aliases.lookup text with
    | some value => some (octets " is an alias for " ++ value)
    | none =>
      if (s.functions.lookup text).isSome then some (octets " is a shell function")
      else if specialCommands.contains text then some (octets " is a special shell builtin")
      else if Builtin.names.contains text then some (octets " is a shell builtin")
      else
        ((commandPath s name).toOption.filter fun path =>
          s.process.tree.pathExists (Octets.toText path)).map fun path => octets " is " ++ path

def describe (s : State) (command : String) (names : List Octets) : State :=
  names.foldl (fun s name =>
    match kindOf s name with
    | some kind =>
      let before := s.status
      let s := s.say command (name ++ kind ++ ['\n'])
      s.ended (max before s.status)
    | none => (s.print 1 (name ++ octets ": not found\n")).ended 127) (s.ended 0)

/-- The name of a command if it is one, or the path that leads to it. -/
def whereIs (s : State) (name : Octets) : State :=
  let text := Octets.toText name
  match s.aliases.lookup text with
  | some value => s.say "command" (octets ("alias " ++ text ++ "=") ++ Builtin.inQuotes value ++ ['\n'])
  | none =>
    let isOwn := reservedWords.contains text || (s.functions.lookup text).isSome ||
      Builtin.names.contains text
    let isThere (path : Octets) : Bool := s.process.tree.isExecutable (Octets.toText path)
    match if isOwn then some name else (commandPath s name).toOption.filter isThere with
    | some path => s.say "command" (path ++ ['\n'])
    | none => s.ended 127

/-- The state in which a script begins. -/
def begin (p : Process) (name : Octets) (arguments : List Octets) (options : List Char) : State :=
  let given := (p.environment.filter fun e => isName (octets e.1)).map fun (name, value) =>
    (name, (⟨some value, true, false⟩ : Binding))
  let own (value : Octets) : Binding := ⟨some value, false, false⟩
  let directory := Builtin.absolute p.tree.working
  let s : State :=
    { process := p, name, arguments, functions := [], aliases := [], traps := [], signals := []
      bindings := given ++ [("PATH", own standardPath)]
      options, directory, mask := 18, status := 0, captured := 0, line := 0, position := 0
      behalf := none, jobs := [], deaths := [], leaving := none, loops := 0, calls := 0
      hidden := [], optionIndex := 1, optionOffset := none, flow := .running }
  s.bind "IFS" (own standardGaps) |>.bind "OPTIND" (own ['1'])
    |>.bind "PPID" (own (ofNat (ownNumber - 1))) |>.bind "PWD" ⟨some directory, true, false⟩

/-- How a shell was called: its options, whether the first operand is the script
itself, and the operands; or what is wrong. -/
structure Call where
  options : List Char
  isText : Bool
  operands : List Octets
  mistake : Option Octets

namespace Call

def wrong (message : Octets) : Call := ⟨[], false, [], some message⟩

def add (options : List Char) (isText : Bool) (c : Call) : Call :=
  { c with options := options ++ c.options, isText := isText || c.isText }

def parse : List Octets → Call
  | [] => ⟨[], false, [], none⟩
  | ['-', '-'] :: rest | ['-'] :: rest => ⟨[], false, rest, none⟩
  | [sign, 'o'] :: name :: rest =>
    if sign ≠ '-' && sign ≠ '+' then ⟨[], false, [sign, 'o'] :: name :: rest, none⟩
    else
      match Builtin.longOptions.lookup (Octets.toText name) with
      | some c => (parse rest).add (if sign = '-' then [c] else []) false
      | none => wrong (octets "Illegal option -o " ++ name)
  | ('-' :: letters) :: rest =>
    let isKnown (c : Char) : Bool :=
      c = 'c' || (c.isAlpha && Builtin.longOptions.any (·.2 = c))
    match letters.find? fun c => !isKnown c with
    | some c => wrong (Builtin.illegalOption c)
    | none => (parse rest).add (letters.filter (· ≠ 'c')) (letters.contains 'c')
  | operands => ⟨[], false, operands, none⟩

end Call

/-- How a program came to its end: the process as it left it, its status, and the
signal that ended it, if one did. -/
structure Ending where
  process : Process
  status : Nat
  signal : Option Nat

/-- The end of a program that says something last. -/
def saying (p : Process) (number : Nat) (text : Octets) (status : Nat) : Ending :=
  ⟨((p.write number text).toOption).getD p, status, none⟩

def helpHint (name : Octets) : Octets :=
  octets "Try '" ++ name ++ octets " --help' for more information.\n"

/-- The end of a program that was not called as it has to be. -/
def refuseUse (p : Process) (name message : Octets) (status : Nat) : Ending :=
  saying p 2 (name ++ [':', ' '] ++ message ++ ['\n'] ++ helpHint name) status

/-- The end of a program that cannot start another one. -/
def refuseCommand (p : Process) (name command : Octets) (f : Fault) : Ending :=
  saying p 2 (name ++ [':', ' '] ++ command ++ octets (": " ++ f.reason ++ "\n"))
    (startingStatus f)

/-- Says which signals ended other programs. -/
def announce (s : State) : State :=
  let s := s.deaths.foldl (fun s word => s.print 2 (octets (word ++ "\n"))) s
  { s with deaths := [] }

/-- Shows what has been read of a script, if that is asked for. -/
def showLines (s : State) (first stop : Nat) (ls : List Octets) : State :=
  if s.has 'v' then s.print 2 (Octets.unlines ((ls.drop first).take (stop - first))) else s

/-- The line that a reader is at who has taken the tokens up to the rest. -/
def reachedLine (last : Nat) (ls rest : List Lexeme) : Nat :=
  if rest.isEmpty then last
  else ((ls.take (ls.length - rest.length)).getLast?.map Lexeme.reached).getD last

/-- Takes the lines of a script one by one as long as it runs. -/
def runLines (step : State → List Lexeme → State × List Lexeme) :
    Nat → State → List Lexeme → State
  | 0, s, _ => s
  | n + 1, s, ls =>
    match skipNewlines ls with
    | [] => s
    | ls =>
      if !s.isRunning then s
      else
        let (s, rest) := step s ls
        runLines step n s rest

/-- What is run: the text, the number of its first line, and whether it is read
from a file. -/
structure Source where
  text : Octets
  first : Nat
  isFile : Bool

/-- The text in the place of an expression. -/
def Source.ofText (text : Octets) : Source := ⟨text, 1, false⟩

mutual

/-- Runs a text line by line. -/
def runText : Nat → Bool → State → Source → State
  | 0, _, s, _ => s.stop 2
  | fuel + 1, tested, s, source =>
    let scanned := lexemes source.first source.text
    let ls := scanned.lexemes
    let texts := if source.isFile then Octets.lines source.text else []
    let last := source.first + countLines source.text
    let step (s : State) (ls : List Lexeme) : State × List Lexeme :=
      let sheet : Sheet := ⟨scanned.documents, last, s.aliases⟩
      let mistaken (m : Mistake) : State × List Lexeme :=
        let s := showLines s (s.position - 1) m.line texts
        (({ s with line := m.line } : State).fail (octets ("Syntax error: " ++ m.message)), [])
      match line sheet (ls.length + 1) ls with
      | .error m => mistaken m
      | .ok (c, rest) =>
        let taken := ls.take (ls.length - rest.length)
        match innerMistake? (ls.length + 8) s.aliases taken with
        | some m => mistaken m
        | none =>
          let position := reachedLine last ls rest
          let stop := if rest.isEmpty then position else position - 1
          let s := showLines s (s.position - 1) stop texts
          (runCommand fuel tested { s with position } c, rest)
    let after := runLines step (ls.length + 1) { s with position := source.first } ls
    let after := if after.isRunning then showLines after (after.position - 1) last texts else after
    { after with position := s.position }

/-- Runs a text apart for what it prints. -/
def capture : Nat → State → Nat → Octets → State × Octets
  | 0, s, _, _ => (s.stop 2, [])
  | fuel + 1, s, first, script =>
    let (process, channel) := s.process.addChannel (.pipe [])
    let status := s.status
    let s := s.isolated fun s =>
      finish fuel
        (runText fuel false { s with process := process.bind 1 channel } ⟨script, first, false⟩)
    ({ s with captured := s.status, status }, s.process.contentOf channel)

/-- Does what is to be done at the end of a script. -/
def finish : Nat → State → State
  | 0, s => s
  | fuel + 1, s =>
    match if s.flow = .killed then none else s.traps.lookup "EXIT" with
    | none => s
    | some action =>
      let before := s.status
      let traps := s.traps.filter (·.1 ≠ "EXIT")
      let s := runText fuel false
        { s with flow := .running, traps, leaving := some before, loops := 0, calls := 0 }
        (.ofText action)
      if s.flow = .ended || s.flow = .killed then s else s.stop before

/-- Answers the signals that have come. -/
def answer : Nat → State → State
  | 0, s => s
  | fuel + 1, s =>
    s.signals.foldl (fun s name =>
      match if s.isRunning then s.traps.lookup name else none with
      | some action =>
        let status := s.status
        let leaving := s.leaving
        let s := runText fuel false { s with leaving := some status } (.ofText action)
        if s.isRunning then { s with status, leaving } else s
      | none => s) { s with signals := [] }

def runCommand : Nat → Bool → State → Command → State
  | 0, _, s, _ => s.stop 2
  | fuel + 1, tested, s, c =>
    if !s.isRunning || s.has 'n' then s
    else
      match c with
      | .simple line assignments words rs =>
        settle tested (answer fuel (announce (runSimple fuel tested s line assignments words rs)))
      | .sequence first second =>
        runCommand fuel tested (runCommand fuel tested s first) second
      | .both first second =>
        let s := runCommand fuel true s first
        if s.isRunning && s.status = 0 then runCommand fuel tested s second else s
      | .either first second =>
        let s := runCommand fuel true s first
        if s.isRunning && s.status ≠ 0 then runCommand fuel tested s second else s
      | .negation c =>
        let s := runCommand fuel true s c
        if s.isRunning then s.ended (if s.status = 0 then 1 else 0) else s
      | .pipeline cs => settle tested (runPipeline fuel tested s none cs)
      | .background c =>
        let s := s.isolated fun s =>
          finish fuel (runCommand fuel tested
            { s with process := s.process.supply 0 (.device .null) } c)
        if !s.isRunning then s
        else
          let number := ownNumber + 1 + s.jobs.length
          let s := { s with jobs := (number, s.status) :: s.jobs }
          (s.bind "!" ⟨some (ofNat number), false, false⟩).ended 0
      | .subshell c =>
        settle tested (s.isolated fun s => finish fuel (runCommand fuel tested s c))
      | .redirected line c rs =>
        let before := s
        match applyRedirections (capture fuel) { s with line } rs with
        | (s, false) => restore before (if s.isRunning then s.ended 2 else s)
        | (s, true) => restore before (runCommand fuel tested s c)
      | .branch test yes no =>
        let s := runCommand fuel true s test
        if !s.isRunning then s
        else if s.status = 0 then runCommand fuel tested s yes
        else
          match no with
          | some no => runCommand fuel tested s no
          | none => s.ended 0
      | .loop wanted test body =>
        let step (status : Nat) (s : State) : Nat × State × Bool :=
          let s := runCommand fuel true s test
          if !s.isRunning then
            let (s, again) := endOfBody s
            (status, s, again)
          else if (s.status = 0) ≠ wanted then (status, s, false)
          else
            let (s, again) := endOfBody (runCommand fuel tested s body)
            (s.status, s, again)
        let s := rounds (fun s =>
          let (status, s, again) := step s.captured s
          ({ s with captured := status }, again)) maxRounds
          { s with loops := s.loops + 1, captured := 0 }
        let s := { s with loops := s.loops - 1 }
        if s.isRunning then s.ended s.captured else s
      | .each line name words body =>
        let (s, fields) : State × List Octets :=
          match words with
          | some words => expandWords (capture fuel) { s with line } words
          | none => (s, s.arguments)
        if !s.isRunning then s
        else
          let s := { s with loops := s.loops + 1, status := 0 }
          let (s, _) := fields.foldl (fun (s, again) field =>
            if again then
              let s := s.assign name field
              if s.isRunning then endOfBody (runCommand fuel tested s body) else (s, false)
            else (s, false)) (s, true)
          { s with loops := s.loops - 1 }
      | .choice line subject cases =>
        let (s, text) := expandText (capture fuel) { s with line } subject
        if s.isRunning then runCases fuel tested (s.ended 0) text cases else s
      | .definition name body =>
        ({ s with functions := (name, body) :: s.functions.filter (·.1 ≠ name) } : State).ended 0

def runCases : Nat → Bool → State → Octets → List (List Word × Option Command) → State
  | 0, _, s, _, _ => s.stop 2
  | _ + 1, _, s, _, [] => s
  | fuel + 1, tested, s, text, (patterns, body) :: rest =>
    let (s, fits) := patterns.foldl (fun (s, found) w =>
      if found || !s.isRunning then (s, found)
      else
        let (s, items) := expandPattern (capture fuel) s w
        (s, Glob.fits items text)) (s, false)
    if !s.isRunning then s
    else if fits then body.elim s fun c => runCommand fuel tested s c
    else runCases fuel tested s text rest

/-- What one command of a pipeline prints is what the next one reads. -/
def runPipeline : Nat → Bool → State → Option Nat → List Command → State
  | 0, _, s, _, _ => s.stop 2
  | _ + 1, _, s, _, [] => s
  | fuel + 1, tested, s, source, c :: cs =>
    let (process, channel) := s.process.addChannel (.pipe [])
    let s := { s with process }
    let s := s.isolated fun s =>
      let p := source.elim s.process (s.process.bind 0)
      let p := if cs.isEmpty then p else p.bind 1 channel
      finish fuel (runCommand fuel tested { s with process := p } c)
    if cs.isEmpty || !s.isRunning then s else runPipeline fuel tested s (some channel) cs

def runSimple : Nat → Bool → State → Nat → List (String × Word) → List Word →
    List Redirection → State
  | 0, _, s, _, _, _, _ => s.stop 2
  | fuel + 1, tested, s, line, assignments, words, rs =>
    let (s, fields) := expandCommand (capture fuel) { s with line, captured := 0 } words
    if !s.isRunning then s
    else
      let before := s
      let name := (fields.head?.map Octets.toText).getD ""
      let isSpecial := specialCommands.contains name
      match applyRedirections (capture fuel) s rs with
      | (s, false) =>
        let s := restore before s
        if !s.isRunning then s else if isSpecial then s.stop 2 else s.ended 2
      | (s, true) =>
        let old := assignments.map fun (name, _) => (name, s.binding? name)
        let s := assignAll (capture fuel) s assignments
        if !s.isRunning then restore before s
        else
          let s := restore s (trace (capture fuel) (restore before s) assignments fields)
          match fields with
          | [] => restore before (s.ended s.captured)
          | command :: arguments =>
            if isSpecial && (s.functions.lookup name).isNone then
              let s := execute fuel tested s true command arguments
              if name = "exec" && arguments.isEmpty then s else restore before s
            else
              let s := assignments.foldl (fun s (name, _) =>
                (s.binding? name).elim s fun b => s.bind name { b with exported := true }) s
              let s := execute fuel tested s true command arguments
              old.foldl (fun s (name, b) => b.elim (s.unbind name) (s.bind name)) (restore before s)

/-- A command with its words expanded. A mistake in one of the shell's own ends
the script if the command is special and called as such. -/
def execute : Nat → Bool → State → Bool → Octets → List Octets → State
  | 0, _, s, _, _, _ => s.stop 2
  | fuel + 1, tested, s, plainly, command, arguments =>
    let name := Octets.toText command
    let settled (s : State) : State :=
      if plainly && specialCommands.contains name then s else s.recover
    match if plainly then s.functions.lookup name else none with
    | some body => callFunction fuel tested s body arguments
    | none =>
      match Builtin.table.lookup name with
      | some act => settled (act s arguments)
      | none =>
        match name with
        | "eval" =>
          let text := ([' '] : Octets).intercalate arguments
          let after := runText fuel tested { s with status := 0, behalf := some command }
            (.ofText text)
          settled { after with behalf := s.behalf }
        | "exec" =>
          match arguments with
          | [] => s.ended 0
          | command :: arguments =>
            let after := runProgram fuel { s with behalf := some (octets "exec") } command arguments
            if after.isRunning then { announce after with flow := .ended, traps := [] } else after
        | "type" => describe s name arguments
        | "command" =>
          match arguments with
          | [] => s.ended 0
          | ['-', 'v'] :: names => names.head?.elim (s.ended 0) (whereIs s)
          | ['-', 'V'] :: names => describe s name (names.take 1)
          | ['-', 'p'] :: command :: arguments =>
            let path := s.binding? "PATH"
            let s := s.bind "PATH" ⟨some standardPath, true, false⟩
            let s := execute fuel tested s false command arguments
            path.elim (s.unbind "PATH") (s.bind "PATH")
          | command :: arguments => execute fuel tested s false command arguments
        | "." =>
          match arguments with
          | [] => s.ended 0
          | name :: _ =>
            let paths := candidates ((s.bound? "PATH").getD []) name
            let isThere (path : Octets) : Bool :=
              (Condition.nodeAt? s.process.tree path).any Condition.isFile
            match if name.contains '/' then some name else paths.find? isThere with
            | none => settled (s.failAs "." (name ++ octets ": not found"))
            | some path =>
              match s.process.readFile path with
              | .error f => settled (s.failAs "." (openingComplaint .read path f))
              | .ok (script, process) =>
                let after := runText fuel tested
                  { s with process, behalf := some path, status := 0 } ⟨script, 1, true⟩
                let after := { after with behalf := s.behalf }
                settled (if after.flow = .returning then { after with flow := .running } else after)
        | _ => runProgram fuel s command arguments

/-- A function has arguments of its own, and variables where it asks for them. -/
def callFunction : Nat → Bool → State → Command → List Octets → State
  | 0, _, s, _, _ => s.stop 2
  | fuel + 1, tested, s, body, arguments =>
    let after := runCommand fuel tested
      { s with
        arguments, hidden := [], loops := 0, calls := s.calls + 1, optionIndex := 1
        optionOffset := none } body
    let after := after.hidden.foldl (fun a (name, b) => b.elim (a.unbind name) (a.bind name)) after
    { after with
      arguments := s.arguments
      hidden := s.hidden
      loops := s.loops
      calls := s.calls
      optionIndex := s.optionIndex
      optionOffset := s.optionOffset
      flow := if after.flow = .returning then .running else after.flow }

/-- Another program, which is given the channels and the exported variables. -/
def runProgram : Nat → State → Octets → List Octets → State
  | 0, s, _, _ => s.stop 2
  | fuel + 1, s, command, arguments =>
    let refuse (f : Fault) : State :=
      (s.complain (command ++ octets (": " ++ startingReason f))).ended (startingStatus f)
    let p := { s.process with environment := s.environment }
    match loadNamed p.tree ((s.bound? "PATH").getD []) command arguments with
    | .error f => refuse f
    | .ok image =>
      let e := runImage fuel p image
      let deaths := s.deaths ++ (e.signal.bind Builtin.deathWord?).toList
      { s with process := e.process.returnTo s.process, status := e.status, deaths }

/-- Runs a program of the host: a shell, one that starts another program, or a
utility. -/
def runImage : Nat → Process → Program.Image → Ending
  | 0, p, _ => ⟨p, 2, none⟩
  | fuel + 1, p, image =>
    if ["sh", "dash", "bash"].contains image.program then
      let s := runShell fuel p image.name image.arguments
      ⟨s.process, s.status, if s.flow = .killed then some (s.status - 128) else none⟩
    else
      let name := image.name
      match image.program with
      | "env" => runEnvironment fuel p name image.arguments
      | "xargs" => runBatch fuel p name image.arguments
      | "nohup" => runLater fuel p name "failed to run command " 125 image.arguments
      | "nice" =>
        match image.arguments with
        | [] => saying p 1 ['0', '\n'] 0
        | ['-', 'n'] :: _ :: rest => runLater fuel p name "" 125 rest
        | ('-' :: _) :: rest => runLater fuel p name "" 125 rest
        | arguments => runLater fuel p name "" 125 arguments
      | "timeout" =>
        match image.arguments.dropWhile fun o => o.head? = some '-' with
        | time :: command =>
          if Utility.isInterval time then
            runLater fuel p name "failed to run command " 125 command
          else refuseUse p name (octets "invalid time interval " ++ Utility.quoted time) 125
        | [] => saying p 2 (helpHint name) 125
      | program =>
        let (p, status) := (Utility.run? program name image.arguments p).getD (p, 127)
        ⟨p, status, none⟩

/-- Runs another program as it is. -/
def runLater : Nat → Process → Octets → String → Nat → List Octets → Ending
  | 0, p, _, _, _, _ => ⟨p, 2, none⟩
  | fuel + 1, p, name, before, status, arguments =>
    match if arguments.head? = some ['-', '-'] then arguments.drop 1 else arguments with
    | [] => refuseUse p name (octets "missing operand") status
    | command :: rest =>
      match loadNamed p.tree ((p.environment.lookup "PATH").getD []) command rest with
      | .ok image => runImage fuel p image
      | .error f => refuseCommand p name (octets before ++ Utility.quoted command) f

/-- Runs commands that are made from the input, as long as none of them asks for
the end of all. -/
def runBatch : Nat → Process → Octets → List Octets → Ending
  | 0, p, _, _ => ⟨p, 2, none⟩
  | fuel + 1, p, name, arguments =>
    match Utility.Batch.ofArguments arguments with
    | .error message => refuseUse p name message 1
    | .ok b =>
      let (content, p) := ((p.readAll 0).toOption).getD ([], p)
      let (commands, mistake) := b.commands content
      let (e, _) := commands.foldl (fun ((e, again) : Ending × Bool) words =>
        if !again then (e, again)
        else
          let command := words.head?.getD []
          let shown := ([' '] : Octets).intercalate words ++ ['\n']
          let p := if b.traces then (saying e.process 2 shown 0).process else e.process
          match loadNamed p.tree ((p.environment.lookup "PATH").getD []) command (words.drop 1) with
          | .error f => (refuseCommand p name command f, false)
          | .ok image =>
            let after := runImage fuel (p.supply 0 (.device .null)) image
            let p := after.process.returnTo p
            let failed (text : Octets) (status : Nat) : Ending × Bool :=
              (saying p 2 (name ++ [':', ' '] ++ command ++ text ++ ['\n']) status, false)
            match after.signal, after.status with
            | some signal, _ => failed (octets ": terminated by signal " ++ ofNat signal) 125
            | none, 255 => failed (octets ": exited with status 255; aborting") 124
            | none, status => (⟨p, if status = 0 then e.status else 123, none⟩, true))
        ((⟨p, 0, none⟩, true) : Ending × Bool)
      match mistake with
      | some message => saying e.process 2 (name ++ [':', ' '] ++ message ++ ['\n']) 1
      | none => e

/-- Runs another program in an environment that is changed for it. -/
def runEnvironment : Nat → Process → Octets → List Octets → Ending
  | 0, p, _, _ => ⟨p, 2, none⟩
  | fuel + 1, p, name, arguments =>
    match arguments with
    | ['-', 'i'] :: rest | ['-'] :: rest =>
      runEnvironment fuel { p with environment := [] } name rest
    | ['-', 'u'] :: unwanted :: rest =>
      let environment := p.environment.filter fun e => octets e.1 ≠ unwanted
      runEnvironment fuel { p with environment } name rest
    | ['-', 'S'] :: rest =>
      runEnvironment fuel p name ((rest.flatMap (·.splitOn ' ')).filter (!·.isEmpty))
    | ['-', '-'] :: rest => runEnvironment fuel p name rest
    | [] =>
      saying p 1 (p.environment.flatMap fun (name, value) => octets name ++ '=' :: value ++ ['\n']) 0
    | command :: rest =>
      if command.contains '=' then
        let (bound, value) := Builtin.declaration command
        let others := p.environment.filter fun e => octets e.1 ≠ bound
        let environment := others ++ [(Octets.toText bound, value.getD [])]
        runEnvironment fuel { p with environment } name rest
      else
        match loadNamed p.tree ((p.environment.lookup "PATH").getD []) command rest with
        | .ok image => runImage fuel p image
        | .error f => refuseCommand p name (Utility.quoted command) f

/-- A shell with its arguments: a text, a script in a file, or its input. -/
def runShell : Nat → Process → Octets → List Octets → State
  | 0, p, name, _ => (begin p name [] []).stop 2
  | fuel + 1, p, name, arguments =>
    let call := Call.parse arguments
    let run (s : State) (source : Source) : State := finish fuel (runText fuel false s source)
    let isInput := call.options.contains 's' || call.operands.isEmpty
    match call.mistake, call.isText, call.operands with
    | some message, _, _ => (begin p name [] []).fail message
    | none, true, [] => (begin p name [] []).fail (octets "-c requires an argument")
    | none, true, script :: operands =>
      run (begin p (operands.head?.getD name) (operands.drop 1) call.options) ⟨script, 1, false⟩
    | none, false, operands =>
      if isInput then
        match p.readAll 0 with
        | .ok (script, p) =>
          run (begin p name operands ('s' :: call.options.filter (· ≠ 's'))) ⟨script, 1, true⟩
        | .error _ => begin p name [] call.options
      else
        let path := operands.head?.getD []
        match p.readFile path with
        | .ok (script, p) => run (begin p path (operands.drop 1) call.options) ⟨script, 1, true⟩
        | .error f =>
          (begin p name [] call.options).fail (openingComplaint .read path f)

end

/-- How deep commands may lie in each other. -/
def maxDepth : Nat := 4000

end SecretAccess.Host.Script
