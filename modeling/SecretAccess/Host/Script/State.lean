import SecretAccess.Host.Script.Glob

/-!
# The state of a script

What a running script has to hand: the process that it is, its arguments and
variables, and how it goes on after a command.
-/

namespace SecretAccess.Host.Script

open Text (Octets)

structure Binding where
  value : Option Octets
  exported : Bool
  fixed : Bool
deriving DecidableEq, Repr

/-- How a script goes on. -/
inductive Flow where
  | running
  /-- Leaves so many loops. -/
  | breaking (levels : Nat)
  /-- Leaves so many loops less one, and goes on with the last. -/
  | continuing (levels : Nat)
  | returning
  | ended
  /-- Ended by a mistake. -/
  | failed
  /-- Ended by a signal. -/
  | killed
deriving DecidableEq, Repr

structure State where
  process : Process
  name : Octets
  arguments : List Octets
  bindings : List (String × Binding)
  functions : List (String × Command)
  aliases : List (String × Octets)
  /-- What to do on a signal, or at the end. -/
  traps : List (String × Octets)
  /-- Signals that have come and are not answered. -/
  signals : List String
  options : List Char
  /-- The working directory, by the path that led to it. -/
  directory : Octets
  /-- What is taken from the mode of new files. -/
  mask : Nat
  status : Nat
  /-- How the last script inside a word ended. -/
  captured : Nat
  line : Nat
  /-- The line that has been read up to. -/
  position : Nat
  /-- The command on whose behalf others are run. -/
  behalf : Option Octets
  /-- Commands that ran beside the script, by number, and how they ended. -/
  jobs : List (Nat × Nat)
  /-- What is to be said of programs that a signal ended. -/
  deaths : List String
  /-- The status at the end, where a trap is run for it. -/
  leaving : Option Nat
  /-- How many loops and calls the command is inside of. -/
  loops : Nat
  calls : Nat
  /-- What the variables of the function that runs were outside. -/
  hidden : List (String × Option Binding)
  /-- The next argument to look at for options, and how far the one before it
  has been read. -/
  optionIndex : Nat
  optionOffset : Option Nat
  flow : Flow

def octets (s : String) : Octets := Octets.ofString s

def ofNat (n : Nat) : Octets := n.repr.toList

/-- The number that a script knows itself by. -/
def ownNumber : Nat := 4096

def standardGaps : Octets := [' ', '\t', '\n']

namespace State

def isRunning (s : State) : Bool := s.flow = .running

def has (s : State) (option : Char) : Bool := s.options.contains option

def ended (s : State) (status : Nat) : State := { s with status }

def stop (s : State) (status : Nat) : State := { s with status, flow := .ended }

def binding? (s : State) (name : String) : Option Binding := s.bindings.lookup name

def bound? (s : State) (name : String) : Option Octets := (s.binding? name).bind Binding.value

def bind (s : State) (name : String) (b : Binding) : State :=
  { s with bindings := (name, b) :: s.bindings.filter (·.1 ≠ name) }

def unbind (s : State) (name : String) : State :=
  { s with bindings := s.bindings.filter (·.1 ≠ name) }

/-- The characters that separate fields. -/
def gaps (s : State) : Octets := (s.bound? "IFS").getD standardGaps

/-- Writes to a stream; what cannot be written is lost. -/
def print (s : State) (number : Nat) (content : Octets) : State :=
  match s.process.write number content with
  | .ok process => { s with process }
  | .error _ => s

def complainFor (s : State) (behalf : Option Octets) (text : Octets) : State :=
  let command := behalf.elim [] (· ++ [':', ' '])
  s.print 2 (s.name ++ octets (": " ++ s.line.repr ++ ": ") ++ command ++ text ++ ['\n'])

/-- A complaint names the script and the line. -/
def complain (s : State) (text : Octets) : State := s.complainFor s.behalf text

/-- A complaint that ends the script. -/
def fail (s : State) (text : Octets) : State :=
  { s.complain text with status := 2, flow := .failed }

/-- A command's own complaint. -/
def complainAs (s : State) (command : String) (text : Octets) (status : Nat) : State :=
  (s.complainFor (some (octets command)) text).ended status

def failAs (s : State) (command : String) (text : Octets) : State :=
  { s.complainAs command text 2 with flow := .failed }

/-- A mistake that does not end the script after all. -/
def recover (s : State) : State := if s.flow = .failed then { s with flow := .running } else s

/-- What a command prints. -/
def say (s : State) (command : String) (content : Octets) : State :=
  match s.process.write 1 content with
  | .ok process => { s with process, status := 0 }
  | .error _ => s.complainAs command (octets (command ++ ": I/O error")) 1

def isExported (s : State) (name : String) : Bool := (s.binding? name).any Binding.exported

/-- Gives a value to a variable. The arguments are gone through for options anew
when their index is assigned. -/
def assign (s : State) (name : String) (value : Octets) : State :=
  let s :=
    if name = "OPTIND" then
      { s with optionIndex := max 1 ((String.ofList value).toNat?.getD 1), optionOffset := none }
    else s
  match s.binding? name with
  | some b =>
    if b.fixed then s.fail (octets (name ++ ": is read only"))
    else s.bind name { b with value := some value, exported := b.exported || s.has 'a' }
  | none => s.bind name ⟨some value, s.has 'a', false⟩

/-- The values of the variables that other programs are given. -/
def environment (s : State) : List (String × Octets) :=
  s.bindings.filterMap fun (name, b) =>
    if b.exported then b.value.map (name, ·) else none

/-- The letters of options, in the order in which a script sees them. -/
def letters : List Char :=
  ['u', 'b', 'a', 'C', 'E', 'V', 'v', 'x', 's', 'n', 'm', 'i', 'I', 'f', 'e']

/-- The value of a parameter other than the list of all arguments. -/
def value? (s : State) (name : String) : Option Octets :=
  match name with
  | "#" => some (ofNat s.arguments.length)
  | "?" => some (ofNat s.status)
  | "$" => some (ofNat ownNumber)
  | "-" => some (letters.filter s.has)
  | "!" => s.bound? "!"
  | "0" => some s.name
  | name =>
    match name.toNat? with
    | some n => s.arguments[n - 1]?
    | none => s.bound? name

/-- All arguments as one text. -/
def joinedArguments (s : State) : Octets := (s.gaps.take 1).intercalate s.arguments

/-- A part of a script that keeps all it does to itself, files apart. -/
def isolated (s : State) (run : State → State) : State :=
  let after := run { s with traps := s.traps.filter (·.2.isEmpty) }
  { s with
    process := after.process.returnTo s.process
    status := after.status
    flow := if after.flow = .killed then .killed else s.flow }

end State

end SecretAccess.Host.Script
