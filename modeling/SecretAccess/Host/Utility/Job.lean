import SecretAccess.Host.Process

/-!
# Jobs of utilities

The programs that every host has. Each one is given arguments, prints, and ends
with a status; what goes wrong it tells on the error stream and goes on.
-/

namespace SecretAccess.Host.Utility

open Text (Octets)

/-- A utility at work, by the name under which it was started. -/
structure Job where
  name : Octets
  process : Process
  status : Nat

/-- What a utility makes of its arguments. -/
abbrev Behaviour := Job → List Octets → Job

def octets (s : String) : Octets := Octets.ofString s

/-- A name as part of a message. -/
def quoted (o : Octets) : Octets := '\'' :: o ++ ['\'']

namespace Job

def fails (j : Job) (status : Nat) : Job := { j with status := max status j.status }

def complain (j : Job) (message : Octets) (status : Nat) : Job :=
  match j.process.write 2 (j.name ++ octets ": " ++ message ++ ['\n']) with
  | .ok process => ({ j with process } : Job).fails status
  | .error _ => j.fails status

/-- A complaint about the arguments as a whole. -/
def misuse (j : Job) (message : Octets) (status : Nat) : Job :=
  j.complain (message ++ octets "\nTry '" ++ j.name ++ octets " --help' for more information.") status

/-- Prints, with words of its own for what is lost. -/
def deliver (j : Job) (content : Octets) (message : Fault → Octets) (status : Nat) : Job :=
  if content.isEmpty then j
  else
    match j.process.write 1 content with
    | .ok process => { j with process }
    | .error f => j.complain (message f) status

def print (j : Job) (content : Octets) : Job :=
  j.deliver content (fun f => octets ("write error: " ++ f.reason)) 1

/-- How a utility words that something cannot be used: the text before its name
and behind it. -/
structure Wording where
  before : String
  quotes : Bool
  behind : String

/-- Just the name. -/
def plain : Wording := ⟨"", false, ""⟩

def blame (j : Job) (w : Wording) (path : Octets) (f : Fault) (status : Nat) : Job :=
  j.complain (octets w.before ++ (if w.quotes then quoted path else path) ++
    octets (w.behind ++ ": " ++ f.reason)) status

/-- All that the input has. -/
def input (j : Job) : Octets × Job :=
  match j.process.readAll 0 with
  | .ok (content, process) => (content, { j with process })
  | .error f => ([], j.blame plain ['-'] f 1)

/-- The contents of files, or of the input in place of a dash; without names, of
the input alone. What cannot be read is blamed and left out. -/
def sources (j : Job) (w : Wording) (status : Nat) (paths : List Octets) :
    Job × List (Octets × Octets) :=
  (if paths.isEmpty then [['-']] else paths).foldl (fun (j, found) path =>
    if path = ['-'] then
      let (content, j) := j.input
      (j, found ++ [(path, content)])
    else
      match j.process.readFile path with
      | .ok (content, process) => ({ j with process }, found ++ [(path, content)])
      | .error f => (j.blame w path f status, found)) (j, [])

/-- One after the other, what files hold. -/
def concatenated (j : Job) (w : Wording) (status : Nat) (paths : List Octets) : Job × Octets :=
  let (j, found) := j.sources w status paths
  (j, found.flatMap Prod.snd)

/-- Replaces what a file holds. -/
def save (j : Job) (path content : Octets) : Job :=
  match j.process.openFile .write path with
  | .error f => j.blame plain path f 1
  | .ok (opened, channel) =>
    match (opened.bind 1 channel).write 1 content with
    | .ok process => { j with process := { process with descriptors := j.process.descriptors } }
    | .error f => j.blame plain path f 1

end Job

/-- Arguments taken apart: letters with their values, and what is left. -/
structure Options where
  letters : List (Char × Octets)
  operands : List Octets
  /-- What is wrong with them, if anything is. -/
  mistake : Option Octets

namespace Options

def has (o : Options) (letter : Char) : Bool := o.letters.any (·.1 = letter)

/-- The last value that was given for a letter. -/
def value? (o : Options) (letter : Char) : Option Octets :=
  (o.letters.reverse.find? (·.1 = letter)).map Prod.snd

def add (letter : Char) (value : Octets) (o : Options) : Options :=
  { o with letters := (letter, value) :: o.letters }

def addOperand (operand : Octets) (o : Options) : Options :=
  { o with operands := operand :: o.operands }

def invalid (letter : Char) : Options :=
  ⟨[], [], some (octets "invalid option -- " ++ quoted [letter])⟩

/-- The letters of one argument, the last of which may take its value from the
next argument. -/
def cluster (flags valued : List Char) (rest : List Octets) (next : List Octets → Options) :
    Octets → Options
  | [] => next rest
  | c :: cs =>
    if flags.contains c then (cluster flags valued rest next cs).add c []
    else if valued.contains c then
      if cs.isEmpty then
        match rest with
        | value :: rest => (next rest).add c value
        | [] => ⟨[], [], some (octets "option requires an argument -- " ++ quoted [c])⟩
      else (next rest).add c cs
    else invalid c

/-- Takes arguments apart. Options may stand behind operands, but not behind a
double dash. -/
def parseFrom (flags valued : List Char) : Nat → List Octets → Options
  | 0, _ | _, [] => ⟨[], [], none⟩
  | fuel + 1, argument :: rest =>
    match argument with
    | ['-', '-'] => ⟨[], rest, none⟩
    | '-' :: '-' :: _ =>
      ⟨[], [], some (octets "unrecognized option " ++ quoted argument)⟩
    | '-' :: c :: cs => cluster flags valued rest (parseFrom flags valued fuel) (c :: cs)
    | operand => (parseFrom flags valued fuel rest).addOperand operand

def parse (flags valued : String) (arguments : List Octets) : Options :=
  parseFrom flags.toList valued.toList (arguments.length + 1) arguments

end Options

/-- Options by long names as letters, with what follows an equals sign as an argument
of its own. -/
def shorten (names : List (String × Char)) (arguments : List Octets) : List Octets :=
  arguments.flatMap fun argument =>
    match argument with
    | '-' :: '-' :: rest =>
      let name := String.ofList (rest.takeWhile (· ≠ '='))
      match names.lookup name, rest.dropWhile (· ≠ '=') with
      | some c, [] => [['-', c]]
      | some c, _ :: value => [['-', c], value]
      | none, _ => [argument]
    | _ => [argument]

/-- A utility behind its options; a mistake in them ends it. -/
def withOptions (flags valued : String) (status : Nat) (act : Job → Options → Job) : Behaviour :=
  fun j arguments =>
    let o := Options.parse flags valued arguments
    match o.mistake with
    | some message => j.misuse message status
    | none => act j o

/-- A number without a sign. -/
def natural? (o : Octets) : Option Nat :=
  if o.isEmpty || !o.all Char.isDigit then none
  else some (o.foldl (fun n c => n * 10 + (c.toNat - 48)) 0)

def ofNat (n : Nat) : Octets := n.repr.toList

/-- Fills up in front to a width. -/
def padLeft (width : Nat) (o : Octets) : Octets := List.replicate (width - o.length) ' ' ++ o

end SecretAccess.Host.Utility
