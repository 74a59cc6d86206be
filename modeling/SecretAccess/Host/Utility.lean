import SecretAccess.Host.Script.Condition
import SecretAccess.Host.Script.Printing
import SecretAccess.Host.Utility.Blocks
import SecretAccess.Host.Utility.Calculation
import SecretAccess.Host.Utility.Characters
import SecretAccess.Host.Utility.Editor
import SecretAccess.Host.Utility.Files
import SecretAccess.Host.Utility.Lines
import SecretAccess.Host.Utility.Order
import SecretAccess.Host.Utility.Search
import SecretAccess.Host.Utility.Traversal

/-!
# Utilities by name

The programs of the host that start no other program. Scripts that draw graphs
are written with them.
-/

namespace SecretAccess.Host.Utility

open Text (Octets)
open Script

/-- Words in a line. Escapes are expanded where that is asked for. -/
def echo : Behaviour := fun j arguments =>
  let isFlag (o : Octets) : Bool :=
    match o with
    | '-' :: c :: cs => (c :: cs).all fun c => c = 'n' || c = 'e' || c = 'E'
    | _ => false
  let flags := (arguments.takeWhile isFlag).flatMap (List.drop 1)
  let words := arguments.dropWhile isFlag
  let text := ([' '] : Octets).intercalate words
  let expands := (flags.filter (· ≠ 'n')).getLast? = some 'e'
  let (text, ends) := if expands then Printing.unescape text else (text, false)
  j.print (if flags.contains 'n' || ends then text else text ++ ['\n'])

def printf : Behaviour := fun j arguments =>
  match arguments with
  | [] => j.misuse (octets "missing operand") 1
  | form :: arguments =>
    let f := Printing.format form (arguments.length + 1) arguments
    f.complaints.foldl (fun j c => j.complain c 1) (j.print f.text)

def test (bracketed : Bool) : Behaviour := fun j arguments =>
  if bracketed && arguments.getLast? ≠ some [']'] then j.complain (octets "missing ']'") 2
  else
    match Condition.holds j.process (if bracketed then arguments.dropLast else arguments) with
    | .ok holds => if holds then j else j.fails 1
    | .error message => j.complain message 2

/-- Whether a text is a time to wait: a number, with a unit if need be. -/
def isInterval (o : Octets) : Bool :=
  match Real.read? o with
  | some (x, reading) =>
    !x.isNegative && x.magnitude ≠ .notNumber &&
      [[], ['s'], ['m'], ['h'], ['d']].contains reading.rest
  | none => false

/-- Waits for no time at all: nobody sees how long it takes. -/
def sleep : Behaviour := fun j arguments =>
  if arguments.isEmpty then j.misuse (octets "missing operand") 1
  else
    match arguments.filter fun o => !isInterval o with
    | [] => j
    | wrong =>
      let message := fun o => octets "invalid time interval " ++ quoted o
      let j := wrong.dropLast.foldl (fun j o => j.complain (message o) 1) j
      j.misuse (message (wrong.getLast?.getD [])) 1

/-- Who runs a program: its name or its number. -/
def id : Behaviour := withOptions "ugGnr" "" 1 fun j o =>
  if o.has 'u' || o.has 'g' || o.has 'G' then
    j.print (octets (if o.has 'n' then "root\n" else "0\n"))
  else j.print (octets "uid=0(root) gid=0(root) groups=0(root)\n")

/-- What the environment binds. -/
def printenv : Behaviour := withOptions "0" "" 2 fun j o =>
  let bound := j.process.environment
  if o.operands.isEmpty then
    j.print (bound.flatMap fun (name, value) => octets name ++ '=' :: value ++ ['\n'])
  else
    o.operands.foldl (fun j name =>
      match bound.lookup (Octets.toText name) with
      | some value => j.print (value ++ ['\n'])
      | none => j.fails 1) j

def table : List (String × Behaviour) :=
  [("[", test true), ("base64", base64), ("basename", basename), ("cat", cat), ("chmod", chmod),
    ("cksum", cksum), ("cmp", cmp), ("cp", cp), ("cut", cut), ("dd", dd), ("dirname", dirname),
    ("echo", echo), ("egrep", grepWith true false), ("expr", expr),
    ("false", fun j _ => j.fails 1), ("fgrep", grepWith false true), ("find", find),
    ("fold", fold), ("grep", grepWith false false), ("head", head), ("id", id), ("ln", ln),
    ("ls", ls), ("mkdir", mkdir), ("mktemp", mktemp), ("mv", mv), ("nl", nl), ("od", od),
    ("paste", paste), ("printenv", printenv), ("printf", printf), ("pwd", pwd),
    ("readlink", readlink), ("realpath", realpath), ("rev", rev), ("rm", rm), ("rmdir", rmdir),
    ("sed", sed), ("seq", seq), ("sleep", sleep), ("sort", sort), ("sync", fun j _ => j),
    ("tac", tac), ("tail", tail), ("tee", tee), ("test", test false), ("touch", touch), ("tr", tr),
    ("true", fun j _ => j), ("truncate", truncate),
    ("uname", fun j _ => j.print (octets "Linux\n")), ("uniq", uniq), ("unlink", unlink), ("wc", wc),
    ("whoami", fun j _ => j.print (octets "root\n"))]

/-- Carries out a utility, if there is one of this name. -/
def run? (program : String) (name : Octets) (arguments : List Octets) (p : Process) :
    Option (Process × Nat) :=
  (table.lookup program).map fun utility =>
    let j := utility ⟨name, p, 0⟩ arguments
    (j.process, j.status)

end SecretAccess.Host.Utility
