import SecretAccess.Host.Process

/-!
# Loading programs

A file that is to be run is a program of the host, or its first line names the
program that reads it. That one can be such a file in its turn. On a host of
scripts this settles what is run in place of the program that draws graphs.
-/

namespace SecretAccess.Host.Program

open Text (Octets)

/-- A program of the host, the name it is started by, and its arguments. -/
structure Image where
  program : String
  name : Octets
  arguments : List Octets
deriving DecidableEq, Repr

def isBlank (c : Char) : Bool := c = ' ' || c = '\t'

/-- Characters behind the name of a program. -/
def isStop (c : Char) : Bool := isBlank c || c = '\x00'

def trimEnd (o : Octets) : Octets := (o.reverse.dropWhile isBlank).reverse

/-- How much of a file is looked at for its first line. -/
def headSize : Nat := 256

/-- The name and the argument on a first line. -/
def named (line : Octets) : Octets × Option Octets :=
  let line := line.dropWhile isBlank
  let rest := line.dropWhile fun c => !isStop c
  let argument := (rest.dropWhile isBlank).takeWhile (· ≠ '\x00')
  (line.takeWhile fun c => !isStop c,
    if rest.head?.any isBlank && !argument.isEmpty then some argument else none)

/-- The program that is to read a file, with one argument for it. A name that
may have been cut off is none. -/
def interpreter? (contents : List UInt8) : Option (Octets × Option Octets) :=
  let head := Octets.ofBytes (contents.take headSize)
  let head := head ++ List.replicate (headSize - head.length) '\x00'
  match head with
  | '#' :: '!' :: rest =>
    let line := rest.takeWhile fun c => c ≠ '\n' && c ≠ '\x00'
    if rest[line.length]? = some '\n' then
      let line := trimEnd line
      if (line.dropWhile isBlank).isEmpty then none else some (named line)
    else
      let name := rest.dropWhile isBlank
      if name.isEmpty || !name.any isStop then none else some (named (trimEnd rest.dropLast))
  | _ => none

/-- How many files may name each other until one is a program of the host. -/
def maxDepth : Nat := 6

/-- Finds what is to be run for a file. What names another program is passed on
to it by name. -/
def load (t : FileTree) : Nat → Octets → List Octets → Except Fault Image
  | depth, path, arguments => do
    let (_, node) ← t.find (Octets.toText path)
    match depth, node with
    | 0, .program _ | 0, .file _ true => .error .tooManyLinks
    | _ + 1, .program program => .ok ⟨program, path, arguments⟩
    | depth + 1, .file contents true =>
      match interpreter? contents with
      | none => .error .badExecutable
      | some (name, argument) => load t depth name (argument.toList ++ path :: arguments)
    | _, _ => .error .permissionDenied

end SecretAccess.Host.Program
