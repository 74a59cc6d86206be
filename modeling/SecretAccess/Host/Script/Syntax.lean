import SecretAccess.Host.Process

/-!
# The syntax of scripts

A script is a list of commands. A simple command is made of words, which hold
text, parameters, numbers and the output of other scripts, and of
redirections; other commands are made of simple ones.
-/

namespace SecretAccess.Host.Script

open Text (Octets)

/-- What is done where a parameter has no value. -/
inductive Remedy where
  | useWord
  | assignWord
  | refuse
  /-- The word counts only where there is a value. -/
  | replace
deriving DecidableEq, Repr

inductive Change where
  | asIs
  | length
  | unless (remedy : Remedy) (emptyToo : Bool) (word : Octets)
  /-- Takes off the shortest or longest piece that a pattern fits. -/
  | cut (atEnd longest : Bool) (pattern : Octets)
deriving DecidableEq, Repr

inductive Part where
  | text (content : Octets)
  | parameter (name : String) (change : Change)
  /-- What another script prints; its first line has a number. -/
  | output (script : Octets) (line : Nat)
  | number (expression : Octets)
  /-- A parameter that cannot be made out. -/
  | malformed
deriving DecidableEq, Repr

structure Piece where
  part : Part
  quoted : Bool
deriving DecidableEq, Repr

abbrev Word := List Piece

def isNameStart (c : Char) : Bool := c.isAlpha || c = '_'

def isNamePart (c : Char) : Bool := c.isAlphanum || c = '_'

def isName (o : Octets) : Bool := o.head?.any isNameStart && o.all isNamePart

namespace Word

/-- Puts a character in front. -/
def cons (c : Char) (quoted : Bool) (w : Word) : Word :=
  match w with
  | ⟨.text content, quoted'⟩ :: rest =>
    if quoted = quoted' then ⟨.text (c :: content), quoted⟩ :: rest
    else ⟨.text [c], quoted⟩ :: w
  | _ => ⟨.text [c], quoted⟩ :: w

/-- The text of a word without quotes or parameters. -/
def bare? (w : Word) : Option String :=
  match w with
  | [⟨.text content, false⟩] => some (String.ofList content)
  | _ => none

/-- The text of a word as it stands, for the end of a document. -/
def plain (w : Word) : Octets :=
  w.flatMap fun p =>
    match p.part with
    | .text content => content
    | .parameter name _ => '$' :: name.toList
    | .output .. | .number _ | .malformed => []

def hasQuotes (w : Word) : Bool := w.any Piece.quoted

/-- The name and the value of a word that assigns. -/
def assignment? (w : Word) : Option (String × Word) :=
  match w with
  | ⟨.text content, false⟩ :: rest =>
    let name := content.takeWhile (· ≠ '=')
    match content.dropWhile (· ≠ '=') with
    | _ :: value =>
      if isName name then
        some (String.ofList name, if value.isEmpty then rest else ⟨.text value, false⟩ :: rest)
      else none
    | [] => none
  | _ => none

end Word

inductive Redirection where
  | file (number : Nat) (d : Direction) (path : Word)
  /-- One number stands for what another one stands for, or for nothing. -/
  | duplicate (number : Nat) (source : Word)
  /-- Text of the script itself as input. -/
  | document (number : Nat) (body : Word)
deriving DecidableEq, Repr

inductive Command where
  | simple (line : Nat) (assignments : List (String × Word)) (words : List Word)
      (redirections : List Redirection)
  | sequence (first second : Command)
  | both (first second : Command)
  | either (first second : Command)
  | negation (c : Command)
  | pipeline (cs : List Command)
  | background (c : Command)
  | subshell (c : Command)
  | redirected (line : Nat) (c : Command) (redirections : List Redirection)
  | branch (test yes : Command) (no : Option Command)
  /-- Repeats while the test ends as wanted. -/
  | loop (wanted : Bool) (test body : Command)
  /-- Without words, the arguments of the script. -/
  | each (line : Nat) (name : String) (words : Option (List Word)) (body : Command)
  | choice (line : Nat) (subject : Word) (cases : List (List Word × Option Command))
  | definition (name : String) (body : Command)

end SecretAccess.Host.Script
