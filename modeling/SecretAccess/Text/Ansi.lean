/-!
# Terminal escape codes

Styling writes codes in front of a text and a reset behind it. Reading finds
the codes inside a text, so that what a terminal shows of it can be measured.
A code runs as long as some reading of it goes on, and ends at the last place
where it could have ended.
-/

namespace SecretAccess.Text

namespace Ansi

/-- How far a code has been read. -/
inductive Reading where
  | opened
  | charset
  | intro
  | digits (count : Nat)
  | separator
  | closed
deriving DecidableEq, Repr

def isOpening (c : Char) : Bool := c = '\x1b' || c = '\u009b'

def isClosing (c : Char) : Bool :=
  ('A' ≤ c && c ≤ 'P') || c = 'R' || c = 'Z' || c = 'c' || ('f' ≤ c && c ≤ 'n') || c = 'q' ||
    c = 'r' || c = 'y' || c = '=' || c = '>' || c = '<'

namespace Reading

/-- At most four digits are a parameter; a fifth closes the code. -/
def afterDigit (c : Char) : Reading → Option Reading
  | opened | intro | separator => some (digits 1)
  | charset => some (if c ≤ '2' then closed else digits 1)
  | digits count => some (if count < 4 then digits (count + 1) else closed)
  | closed => none

def next (r : Reading) (c : Char) : Option Reading :=
  if c = '(' || c = ')' then
    match r with
    | opened => some charset
    | charset | intro => some intro
    | digits _ | separator | closed => none
  else if c = ';' then
    match r with
    | opened | charset | intro => some intro
    | digits _ | separator => some separator
    | closed => none
  else if c = '[' || c = '#' || c = '?' then
    match r with
    | opened | charset | intro => some intro
    | digits _ | separator | closed => none
  else if c.isDigit then r.afterDigit c
  else if isClosing c then
    match r with
    | opened | charset | intro | digits _ | separator => some closed
    | closed => none
  else none

def mayEnd : Reading → Bool
  | digits _ | closed => true
  | opened | charset | intro | separator => false

end Reading

/-- Reads on from `r`, with `seen` characters read and `best` of them the
longest code so far. -/
def longest (r : Reading) (seen : Nat) (best : Option Nat) : List Char → Option Nat
  | [] => best
  | c :: cs =>
    match r.next c with
    | none => best
    | some r => longest r (seen + 1) (if r.mayEnd then some (seen + 1) else best) cs

/-- The length of the code that goes on after its opening character. -/
def codeLength (cs : List Char) : Option Nat := longest .opened 0 none cs

/-- The pieces of text between the codes, in order; `skip` characters of a code
are still to be passed over. -/
def piecesFrom (skip : Nat) : List Char → List (List Char)
  | [] => [[]]
  | c :: cs =>
    if 0 < skip then piecesFrom (skip - 1) cs
    else
      match if isOpening c then codeLength cs else none with
      | some n => [] :: piecesFrom n cs
      | none =>
        match piecesFrom 0 cs with
        | [] => [[c]]
        | piece :: pieces => (c :: piece) :: pieces

def pieces (cs : List Char) : List (List Char) := piecesFrom 0 cs

def strip (s : String) : String := String.ofList (pieces s.toList).flatten

end Ansi

/-- The parameters of a style, in the order in which they are written. -/
abbrev Style := List Nat

namespace Style

def code (n : Nat) : String := "\x1b[" ++ n.repr ++ "m"

def paint (style : Style) (text : String) : String :=
  String.join (style.map code) ++ text ++ code 0

end Style

end SecretAccess.Text
