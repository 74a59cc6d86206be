import SecretAccess.Text.Blank
import SecretAccess.Text.Letters

/-!
# Patterns of values

A directive of a filter can ask for what a value looks like. No event is ever
compared with such a pattern, but a pattern that cannot be read spoils the
filter. Patterns are regular expressions without counted repetition, whose
closing brace would end the directive. Nothing in them may depend on tables of
characters: no classes by property, no words beyond ASCII, no folding of case
beyond ASCII. What they match has to be whole characters.
-/

namespace SecretAccess.Log.Pattern

/-- The switches of a part of a pattern: blanks and comments mean nothing, case
does not matter, and characters may lie beyond ASCII. -/
structure Switches where
  spaced : Bool
  folded : Bool
  wide : Bool
deriving DecidableEq, Repr

namespace Switches

def standard : Switches := ⟨false, false, true⟩

/-- Sets the switch that a letter names. The others do not tell a readable
pattern from one that is not. -/
def set (s : Switches) (on : Bool) (letter : Char) : Switches :=
  match letter with
  | 'x' => { s with spaced := on }
  | 'i' => { s with folded := on }
  | 'u' => { s with wide := on }
  | _ => s

/-- A character that stands for itself; only a table could fold its case. -/
def allowsLiteral (s : Switches) : Bool := !(s.wide && s.folded)

end Switches

def dropBlanks (comment : Bool) : List Char → List Char
  | [] => []
  | c :: cs =>
    if comment then dropBlanks (c ≠ '\n') cs
    else if Text.isBlank c then dropBlanks false cs
    else if c = '#' then dropBlanks true cs
    else c :: cs

def Switches.skip (s : Switches) (cs : List Char) : List Char :=
  if s.spaced then dropBlanks false cs else cs

/-- What one sign of a pattern stands for. -/
inductive Sign where
  | literal (c : Char)
  /-- A character given by two digits, which can be meant as an octet. -/
  | octet (c : Char)
  | anchor
  | wordEdge
  /-- A class of ASCII characters, or of all that are not in it. -/
  | family (inverted : Bool)
deriving DecidableEq, Repr

namespace Sign

def isAllowed (s : Switches) : Sign → Bool
  | literal _ => s.allowsLiteral
  | octet c => s.allowsLiteral && (s.wide || c ≤ '\x7f')
  | anchor => true
  | wordEdge => !s.wide
  | family inverted => !s.wide && !inverted

/-- The character that a sign stands for, as an end of a range. -/
def character? : Sign → Option Char
  | literal c | octet c => some c
  | _ => none

/-- Signs that can be a member of a class. -/
def isAllowedMember (s : Switches) : Sign → Bool
  | literal c | octet c => s.wide || c ≤ '\x7f'
  | family inverted => !s.wide && !inverted
  | anchor | wordEdge => false

end Sign

def hexDigit? (c : Char) : Option Nat :=
  if c.isDigit then some (c.toNat - 48)
  else if 'a' ≤ c && c ≤ 'f' then some (c.toNat - 87)
  else if 'A' ≤ c && c ≤ 'F' then some (c.toNat - 55)
  else none

/-- The number that so many digits make, and what follows them. -/
def hexNumber? (s : Switches) (value : Nat) : Nat → List Char → Option (Nat × List Char)
  | 0, cs => some (value, cs)
  | count + 1, cs =>
    match s.skip cs with
    | [] => none
    | c :: cs => (hexDigit? c).bind fun digit => hexNumber? s (16 * value + digit) count cs

def hex? (s : Switches) (digits : Nat) (cs : List Char) : Option (Char × List Char) := do
  let (n, rest) ← hexNumber? s 0 digits cs
  if n.isValidChar then some (Char.ofNat n, s.skip rest) else none

/-- What a backslash makes of the characters behind it. Digits would refer back,
and letters without a meaning are kept free. -/
def escape? (s : Switches) : List Char → Option (Sign × List Char)
  | [] => none
  | c :: cs =>
    match c with
    | 'x' => (hex? s 2 cs).map fun (c, cs) => (.octet c, cs)
    | 'u' => (hex? s 4 cs).map fun (c, cs) => (.literal c, cs)
    | 'U' => (hex? s 8 cs).map fun (c, cs) => (.literal c, cs)
    | 'd' | 's' | 'w' => some (.family false, cs)
    | 'D' | 'S' | 'W' => some (.family true, cs)
    | 'A' | 'z' => some (.anchor, cs)
    | 'b' | 'B' | '<' | '>' => some (.wordEdge, cs)
    | 'a' => some (.literal '\x07', cs)
    | 'f' => some (.literal '\x0c', cs)
    | 't' => some (.literal '\t', cs)
    | 'n' => some (.literal '\n', cs)
    | 'r' => some (.literal '\r', cs)
    | 'v' => some (.literal '\x0b', cs)
    | c => if c.isAlphanum || '\x7f' < c then none else some (.literal c, cs)

/-- A member of a class, an escape or any other character. -/
def member? (s : Switches) : List Char → Option (Sign × List Char)
  | [] => none
  | '\\' :: cs => escape? s cs
  | c :: cs => some (.literal c, cs)

/-- Whether a dash starts a range: not in front of another dash, nor at the end
of the class. -/
def startsRange (s : Switches) (cs : List Char) : Bool :=
  match cs with
  | '-' :: cs => ((s.skip cs).head?.all fun c => c ≠ ']' && c ≠ '-')
  | _ => false

/-- What follows a member of a class or a range of them. -/
def range? (s : Switches) (cs : List Char) : Option (List Char) := do
  let (first, rest) ← member? s cs
  let rest := s.skip rest
  if startsRange s rest then
    let (last, rest) ← member? s (s.skip (rest.drop 1))
    let low ← first.character?
    let high ← last.character?
    if low ≤ high && first.isAllowedMember s && last.isAllowedMember s then some rest else none
  else if first.isAllowedMember s then some rest
  else none

def familyNames : List String :=
  ["alnum", "alpha", "ascii", "blank", "cntrl", "digit", "graph", "lower", "print", "punct",
    "space", "upper", "word", "xdigit"]

/-- A class by name behind its bracket: whether it is inverted, and what follows.
Any other name makes an ordinary class. -/
def namedFamily? (cs : List Char) : Option (Bool × List Char) := do
  let cs ← if cs.head? = some ':' then some (cs.drop 1) else none
  let inverted := cs.head? = some '^'
  let cs := if inverted then cs.drop 1 else cs
  let name := String.ofList (cs.takeWhile (· ≠ ':'))
  match cs.dropWhile (· ≠ ':') with
  | ':' :: ']' :: rest => if familyNames.contains name then some (inverted, rest) else none
  | _ => none

/-- How deep a row of parts is: one part alone needs no level of its own. -/
def rowDepth : List Nat → Nat
  | [] => 0
  | [depth] => depth
  | depths => depths.foldl max 0 + 1

/-- The depth of a class, with the operand in front of its last operator. -/
def classDepth (left : Option Nat) (members : List Nat) : Nat :=
  match left with
  | none => rowDepth members
  | some depth => max depth (rowDepth members) + 1

mutual

/-- A class behind its opening bracket: its depth, and what follows it. A first
closing bracket is a member, and so are the dashes in front. -/
def bracket? : Nat → Switches → List Char → Option (Nat × List Char)
  | 0, _, _ => none
  | fuel + 1, s, cs => do
    let cs := s.skip cs
    let inverted := cs.head? = some '^'
    let cs := if inverted then s.skip (cs.drop 1) else cs
    let (dashes, cs) := leadingDashes s cs.length cs
    let (count, cs) :=
      if dashes = 0 && cs.head? = some ']' then (1, s.skip (cs.drop 1)) else (dashes, cs)
    let (depth, rest) ← members? fuel s none (List.replicate count 0) cs
    if if s.wide then s.folded else inverted then none else some (depth + 1, rest)
where
  leadingDashes (s : Switches) : Nat → List Char → Nat × List Char
    | fuel + 1, '-' :: cs =>
      let (count, rest) := leadingDashes s fuel (s.skip cs)
      (count + 1, rest)
    | _, cs => (0, cs)

/-- The members of a class up to its closing bracket. -/
def members? : Nat → Switches → Option Nat → List Nat → List Char → Option (Nat × List Char)
  | 0, _, _, _, _ => none
  | fuel + 1, s, left, members, cs =>
    match s.skip cs with
    | [] => none
    | ']' :: rest => some (classDepth left members, rest)
    | '&' :: '&' :: rest | '-' :: '-' :: rest | '~' :: '~' :: rest =>
      members? fuel s (some (classDepth left members)) [] rest
    | '[' :: rest =>
      match namedFamily? rest with
      | some (inverted, rest) =>
        if inverted && !s.wide then none else members? fuel s left (0 :: members) rest
      | none => do
        let (depth, rest) ← bracket? fuel s rest
        members? fuel s left (depth :: members) rest
    | rest => do members? fuel s left (0 :: members) (← range? s rest)

end

/-- The switches of a group up to its colon or its end. A letter is given once,
and at most one dash, with a letter behind it. -/
def switches? (s : Switches) (given : List Char) : List Char → Option (Switches × Char × List Char)
  | [] => none
  | c :: cs =>
    if c = ':' || c = ')' then
      if given.head? = some '-' || (c = ')' && given.isEmpty) then none else some (s, c, cs)
    else if given.contains c || !(['-', 'i', 'm', 's', 'U', 'u', 'R', 'x'].contains c) then none
    else switches? (s.set (!given.contains '-') c) (c :: given) cs

def isNameStart (c : Char) : Bool := c = '_' || (Text.isAlphanumeric c && !c.isDigit)

def isNamePart (c : Char) : Bool :=
  c = '_' || c = '.' || c = '[' || c = ']' || Text.isAlphanumeric c

/-- The name of a group, closed by an angle bracket. -/
def groupName? (cs : List Char) : Option (String × List Char) :=
  match cs.takeWhile (· ≠ '>'), cs.dropWhile (· ≠ '>') with
  | first :: name, _ :: rest =>
    if isNameStart first && name.all isNamePart then some (String.ofList (first :: name), rest)
    else none
  | _, _ => none

/-- What an opening parenthesis starts. -/
inductive Opening where
  | group (s : Switches) (name : Option String)
  | switches (s : Switches)
deriving DecidableEq, Repr

def opening? (s : Switches) (cs : List Char) : Option (Opening × List Char) :=
  match s.skip cs with
  | '?' :: '=' :: _ | '?' :: '!' :: _ | '?' :: '<' :: '=' :: _ | '?' :: '<' :: '!' :: _ => none
  | '?' :: 'P' :: '<' :: rest | '?' :: '<' :: rest =>
    (groupName? rest).map fun (name, rest) => (.group s (some name), rest)
  | '?' :: rest =>
    (switches? s [] rest).map fun (s, stop, rest) =>
      (if stop = ')' then .switches s else .group s none, rest)
  | rest => some (.group s none, rest)

/-- A part of a row: how deep it is, and whether it can be repeated. -/
structure Part where
  depth : Nat
  repeatable : Bool
deriving DecidableEq, Repr

/-- What has been read of a group: its alternatives, and the parts of the last
one, both from the end. -/
structure Group where
  alternatives : List Nat
  parts : List Part

namespace Group

def add (g : Group) (depth : Nat) (repeatable : Bool) : Group :=
  { g with parts := ⟨depth, repeatable⟩ :: g.parts }

def alternate (g : Group) : Group := ⟨rowDepth (g.parts.map Part.depth) :: g.alternatives, []⟩

def depth (g : Group) : Nat := rowDepth g.alternate.alternatives

/-- Repeats the last part. -/
def repeat? (g : Group) : Option Group :=
  match g.parts with
  | ⟨depth, true⟩ :: parts => some { g with parts := ⟨depth + 1, true⟩ :: parts }
  | _ => none

end Group

/-- Reads up to the end of a group: its depth, the names given so far, and what
follows, with the parenthesis that closes it. -/
def group? : Nat → Switches → List String → Group → List Char →
    Option (Nat × List String × List Char)
  | 0, _, _, _, _ => none
  | fuel + 1, s, names, g, cs =>
    match s.skip cs with
    | [] => some (g.depth, names, [])
    | ')' :: rest => some (g.depth, names, ')' :: rest)
    | '|' :: rest => group? fuel s names g.alternate rest
    | '(' :: rest => do
      match ← opening? s rest with
      | (.switches s, rest) => group? fuel s names (g.add 0 false) rest
      | (.group inner name, rest) =>
        if name.any names.contains then none
        else
          let (depth, names, rest) ← group? fuel inner (name.toList ++ names) ⟨[], []⟩ rest
          if rest.isEmpty then none else group? fuel s names (g.add (depth + 1) true) (rest.drop 1)
    | '[' :: rest => do
      let (depth, rest) ← bracket? fuel s rest
      group? fuel s names (g.add depth true) rest
    | '?' :: rest | '*' :: rest | '+' :: rest => do
      let rest := if rest.head? = some '?' then rest.drop 1 else rest
      group? fuel s names (← g.repeat?) rest
    | '\x7b' :: _ => none
    | '\\' :: rest => do
      let (sign, rest) ← escape? s rest
      if sign.isAllowed s then group? fuel s names (g.add 0 true) rest else none
    | '.' :: rest => if s.wide then group? fuel s names (g.add 0 true) rest else none
    | '^' :: rest | '$' :: rest => group? fuel s names (g.add 0 true) rest
    | _ :: rest => if s.allowsLiteral then group? fuel s names (g.add 0 true) rest else none

/-- How deep the parts of a pattern may lie in each other. -/
def maxDepth : Nat := 250

/-- Whether a regular expression can be read. Every second call at the latest
takes a character. -/
def isExpression (text : String) : Bool :=
  match group? (2 * text.length + 2) .standard [] ⟨[], []⟩ text.toList with
  | some (depth, _, rest) => rest.isEmpty && depth ≤ maxDepth
  | none => false

/-- An unsigned number in decimal notation, with an exponent or without. -/
def isDecimal (cs : List Char) : Bool :=
  let whole := cs.takeWhile Char.isDigit
  let rest := cs.dropWhile Char.isDigit
  let fraction := if rest.head? = some '.' then (rest.drop 1).takeWhile Char.isDigit else []
  let rest := if rest.head? = some '.' then (rest.drop 1).dropWhile Char.isDigit else rest
  (!whole.isEmpty || !fraction.isEmpty) &&
    match rest with
    | [] => true
    | e :: power =>
      let power := if power.head? = some '+' || power.head? = some '-' then power.drop 1 else power
      (e = 'e' || e = 'E') && !power.isEmpty && power.all Char.isDigit

/-- Numbers with a sign in front, which only so could not be read as expressions. -/
def isSignedNumber (text : String) : Bool :=
  match text.toList with
  | '+' :: cs =>
    isDecimal cs ||
      ["inf", "infinity", "nan"].contains (String.ofList (cs.map Char.toLower))
  | _ => false

/-- Whether a value can be asked for: a number, or else an expression. -/
def isReadable (text : String) : Bool := isSignedNumber text || isExpression text

end SecretAccess.Log.Pattern
