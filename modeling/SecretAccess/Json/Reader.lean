import SecretAccess.Json
import SecretAccess.Json.Number

/-!
# Reading JSON

A strict reader: no comments, no trailing commas, no lone surrogates and no raw
control characters in strings. How deep values may be nested and which numbers
are in range is up to the reader of a document; for a key file it is 127 levels
and the range of binary64. A text is read from left to right, and the first
defect is the one reported.
-/

namespace SecretAccess.Json

inductive Defect where
  /-- What stands here cannot stand here. -/
  | malformed
  /-- The text ends too early. -/
  | truncated
  /-- A value of another type was wanted here. -/
  | mistyped
deriving DecidableEq, Repr

/-- What was read, and the text behind it. -/
abbrev Read (α : Type) := α × List Char

namespace Reader

def isBlank (c : Char) : Bool := c = ' ' || c = '\n' || c = '\t' || c = '\r'

def skipBlanks (cs : List Char) : List Char := cs.dropWhile isBlank

def literal (value : Json) : List Char → List Char → Except Defect (Read Json)
  | [], cs => .ok (value, cs)
  | _ :: _, [] => .error .truncated
  | e :: expected, c :: cs => if c = e then literal value expected cs else .error .malformed

def digitsThen (cs : List Char) : List Char × List Char :=
  (cs.takeWhile Char.isDigit, cs.dropWhile Char.isDigit)

def someDigits (cs : List Char) : Except Defect (Read (List Char)) :=
  match digitsThen cs with
  | ([], []) => .error .truncated
  | ([], _ :: _) => .error .malformed
  | read => .ok read

/-- A whole part has no leading zero unless it is zero. -/
def wholePart (cs : List Char) : Except Defect (Read (List Char)) := do
  let (digits, rest) ← someDigits cs
  match digits with
  | '0' :: _ :: _ => .error .malformed
  | _ => .ok (digits, rest)

def decimalPart : List Char → Except Defect (Read (List Char))
  | '.' :: cs => someDigits cs
  | cs => .ok ([], cs)

structure Power where
  negative : Bool
  digits : List Char
  spelling : List Char

def Power.value (p : Power) : Int :=
  let size := p.digits.foldl (fun n c => n * 10 + digitValue c) 0
  if p.negative then -(size : Int) else size

def powerPart : List Char → Except Defect (Read Power)
  | c :: cs =>
    if c = 'e' || c = 'E' then
      match cs with
      | '+' :: cs => do
        let (digits, rest) ← someDigits cs
        .ok (⟨false, digits, c :: '+' :: digits⟩, rest)
      | '-' :: cs => do
        let (digits, rest) ← someDigits cs
        .ok (⟨true, digits, c :: '-' :: digits⟩, rest)
      | cs => do
        let (digits, rest) ← someDigits cs
        .ok (⟨false, digits, c :: digits⟩, rest)
    else .ok (⟨false, [], []⟩, c :: cs)
  | [] => .ok (⟨false, [], []⟩, [])

/-- A number from its first digit on, behind a minus sign if there is one. -/
def number (fits : Magnitude → Bool) (sign : List Char) (cs : List Char) :
    Except Defect (Read Json) := do
  let (whole, cs) ← wholePart cs
  let (decimals, cs) ← decimalPart cs
  let (power, cs) ← powerPart cs
  if fits (magnitude whole decimals power.value) then
    let point := if decimals.isEmpty then [] else '.' :: decimals
    .ok (.number (String.ofList (sign ++ whole ++ point ++ power.spelling)), cs)
  else .error .malformed

def hexValue (c : Char) : Option Nat :=
  if c.isDigit then some (c.toNat - 48)
  else if 'a' ≤ c && c ≤ 'f' then some (c.toNat - 87)
  else if 'A' ≤ c && c ≤ 'F' then some (c.toNat - 55)
  else none

def utf8Length (cs : List Char) : Nat := cs.foldr (fun c n => c.utf8Size + n) 0

/-- The four digits of an escape: fewer than four bytes left end the text too
early, whatever they are. -/
def hexUnit (cs : List Char) : Except Defect (Read Nat) :=
  match cs with
  | a :: b :: c :: d :: rest =>
    match hexValue a, hexValue b, hexValue c, hexValue d with
    | some a, some b, some c, some d => .ok (((a * 16 + b) * 16 + c) * 16 + d, rest)
    | _, _, _, _ => .error .malformed
  | cs => .error (if utf8Length cs < 4 then .truncated else .malformed)

def isHighSurrogate (n : Nat) : Bool := 0xD800 ≤ n && n ≤ 0xDBFF

def isLowSurrogate (n : Nat) : Bool := 0xDC00 ≤ n && n ≤ 0xDFFF

/-- The character of an escape, from its digits on. Characters beyond the first
plane are written as a pair of surrogates. -/
def unicodeEscape (cs : List Char) : Except Defect (Read Char) := do
  let (unit, cs) ← hexUnit cs
  if isLowSurrogate unit then .error .malformed
  else if isHighSurrogate unit then
    match cs with
    | [] => .error .truncated
    | ['\\'] => .error .truncated
    | '\\' :: 'u' :: cs => do
      let (low, cs) ← hexUnit cs
      if isLowSurrogate low then
        .ok (Char.ofNat (0x10000 + (unit - 0xD800) * 0x400 + (low - 0xDC00)), cs)
      else .error .malformed
    | _ => .error .malformed
  else .ok (Char.ofNat unit, cs)

def letterEscape : Char → Option Char
  | '"' => some '"'
  | '\\' => some '\\'
  | '/' => some '/'
  | 'b' => some '\x08'
  | 'f' => some '\x0c'
  | 'n' => some '\n'
  | 'r' => some '\r'
  | 't' => some '\t'
  | _ => none

/-- One character of a string, or none at its closing quote. -/
def stringChar : List Char → Except Defect (Read (Option Char))
  | [] => .error .truncated
  | '"' :: cs => .ok (none, cs)
  | ['\\'] => .error .truncated
  | '\\' :: 'u' :: cs => do
    let (c, cs) ← unicodeEscape cs
    .ok (some c, cs)
  | '\\' :: letter :: cs =>
    match letterEscape letter with
    | some c => .ok (some c, cs)
    | none => .error .malformed
  | c :: cs => if c.toNat < 32 then .error .malformed else .ok (some c, cs)

/-- The rest of a string; every character takes at least one of `fuel`. -/
def stringRest : Nat → List Char → Except Defect (Read (List Char))
  | 0, _ => .error .truncated
  | fuel + 1, cs => do
    match ← stringChar cs with
    | (none, cs) => .ok ([], cs)
    | (some c, cs) =>
      let (text, cs) ← stringRest fuel cs
      .ok (c :: text, cs)

/-- A string from behind its opening quote. -/
def stringBody (cs : List Char) : Except Defect (Read String) := do
  let (text, cs) ← stringRest (cs.length + 1) cs
  .ok (String.ofList text, cs)

/-- A value that is not a container, from its first character on. -/
def scalar (fits : Magnitude → Bool) : List Char → Except Defect (Read Json)
  | [] => .error .truncated
  | 'n' :: cs => literal .null ['u', 'l', 'l'] cs
  | 't' :: cs => literal (.bool true) ['r', 'u', 'e'] cs
  | 'f' :: cs => literal (.bool false) ['a', 'l', 's', 'e'] cs
  | '"' :: cs => do
    let (text, cs) ← stringBody cs
    .ok (.string text, cs)
  | '-' :: cs => number fits ['-'] cs
  | c :: cs => if c.isDigit then number fits [] (c :: cs) else .error .malformed

/-- Passes the comma in front of every element but the first. At the closing
bracket there is no element; a comma right in front of it is refused. -/
def separated (closing : Char) (isFirst : Bool) (cs : List Char) : Except Defect (Read Bool) :=
  match skipBlanks cs with
  | [] => .error .truncated
  | c :: cs =>
    if c = closing then .ok (false, cs)
    else if isFirst then .ok (true, c :: cs)
    else if c = ',' then
      match skipBlanks cs with
      | [] => .error .truncated
      | c :: cs => if c = closing then .error .malformed else .ok (true, c :: cs)
    else .error .malformed

/-- A member's name and the colon behind it. -/
def memberName : List Char → Except Defect (Read String)
  | '"' :: cs => do
    let (name, cs) ← stringBody cs
    match skipBlanks cs with
    | [] => .error .truncated
    | ':' :: cs => .ok (name, cs)
    | _ => .error .malformed
  | _ => .error .malformed

mutual
/-- A value with `room` levels of nesting left. -/
def value (fits : Magnitude → Bool) : Nat → Nat → List Char → Except Defect (Read Json)
  | 0, _, _ => .error .truncated
  | fuel + 1, room, cs =>
    match skipBlanks cs with
    | '[' :: cs =>
      match room with
      | 0 => .error .malformed
      | room + 1 => do
        let (items, cs) ← items fits fuel room true cs
        .ok (.array items, cs)
    | '\x7b' :: cs =>
      match room with
      | 0 => .error .malformed
      | room + 1 => do
        let (members, cs) ← members fits fuel room true cs
        .ok (.object members, cs)
    | cs => scalar fits cs
def items (fits : Magnitude → Bool) :
    Nat → Nat → Bool → List Char → Except Defect (Read (List Json))
  | 0, _, _, _ => .error .truncated
  | fuel + 1, room, isFirst, cs => do
    let (more, cs) ← separated ']' isFirst cs
    if more then
      let (item, cs) ← value fits fuel room cs
      let (rest, cs) ← items fits fuel room false cs
      .ok (item :: rest, cs)
    else .ok ([], cs)
def members (fits : Magnitude → Bool) :
    Nat → Nat → Bool → List Char → Except Defect (Read (List (String × Json)))
  | 0, _, _, _ => .error .truncated
  | fuel + 1, room, isFirst, cs => do
    let (more, cs) ← separated '\x7d' isFirst cs
    if more then
      let (name, cs) ← memberName cs
      let (member, cs) ← value fits fuel room cs
      let (rest, cs) ← members fits fuel room false cs
      .ok ((name, member) :: rest, cs)
    else .ok ([], cs)
end

/-- Every character of a text pays for one call at most twice over. -/
def enough (cs : List Char) : Nat := 2 * cs.length + 2

def maxNesting : Nat := 127

/-- The end of a document: nothing but blanks. -/
def finish (value : α) (cs : List Char) : Except Defect α :=
  if (skipBlanks cs).isEmpty then .ok value else .error .malformed

/-- Why a value is refused where a container was wanted. -/
def refusal (cs : List Char) : Defect :=
  match cs with
  | '[' :: _ => .mistyped
  | '\x7b' :: _ => .mistyped
  | cs =>
    match scalar Magnitude.inRange cs with
    | .ok _ => .mistyped
    | .error d => d

/-- The elements of an array of objects, each with its members in order. -/
def objects : Nat → Bool → List Char → Except Defect (Read (List (List (String × Json))))
  | 0, _, _ => .error .truncated
  | fuel + 1, isFirst, cs => do
    let (more, cs) ← separated ']' isFirst cs
    if more then
      match skipBlanks cs with
      | '\x7b' :: cs =>
        let (first, cs) ← members Magnitude.inRange (enough cs) (maxNesting - 2) true cs
        let (rest, cs) ← objects fuel false cs
        .ok (first :: rest, cs)
      | cs => .error (refusal cs)
    else .ok ([], cs)

end Reader

open Reader in
/-- A whole document that is an array of objects. A value of another type is
refused as soon as it begins, or ends if it is no container. -/
def parseObjects (text : String) : Except Defect (List (List (String × Json))) :=
  match skipBlanks text.toList with
  | [] => .error .truncated
  | '[' :: cs => do
    let (objects, cs) ← objects (enough cs) true cs
    finish objects cs
  | cs => .error (refusal cs)

end SecretAccess.Json
