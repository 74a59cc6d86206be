import SecretAccess.Text.Utf8

/-!
# What a terminal shows

A terminal takes escape sequences and control characters for itself. Reading a
text the way a terminal does tells what is left of it: the printable characters
and the blanks of the layout.
-/

namespace SecretAccess.Text.Terminal

/-- Where a terminal is between two characters. -/
inductive Mode where
  | ground
  | escape
  | intermediate
  | control
  | deviceStart
  | deviceParameters
  | deviceIntermediate
  | ignoredText
  | command
deriving DecidableEq, Repr

def isLayout (c : Char) : Bool := c = '\t' || c = '\n' || c = '\x0c' || c = '\r'

def isShown (c : Char) : Bool := isLayout c || (' ' ≤ c && c ≠ '\x7f')

/-- The octet that ends a device or application string, as part of the encoding
of a character. -/
def endsText (c : Char) : Bool := (Utf8.encode c.toString).contains 0x9C

namespace Mode

def afterEscape (c : Char) : Mode :=
  if c < ' ' || '~' < c then escape
  else if c ≤ '/' then intermediate
  else if c = '[' then control
  else if c = ']' then command
  else if c = 'P' then deviceStart
  else if c = 'X' || c = '^' || c = '_' then ignoredText
  else ground

def afterIntermediate (c : Char) : Mode := if '0' ≤ c && c ≤ '~' then ground else intermediate

def afterControl (c : Char) : Mode := if '@' ≤ c && c ≤ '~' then ground else control

/-- A device string starts with parameters and intermediates, in this order. -/
def afterDevice (m : Mode) (c : Char) : Mode :=
  if c < ' ' || '~' < c then m
  else if '@' ≤ c then ignoredText
  else if c ≤ '/' then deviceIntermediate
  else
    match m with
    | deviceStart => deviceParameters
    | deviceParameters => if c ≤ ';' then deviceParameters else ignoredText
    | _ => ignoredText

/-- The mode behind a character, and whether the character shows. A blank of the
layout shows in the middle of a sequence too, and then so does the text behind
it: the sequence waits for the next control character, unless a character
outside ASCII breaks it off. -/
def next (m : Mode) (showing : Bool) (c : Char) : Mode × Bool :=
  if c = '\x1b' then (escape, false)
  else if c = '\x18' || c = '\x1a' then (ground, false)
  else if showing && isShown c then (if c < '\x7f' then m else ground, true)
  else
    match m with
    | ground => (ground, isShown c)
    | escape => if isLayout c then (escape, true) else (afterEscape c, false)
    | intermediate => if isLayout c then (intermediate, true) else (afterIntermediate c, false)
    | control => if isLayout c then (control, true) else (afterControl c, false)
    | deviceStart | deviceParameters | deviceIntermediate => (m.afterDevice c, false)
    | ignoredText => (if endsText c then ground else ignoredText, false)
    | command => (if c = '\x07' then ground else command, false)

end Mode

def shownFrom (m : Mode) (showing : Bool) : List Char → List Char
  | [] => []
  | c :: cs =>
    let (m, shows) := m.next showing c
    if shows then c :: shownFrom m true cs else shownFrom m false cs

/-- What is left of a text on a terminal. -/
def shown (s : String) : String := String.ofList (shownFrom .ground false s.toList)

end SecretAccess.Text.Terminal
