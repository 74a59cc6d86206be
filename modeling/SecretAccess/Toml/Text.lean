import SecretAccess.Toml

/-!
# TOML blanks, keys and strings

The leaves of a document. A reader takes the text in front of it and gives back
what it read with the text behind, or nothing where the text has no such form.
-/

namespace SecretAccess.Toml.Reader

abbrev Read (α : Type) := α × List Char

def isSpace (c : Char) : Bool := c = ' ' || c = '\t'

def skipSpaces (cs : List Char) : List Char := cs.dropWhile isSpace

/-- Printable characters, the tab, and everything beyond ASCII. -/
def isTextChar (c : Char) : Bool := c = '\t' || (32 ≤ c.toNat && c.toNat ≠ 127)

def lineEnd? : List Char → Option (List Char)
  | '\n' :: cs => some cs
  | '\r' :: '\n' :: cs => some cs
  | _ => none

def skipComment : List Char → List Char
  | '#' :: cs => cs.dropWhile isTextChar
  | cs => cs

/-- What may follow a statement: spaces and a comment up to the end of the line. -/
def endOfLine (cs : List Char) : Option (List Char) :=
  match skipComment (skipSpaces cs) with
  | [] => some []
  | cs => lineEnd? cs

/-- Spaces, line ends and comments, as they may stand inside an array. A comment
there has to end with its line. -/
def skipLines : Nat → List Char → Option (List Char)
  | 0, cs => some cs
  | fuel + 1, cs =>
    match skipSpaces cs with
    | '#' :: rest => (lineEnd? (skipComment ('#' :: rest))).bind (skipLines fuel)
    | cs =>
      match lineEnd? cs with
      | some rest => skipLines fuel rest
      | none => some cs

def skipBlankLines (cs : List Char) : Option (List Char) := skipLines (cs.length + 1) cs

def hexValue (c : Char) : Option Nat :=
  if c.isDigit then some (c.toNat - 48)
  else if 'a' ≤ c && c ≤ 'f' then some (c.toNat - 87)
  else if 'A' ≤ c && c ≤ 'F' then some (c.toNat - 55)
  else none

/-- A character given by exactly `count` hexadecimal digits. -/
def hexChar (count : Nat) (cs : List Char) : Option (Read Char) := do
  let digits := cs.take count
  let values ← digits.mapM hexValue
  let code := values.foldl (fun n d => n * 16 + d) 0
  if digits.length = count && Nat.isValidChar code then some (Char.ofNat code, cs.drop count)
  else none

/-- An escape, from behind its backslash. -/
def escape : List Char → Option (Read Char)
  | 'b' :: cs => some ('\x08', cs)
  | 't' :: cs => some ('\t', cs)
  | 'n' :: cs => some ('\n', cs)
  | 'f' :: cs => some ('\x0c', cs)
  | 'r' :: cs => some ('\r', cs)
  | '"' :: cs => some ('"', cs)
  | '\\' :: cs => some ('\\', cs)
  | 'u' :: cs => hexChar 4 cs
  | 'U' :: cs => hexChar 8 cs
  | _ => none

/-- Strings in double quotes know escapes, those in single quotes do not. -/
inductive Quote where
  | basic
  | plain
deriving DecidableEq, Repr

def Quote.char : Quote → Char
  | basic => '"'
  | plain => '\''

/-- The rest of a string that ends on its line. -/
def lineString (q : Quote) : Nat → List Char → Option (Read (List Char))
  | 0, _ => none
  | fuel + 1, cs =>
    match cs with
    | [] => none
    | c :: cs =>
      if c = q.char then some ([], cs)
      else if q = .basic && c = '\\' then do
        let (c, cs) ← escape cs
        let (text, cs) ← lineString q fuel cs
        some (c :: text, cs)
      else if isTextChar c then do
        let (text, cs) ← lineString q fuel cs
        some (c :: text, cs)
      else none

/-- The end of a string of many lines: three quotes, with up to two more in
front of them that belong to the text. -/
def closing? (quote : Char) (cs : List Char) : Option (Read (List Char)) :=
  let run := min 5 (cs.takeWhile (· = quote)).length
  if 3 ≤ run then some (List.replicate (run - 3) quote, cs.drop run) else none

def skipBlankRun : List Char → List Char
  | ' ' :: cs => skipBlankRun cs
  | '\t' :: cs => skipBlankRun cs
  | '\n' :: cs => skipBlankRun cs
  | '\r' :: '\n' :: cs => skipBlankRun cs
  | cs => cs

/-- A backslash at the end of a line takes the line end and all blanks behind. -/
def foldedLine? (cs : List Char) : Option (List Char) :=
  (lineEnd? (skipSpaces cs)).map skipBlankRun

/-- The rest of a string of many lines, in which every line end is one character. -/
def blockString (q : Quote) : Nat → List Char → Option (Read (List Char))
  | 0, _ => none
  | fuel + 1, cs =>
    match closing? q.char cs with
    | some closed => some closed
    | none =>
      match lineEnd? cs with
      | some cs => do
        let (text, cs) ← blockString q fuel cs
        some ('\n' :: text, cs)
      | none =>
        match cs with
        | [] => none
        | c :: cs =>
          if q = .basic && c = '\\' then
            match foldedLine? cs with
            | some cs => blockString q fuel cs
            | none => do
              let (c, cs) ← escape cs
              let (text, cs) ← blockString q fuel cs
              some (c :: text, cs)
          else if isTextChar c then do
            let (text, cs) ← blockString q fuel cs
            some (c :: text, cs)
          else none

def asString (read : Read (List Char)) : Read String := (String.ofList read.1, read.2)

/-- A string of one line from behind its opening quote. -/
def lineText (q : Quote) (cs : List Char) : Option (Read String) :=
  (lineString q (cs.length + 1) cs).map asString

/-- A string of many lines from behind its opening quotes. A line end right
there is not part of it. -/
def blockText (q : Quote) (cs : List Char) : Option (Read String) :=
  (blockString q (cs.length + 1) ((lineEnd? cs).getD cs)).map asString

def stringValue (q : Quote) (cs : List Char) : Option (Read String) :=
  match cs with
  | a :: b :: rest => if a = q.char && b = q.char then blockText q rest else lineText q cs
  | cs => lineText q cs

def isBareKeyChar (c : Char) : Bool := c.isAlphanum || c = '_' || c = '-'

def keyPart : List Char → Option (Read String)
  | '"' :: cs => lineText .basic cs
  | '\'' :: cs => lineText .plain cs
  | cs =>
    match cs.takeWhile isBareKeyChar with
    | [] => none
    | name => some (String.ofList name, cs.dropWhile isBareKeyChar)

/-- The parts of a key, with spaces around each of them. -/
def keyParts : Nat → List Char → Option (Read (List String))
  | 0, _ => none
  | fuel + 1, cs => do
    let (part, cs) ← keyPart (skipSpaces cs)
    match skipSpaces cs with
    | '.' :: cs =>
      let (parts, cs) ← keyParts fuel cs
      some (part :: parts, cs)
    | cs => some ([part], cs)

/-- Keys have fewer than eighty parts, as values have fewer than eighty levels. -/
def maxDepth : Nat := 80

def key (cs : List Char) : Option (Read (List String)) := do
  let (parts, cs) ← keyParts (cs.length + 1) cs
  if parts.length < maxDepth then some (parts, cs) else none

end SecretAccess.Toml.Reader
