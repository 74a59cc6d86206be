import SecretAccess.Toml.Definition
import SecretAccess.Toml.Number

/-!
# Reading TOML documents

A document is one statement a line: a header or a key with its value. Nothing
is said of why a text is refused, only that it is.
-/

namespace SecretAccess.Toml

namespace Reader

def word (text : List Char) (v : Toml) (cs : List Char) : Option (Read Toml) :=
  if text.isPrefixOf cs then some (v, cs.drop text.length) else none

/-- A value that holds no other values. -/
def scalar : List Char → Option (Read Toml)
  | [] => none
  | '"' :: cs => (stringValue .basic cs).map fun read => (.string read.1, read.2)
  | '\'' :: cs => (stringValue .plain cs).map fun read => (.string read.1, read.2)
  | 't' :: cs => word ['r', 'u', 'e'] (.boolean true) cs
  | 'f' :: cs => word ['a', 'l', 's', 'e'] (.boolean false) cs
  | c :: cs =>
    if c.isDigit || c = '+' || c = '-' then numeric (c :: cs) else special (c :: cs)

mutual
/-- A value with `room` levels of nesting left. -/
def value : Nat → Nat → List Char → Option (Read Toml)
  | 0, _, _ => none
  | fuel + 1, room, cs =>
    match cs with
    | '[' :: cs =>
      match room with
      | 0 => none
      | room + 1 => do
        let (items, cs) ← items fuel room cs
        some (.array items, cs)
    | '\x7b' :: cs =>
      match room with
      | 0 => none
      | room + 1 => do
        let cs := skipSpaces cs
        let (pairs, cs) ←
          match cs with
          | '\x7d' :: cs => some ([], cs)
          | cs => pairs fuel room cs
        let table ← inlineTable pairs
        some (table, cs)
    | cs => scalar cs
/-- The items of an array up to its end. A comma may follow the last one. -/
def items : Nat → Nat → List Char → Option (Read (List Toml))
  | 0, _, _ => none
  | fuel + 1, room, cs => do
    match ← skipBlankLines cs with
    | ']' :: cs => some ([], cs)
    | cs =>
      let (item, cs) ← value fuel room cs
      match ← skipBlankLines cs with
      | ']' :: cs => some ([item], cs)
      | ',' :: cs =>
        let (rest, cs) ← items fuel room cs
        some (item :: rest, cs)
      | _ => none
/-- The members of an inline table up to its end, at least one of them. -/
def pairs : Nat → Nat → List Char → Option (Read (List (List String × Toml)))
  | 0, _, _ => none
  | fuel + 1, room, cs => do
    let (key, cs) ← key cs
    let cs ← expect '=' cs
    let (member, cs) ← value fuel room (skipSpaces cs)
    match skipSpaces cs with
    | '\x7d' :: cs => some ([(key, member)], cs)
    | ',' :: cs =>
      let (rest, cs) ← pairs fuel room cs
      some ((key, member) :: rest, cs)
    | _ => none
end

/-- Every character of a text pays for one call at most twice over. -/
def enough (cs : List Char) : Nat := 2 * cs.length + 2

inductive Statement where
  | member (key : List String) (v : Toml)
  | tableHeader (key : List String)
  | rowHeader (key : List String)

def statement : List Char → Option (Read Statement)
  | '[' :: '[' :: cs => do
    let (key, cs) ← key cs
    let cs ← expect ']' cs
    let cs ← expect ']' cs
    some (.rowHeader key, cs)
  | '[' :: cs => do
    let (key, cs) ← key cs
    let cs ← expect ']' cs
    some (.tableHeader key, cs)
  | cs => do
    let (key, cs) ← key cs
    let cs ← expect '=' cs
    let (v, cs) ← value (enough cs) (maxDepth - 1) (skipSpaces cs)
    some (.member key v, cs)

def perform (d : Draft) : Statement → Option Draft
  | .member key v => d.define key v
  | .tableHeader key => d.openTable key
  | .rowHeader key => d.openRow key

/-- The statements from the start of a line on. -/
def statements : Nat → Draft → List Char → Option Draft
  | 0, _, _ => none
  | fuel + 1, d, cs =>
    match skipSpaces cs with
    | [] => some d
    | '#' :: cs => do
      let cs ← endOfLine ('#' :: cs)
      statements fuel d cs
    | cs =>
      match lineEnd? cs with
      | some cs => statements fuel d cs
      | none => do
        let (s, cs) ← statement cs
        let cs ← endOfLine cs
        let d ← perform d s
        statements fuel d cs

def skipMark : List Char → List Char
  | '\ufeff' :: cs => cs
  | cs => cs

end Reader

/-- The top table of a document. -/
def parse? (text : String) : Option (List (String × Toml)) := do
  let cs := Reader.skipMark text.toList
  let d ← Reader.statements (cs.length + 1) .empty cs
  let root ← d.settle
  some (Entries.toMembers root)

end SecretAccess.Toml
