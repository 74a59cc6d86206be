import SecretAccess.Host.Script.Syntax

/-!
# Patterns of names

Patterns with a star for any text, a question mark for any character and
brackets for one of several characters. What is quoted stands for itself.
-/

namespace SecretAccess.Host.Script

open Text (Octets)

/-- A character of a word, and whether it was quoted. -/
structure Glyph where
  char : Char
  quoted : Bool
deriving DecidableEq, Repr

def glyphs (quoted : Bool) (o : Octets) : List Glyph := o.map (⟨·, quoted⟩)

namespace Glob

/-- The characters that a pair of brackets allows. -/
inductive Member where
  | range (low high : Char)
  | family (name : String)
deriving DecidableEq, Repr

inductive Item where
  | exactly (c : Char)
  | one
  | run
  | among (inverted : Bool) (members : List Member)
deriving DecidableEq, Repr

def isGraphic (c : Char) : Bool := '!' ≤ c && c ≤ '~'

/-- The characters of a family, by its name. -/
def isInFamily (name : String) (c : Char) : Bool :=
  match name with
  | "alnum" => c.isAlphanum
  | "alpha" => c.isAlpha
  | "blank" => c = ' ' || c = '\t'
  | "cntrl" => c < ' ' || c = '\x7f'
  | "digit" => c.isDigit
  | "graph" => isGraphic c
  | "lower" => c.isLower
  | "print" => c = ' ' || isGraphic c
  | "punct" => isGraphic c && !c.isAlphanum
  | "space" => c = ' ' || ('\t' ≤ c && c ≤ '\r')
  | "upper" => c.isUpper
  | "xdigit" => c.isDigit || ('a' ≤ c && c ≤ 'f') || ('A' ≤ c && c ≤ 'F')
  | _ => false

def Member.allows (m : Member) (c : Char) : Bool :=
  match m with
  | range low high => low ≤ c && c ≤ high
  | family name => isInFamily name c

def Item.allows (i : Item) (c : Char) : Bool :=
  match i with
  | exactly d => c = d
  | one | run => true
  | among inverted members => members.any (·.allows c) != inverted

/-- A family of characters behind its first bracket and colon. -/
def family? (gs : List Glyph) : Option (String × List Glyph) :=
  let name := gs.takeWhile fun g => g.char.isAlpha
  match gs.dropWhile fun g => g.char.isAlpha with
  | ⟨':', _⟩ :: ⟨']', _⟩ :: rest => some (String.ofList (name.map Glyph.char), rest)
  | _ => none

/-- The members of a pair of brackets, up to the one that closes. -/
def members? : Nat → Bool → List Glyph → Option (List Member × List Glyph)
  | 0, _, _ => none
  | fuel + 1, first, gs =>
    let one (c : Char) (rest : List Glyph) := do
      let (ms, rest) ← members? fuel false rest
      some (.range c c :: ms, rest)
    match gs with
    | [] => none
    | ⟨']', false⟩ :: rest => if first then one ']' rest else some ([], rest)
    | ⟨'[', false⟩ :: ⟨':', _⟩ :: rest =>
      match family? rest with
      | some (name, rest) => do
        let (ms, rest) ← members? fuel false rest
        some (.family name :: ms, rest)
      | none => one '[' (gs.drop 1)
    | ⟨c, _⟩ :: ⟨'-', false⟩ :: ⟨d, closes⟩ :: rest =>
      if d = ']' && !closes then one c (gs.drop 1)
      else do
        let (ms, rest) ← members? fuel false rest
        some (.range c d :: ms, rest)
    | ⟨c, _⟩ :: rest => one c rest

def itemsFrom : Nat → List Glyph → List Item
  | 0, _ | _, [] => []
  | fuel + 1, ⟨c, quoted⟩ :: rest =>
    if quoted then .exactly c :: itemsFrom fuel rest
    else
      match c with
      | '*' => .run :: itemsFrom fuel rest
      | '?' => .one :: itemsFrom fuel rest
      | '[' =>
        let inverted := rest.head? = some ⟨'!', false⟩
        match members? (rest.length + 1) true (if inverted then rest.drop 1 else rest) with
        | some (ms, rest) => .among inverted ms :: itemsFrom fuel rest
        | none => .exactly c :: itemsFrom fuel rest
      | '\\' =>
        match rest with
        | g :: rest => .exactly g.char :: itemsFrom fuel rest
        | [] => [.exactly c]
      | c => .exactly c :: itemsFrom fuel rest

def items (gs : List Glyph) : List Item := itemsFrom (gs.length + 1) gs

/-- The ends of a text, the longest first. -/
def tails : Octets → List Octets
  | [] => [[]]
  | c :: cs => (c :: cs) :: tails cs

/-- Whether a pattern fits the whole of a text. -/
def fits : List Item → Octets → Bool
  | [], cs => cs.isEmpty
  | .run :: is, cs => (tails cs).any (fits is)
  | _ :: _, [] => false
  | i :: is, c :: cs => i.allows c && fits is cs

/-- Whether a pattern is more than a text. -/
def isPattern (gs : List Glyph) : Bool :=
  gs.any fun g => !g.quoted && (g.char = '*' || g.char = '?' || g.char = '[')

/-- What is left of a text without the piece that a pattern fits at one end. -/
def cut (atEnd longest : Bool) (pattern : List Item) (cs : Octets) : Octets :=
  let places := List.range (cs.length + 1)
  let places := if atEnd = longest then places else places.reverse
  let fitsAt (n : Nat) := fits pattern (if atEnd then cs.drop n else cs.take n)
  match places.find? fitsAt with
  | some n => if atEnd then cs.take n else cs.drop n
  | none => cs

/-- The names in a directory that a pattern fits, in order. A hidden name has to
begin as the pattern does. -/
def namesThat (t : FileTree) (directory : Location) (pattern : List Item) : List Octets :=
  let names := ['.'] :: ['.', '.'] :: (t.childrenAt directory).map Octets.ofBytes
  let isShown (name : Octets) := name.head? ≠ some '.' || pattern.head? = some (.exactly '.')
  (names.filter fun name => isShown name && fits pattern name).mergeSort Octets.le

/-- The glyphs up to each slash. -/
def segments : List Glyph → List (List Glyph)
  | [] => [[]]
  | g :: gs =>
    match segments gs with
    | s :: rest => if g.char = '/' then [] :: s :: rest else (g :: s) :: rest
    | [] => [[g]]

def placeOf (t : FileTree) (path : Octets) : Except Fault Location :=
  if path.isEmpty then .ok t.working else t.locate .use (Octets.toText path)

/-- The paths that lead to something, of those that a pattern fits. -/
def pathsFrom (t : FileTree) (before : Octets) : List (List Glyph) → List Octets
  | [] => [before]
  | s :: rest =>
    let next (name : Octets) : List Octets :=
      let path := before ++ name
      if rest.isEmpty then
        if t.pathExists (Octets.toText path) then [path] else []
      else pathsFrom t (path ++ ['/']) rest
    if isPattern s then
      match placeOf t before with
      | .ok l => (namesThat t l (items s)).flatMap next
      | .error _ => []
    else next (s.map Glyph.char)

/-- A field as it stands, or the paths that it fits. -/
def paths (t : FileTree) (gs : List Glyph) : List Octets :=
  if isPattern gs then
    match pathsFrom t [] (segments gs) with
    | [] => [gs.map Glyph.char]
    | found => found
  else [gs.map Glyph.char]

end Glob

end SecretAccess.Host.Script
