import SecretAccess.Host.Script.Glob

/-!
# Regular expressions over octets

Basic and extended expressions, with groups that can be referred to. A match
begins as far in front as it can, and is then as long as it can be.
-/

namespace SecretAccess.Host.Utility

open Text (Octets)
open Script.Glob (Member)

inductive Expression where
  | empty
  | exactly (c : Char)
  | any
  | among (inverted : Bool) (members : List Member)
  | lineStart
  | lineEnd
  | wordStart
  | wordEnd
  /-- Where a word begins or ends; or where none does. -/
  | boundary (isOne : Bool)
  | both (first second : Expression)
  | either (first second : Expression)
  /-- Repeats so many times at least, and at most so many. -/
  | times (e : Expression) (low : Nat) (high : Option Nat)
  | group (number : Nat) (e : Expression)
  | again (number : Nat)
deriving DecidableEq, Repr

namespace Expression

/-- How expressions are written: whether signs need a backslash to be special,
and whether case matters. -/
structure Style where
  extended : Bool
  folded : Bool
deriving DecidableEq, Repr

/-- A special sign, or a character. -/
inductive Sign where
  | char (c : Char)
  | any
  | star
  | plus
  | maybe
  | opening
  | closing
  | bar
  | brace
  | lineStart
  | lineEnd
  | wordStart
  | wordEnd
  | boundary (isOne : Bool)
  | bracket
  | among (inverted : Bool) (members : List Member)
  | again (number : Nat)
deriving DecidableEq, Repr

def wordMembers : List Member := [.family "alnum", .range '_' '_']

/-- The sign at the head, and what follows it. -/
def sign? (s : Style) (cs : Octets) : Option (Sign × Octets) :=
  match cs with
  | [] => none
  | '\\' :: c :: rest =>
    if c.isDigit && c ≠ '0' then some (.again (c.toNat - 48), rest)
    else
      match c with
      | 'n' => some (.char '\n', rest)
      | 't' => some (.char '\t', rest)
      | '<' => some (.wordStart, rest)
      | '>' => some (.wordEnd, rest)
      | 'b' => some (.boundary true, rest)
      | 'B' => some (.boundary false, rest)
      | 'w' => some (.among false wordMembers, rest)
      | 'W' => some (.among true wordMembers, rest)
      | 's' => some (.among false [.family "space"], rest)
      | 'S' => some (.among true [.family "space"], rest)
      | '(' => some (if s.extended then .char c else .opening, rest)
      | ')' => some (if s.extended then .char c else .closing, rest)
      | '|' => some (if s.extended then .char c else .bar, rest)
      | '\x7b' => some (if s.extended then .char c else .brace, rest)
      | '+' => some (if s.extended then .char c else .plus, rest)
      | '?' => some (if s.extended then .char c else .maybe, rest)
      | c => some (.char c, rest)
  | c :: rest =>
    match c with
    | '.' => some (.any, rest)
    | '*' => some (.star, rest)
    | '[' => some (.bracket, rest)
    | '^' => some (.lineStart, rest)
    | '$' => some (.lineEnd, rest)
    | '(' => some (if s.extended then .opening else .char c, rest)
    | ')' => some (if s.extended then .closing else .char c, rest)
    | '|' => some (if s.extended then .bar else .char c, rest)
    | '\x7b' => some (if s.extended then .brace else .char c, rest)
    | '+' => some (if s.extended then .plus else .char c, rest)
    | '?' => some (if s.extended then .maybe else .char c, rest)
    | c => some (.char c, rest)

/-- The limits of a repetition, behind its brace. -/
def limits? (s : Style) (cs : Octets) : Option (Nat × Option Nat × Octets) :=
  let number (ds : Octets) : Nat := ds.foldl (fun n c => n * 10 + (c.toNat - 48)) 0
  let low := cs.takeWhile Char.isDigit
  let rest := cs.dropWhile Char.isDigit
  let (high, rest) : Option Nat × Octets :=
    match rest with
    | ',' :: rest =>
      let ds := rest.takeWhile Char.isDigit
      (if ds.isEmpty then none else some (number ds), rest.dropWhile Char.isDigit)
    | rest => (some (number low), rest)
  match s.extended, rest with
  | true, '\x7d' :: rest | false, '\\' :: '\x7d' :: rest => some (number low, high, rest)
  | _, _ => none

/-- Groups read so far, and what is left to read. -/
structure Reader where
  groups : Nat
  rest : Octets

def atom (s : Style) (c : Char) : Expression :=
  if s.folded && c.isAlpha then
    .among false [.range c.toLower c.toLower, .range c.toUpper c.toUpper]
  else .exactly c

/-- Whether a dollar sign stands at the end of a branch. -/
def endsBranch (s : Style) (cs : Octets) : Bool :=
  match sign? s cs with
  | none | some (.closing, _) | some (.bar, _) => true
  | _ => false

mutual

/-- Alternatives up to a closing parenthesis or the end. -/
def alternatives (s : Style) : Nat → Reader → Option (Expression × Reader)
  | 0, _ => none
  | fuel + 1, r => do
    let (first, r) ← branch s fuel true r
    match sign? s r.rest with
    | some (.bar, rest) =>
      let (second, r) ← alternatives s fuel { r with rest }
      some (.either first second, r)
    | _ => some (first, r)

/-- Repeated parts, one after the other. -/
def branch (s : Style) : Nat → Bool → Reader → Option (Expression × Reader)
  | 0, _, _ => none
  | fuel + 1, first, r =>
    match sign? s r.rest with
    | none | some (.bar, _) | some (.closing, _) => some (.empty, r)
    | some (sign, rest) => do
      let (e, r) ← part s fuel first sign { r with rest }
      let (e, r) := repeats fuel e r
      let (more, r) ← branch s fuel (first && e = .lineStart) r
      some (if more = .empty then e else .both e more, r)
where
  repeats : Nat → Expression → Reader → Expression × Reader
    | 0, e, r => (e, r)
    | fuel + 1, e, r =>
      match sign? s r.rest with
      | some (.star, rest) =>
        if e = .lineStart then (e, r) else repeats fuel (.times e 0 none) { r with rest }
      | some (.plus, rest) => repeats fuel (.times e 1 none) { r with rest }
      | some (.maybe, rest) => repeats fuel (.times e 0 (some 1)) { r with rest }
      | some (.brace, rest) =>
        match limits? s rest with
        | some (low, high, rest) => repeats fuel (.times e low high) { r with rest }
        | none => (e, r)
      | _ => (e, r)

def part (s : Style) : Nat → Bool → Sign → Reader → Option (Expression × Reader)
  | 0, _, _, _ => none
  | fuel + 1, first, sign, r =>
    match sign with
    | .char c => some (atom s c, r)
    | .any => some (.any, r)
    | .again number => some (.again number, r)
    | .wordStart => some (.wordStart, r)
    | .wordEnd => some (.wordEnd, r)
    | .boundary isOne => some (.boundary isOne, r)
    | .among inverted members => some (.among inverted members, r)
    | .lineStart => some (if s.extended || first then .lineStart else .exactly '^', r)
    | .lineEnd => some (if s.extended || endsBranch s r.rest then .lineEnd else .exactly '$', r)
    | .star => if first then some (.exactly '*', r) else none
    | .plus => some (.exactly '+', r)
    | .maybe => some (.exactly '?', r)
    | .brace => some (.exactly '\x7b', r)
    | .bracket =>
      let inverted := r.rest.head? = some '^'
      let gs := Script.glyphs false (if inverted then r.rest.drop 1 else r.rest)
      (Script.Glob.members? (gs.length + 1) true gs).map fun (ms, rest) =>
        (.among inverted ms, { r with rest := rest.map Script.Glyph.char })
    | .opening => do
      let number := r.groups + 1
      let (e, r) ← alternatives s fuel { r with groups := number }
      match sign? s r.rest with
      | some (.closing, rest) => some (.group number e, { r with rest })
      | _ => none
    | .closing | .bar => none

end

/-- How many groups are opened and closed outside brackets. -/
def balance (s : Style) : Nat → Octets → Int
  | 0, _ => 0
  | fuel + 1, cs =>
    match sign? s cs with
    | none => 0
    | some (.opening, rest) => balance s fuel rest + 1
    | some (.closing, rest) => balance s fuel rest - 1
    | some (_, rest) => balance s fuel rest

/-- What is wrong with a text that is no expression. -/
def complaint (s : Style) (cs : Octets) : String :=
  let n := balance s (cs.length + 1) cs
  if 0 < n then "Unmatched ( or \\("
  else if n < 0 then "Unmatched ) or \\)"
  else if cs.contains '[' then "Unmatched [, [^, [:, [., or [="
  else "Invalid preceding regular expression"

def groupCount : Expression → Nat
  | .both a b | .either a b => max a.groupCount b.groupCount
  | .times e _ _ => e.groupCount
  | .group n e => max n e.groupCount
  | _ => 0

def parse? (s : Style) (cs : Octets) : Option Expression :=
  match alternatives s (4 * cs.length + 4) ⟨0, cs⟩ with
  | some (e, ⟨_, []⟩) => some e
  | _ => none

/-- A text that stands for itself. -/
def literal (s : Style) (cs : Octets) : Expression :=
  cs.foldr (fun c e => if e = .empty then atom s c else .both (atom s c) e) .empty

/-- How far a match has come: what lies behind, what is ahead, and what the
groups have matched. -/
structure Place where
  behind : Octets
  ahead : Octets
  groups : List (Nat × Octets)

def isWordPart (c : Char) : Bool := c.isAlphanum || c = '_'

def Place.step (p : Place) (allows : Char → Bool) : List Place :=
  match p.ahead with
  | c :: rest => if allows c then [{ p with behind := c :: p.behind, ahead := rest }] else []
  | [] => []

/-- The text that was passed between two places. -/
def passed (start stop : Place) : Octets :=
  (stop.behind.take (stop.behind.length - start.behind.length)).reverse

/-- Where a match from a place on can end. -/
def ends (folded : Bool) : Nat → Expression → Place → List Place
  | 0, _, _ => []
  | fuel + 1, e, p =>
    match e with
    | .empty => [p]
    | .exactly c => p.step (· = c)
    | .any => p.step fun _ => true
    | .among inverted members =>
      p.step fun c =>
        (members.any fun m => m.allows c || (folded && (m.allows c.toLower || m.allows c.toUpper)))
          != inverted
    | .lineStart => if p.behind.isEmpty then [p] else []
    | .lineEnd => if p.ahead.isEmpty then [p] else []
    | .wordStart =>
      if p.ahead.head?.any isWordPart && !p.behind.head?.any isWordPart then [p] else []
    | .wordEnd =>
      if p.behind.head?.any isWordPart && !p.ahead.head?.any isWordPart then [p] else []
    | .boundary isOne =>
      if (p.behind.head?.any isWordPart != p.ahead.head?.any isWordPart) = isOne then [p] else []
    | .both first second => (ends folded fuel first p).flatMap (ends folded fuel second)
    | .either first second => ends folded fuel first p ++ ends folded fuel second p
    | .times inner low high =>
      let further :=
        if high = some 0 then []
        else
          ((ends folded fuel inner p).filter fun q => q.ahead.length < p.ahead.length || 0 < low).flatMap
            (ends folded fuel (.times inner (low - 1) (high.map (· - 1))))
      further ++ if low = 0 then [p] else []
    | .group number inner =>
      (ends folded fuel inner p).map fun q => { q with groups := (number, passed p q) :: q.groups }
    | .again number =>
      let text := (p.groups.lookup number).getD []
      if text.isPrefixOf p.ahead then
        [{ p with behind := text.reverse ++ p.behind, ahead := p.ahead.drop text.length }]
      else []

def size : Expression → Nat
  | .both a b | .either a b => a.size + b.size + 1
  | .times e low high => e.size + low + high.getD 0 + 1
  | .group _ e => e.size + 1
  | _ => 1

/-- A match: what stands in front of it, what it is, and where it ended. -/
structure Match where
  before : Octets
  text : Octets
  place : Place

def longest (start : Place) (found : List Place) : Option Match :=
  (found.foldl (fun (best : Option Place) p =>
    match best with
    | some b => if p.ahead.length < b.ahead.length then some p else best
    | none => some p) none).map fun p => ⟨start.behind.reverse, passed start p, p⟩

/-- The first match from a place on. -/
def search (folded : Bool) (e : Expression) (behind : Octets) : Octets → Option Match
  | [] => found []
  | c :: cs => (found (c :: cs)).or (search folded e (c :: behind) cs)
where
  found (ahead : Octets) : Option Match :=
    let p : Place := ⟨behind, ahead, []⟩
    longest p (ends folded (2 * (ahead.length + e.size) + 8) e p)

end Expression

end SecretAccess.Host.Utility
