import SecretAccess.Host.Script.Arithmetic
import SecretAccess.Host.Script.State
import SecretAccess.Host.Script.Token

/-!
# The expansion of words

Parameters, numbers and the output of scripts take their place in a word. What
was not quoted is then split into fields, and fields that are patterns become
the names that they fit.
-/

namespace SecretAccess.Host.Script

open Text (Octets)

/-- A word on its way to fields. -/
inductive Symbol where
  /-- Text that came from a parameter can be split. -/
  | glyph (g : Glyph) (splits : Bool)
  /-- Quotes with nothing in them still make a field. -/
  | nothing
  /-- The end of a field. -/
  | gap
deriving DecidableEq, Repr

namespace Symbol

def quoted (o : Octets) : List Symbol :=
  if o.isEmpty then [nothing] else o.map fun c => glyph ⟨c, true⟩ false

def loose (o : Octets) : List Symbol := o.map fun c => glyph ⟨c, false⟩ true

def solid (o : Octets) : List Symbol := o.map fun c => glyph ⟨c, false⟩ false

def ofValue (isQuoted : Bool) (o : Octets) : List Symbol := if isQuoted then quoted o else loose o

def glyph? : Symbol → Option Glyph
  | glyph g _ => some g
  | nothing => none
  | gap => some ⟨' ', true⟩

end Symbol

def isSpaceGap (c : Char) : Bool := c = ' ' || c = '\t' || c = '\n'

/-- How far the reading of fields is: the field that is open, and whether the
last one was closed by blanks alone. -/
structure Splitting where
  fields : List (List Glyph)
  current : Option (List Glyph)
  closedByBlank : Bool

namespace Splitting

def close (p : Splitting) (byBlank : Bool) : Splitting :=
  match p.current with
  | some field => ⟨field :: p.fields, none, byBlank⟩
  | none => { p with closedByBlank := p.closedByBlank && byBlank }

/-- A separator that is no blank ends a field even if there is nothing in it. -/
def separate (p : Splitting) : Splitting :=
  match p.current with
  | some field => ⟨field :: p.fields, none, false⟩
  | none => if p.closedByBlank then { p with closedByBlank := false } else ⟨[] :: p.fields, none, false⟩

def add (gaps : Octets) (p : Splitting) (s : Symbol) : Splitting :=
  match s with
  | .gap => p.close false
  | .nothing => { p with current := some (p.current.getD []) }
  | .glyph g splits =>
    if splits && gaps.contains g.char then
      if isSpaceGap g.char then p.close true else p.separate
    else { p with current := some (g :: p.current.getD []) }

end Splitting

/-- The fields that symbols make. -/
def fieldsOf (gaps : Octets) (symbols : List Symbol) : List (List Glyph) :=
  let p := symbols.foldl (Splitting.add gaps) ⟨[], none, false⟩
  ((p.close false).fields.map List.reverse).reverse

/-- The text of symbols that are not split. -/
def textOf (symbols : List Symbol) : Octets :=
  symbols.filterMap fun s => s.glyph?.map Glyph.char

/-- Runs a script apart, from a line on, and gives what it prints. -/
abbrev Capture := State → Nat → Octets → State × Octets

def trimLines (o : Octets) : Octets := (o.reverse.dropWhile (· = '\n')).reverse

def allArguments (s : State) (isQuoted : Bool) : List Symbol :=
  ((s.arguments.map (Symbol.ofValue isQuoted)).intersperse [.gap]).flatten

def notSet (name : String) (emptyToo : Bool) : Octets :=
  octets (name ++ ": parameter not set" ++ if emptyToo then " or null" else "")

/-- The home directory of a user, as the list of users has it. -/
def homeOf? (s : State) (user : Octets) : Option Octets :=
  match s.process.tree.readBytes "/etc/passwd" with
  | .error _ => none
  | .ok bytes =>
    (Octets.lines (Octets.ofBytes bytes)).findSome? fun line =>
      let columns := line.splitOn ':'
      if columns.head? = some user then columns[5]? else none

/-- The directory that a name behind a tilde stands for. -/
def tilde? (s : State) (user : Octets) : Option Octets :=
  if user.isEmpty then s.bound? "HOME" else homeOf? s user

/-- A text with a home directory in place of a tilde at its front. The name of a
user ends at a slash, or where the text is closed. -/
def homeward (s : State) (closed : Bool) (o : Octets) : Word :=
  match o with
  | '~' :: rest =>
    let user := rest.takeWhile (· ≠ '/')
    match if closed || user.length < rest.length then tilde? s user else none with
    | some home => [⟨.text home, true⟩, ⟨.text (rest.drop user.length), false⟩]
    | none => [⟨.text o, false⟩]
  | _ => [⟨.text o, false⟩]

def expandTilde (s : State) (w : Word) : Word :=
  match w with
  | ⟨.text content, false⟩ :: more => homeward s more.isEmpty content ++ more
  | _ => w

/-- What is assigned can have tildes behind colons too. -/
def expandTildes (s : State) (isFront : Bool) : Word → Word
  | [] => []
  | p :: ps =>
    match p with
    | ⟨.text content, false⟩ =>
      let segments := content.splitOn ':'
      let expanded := segments.zipIdx.map fun (o, i) =>
        if i = 0 && !isFront then [(⟨.text o, false⟩ : Piece)]
        else homeward s (i + 1 < segments.length || ps.isEmpty) o
      (expanded.intersperse [⟨.text [':'], false⟩]).flatten ++ expandTildes s false ps
    | p => p :: expandTildes s false ps

def applyBindings (s : State) (bindings : Arithmetic.Bindings) : State :=
  bindings.reverse.foldl (fun s (name, value) => s.assign name value) s

mutual

/-- The symbols of a word. The text inside a parameter can be split. -/
def symbols (capture : Capture) : Nat → Bool → State → Word → State × List Symbol
  | 0, _, s, _ => (s, [])
  | _ + 1, _, s, [] => (s, [])
  | fuel + 1, splits, s, p :: ps =>
    let (s, first) := symbolsOf capture fuel splits s p
    if !s.isRunning then (s, first)
    else
      let (s, more) := symbols capture fuel splits s ps
      (s, first ++ more)

def symbolsOf (capture : Capture) : Nat → Bool → State → Piece → State × List Symbol
  | 0, _, s, _ => (s, [])
  | fuel + 1, splits, s, p =>
    match p.part with
    | .text content =>
      (s, if p.quoted then Symbol.quoted content
        else if splits then Symbol.loose content
        else Symbol.solid content)
    | .output script line =>
      let (s, printed) := capture s line script
      (s, Symbol.ofValue p.quoted (trimLines printed))
    | .number expression =>
      let (s, inner) := symbols capture fuel false s (wordOf .document s.line expression)
      if !s.isRunning then (s, [])
      else
        match Arithmetic.run (fun name => (s.value? name).getD []) (textOf inner) with
        | .ok (n, bindings) => (applyBindings s bindings, Symbol.ofValue p.quoted n.repr.toList)
        | .error message => (s.fail message.toList, [])
    | .malformed => (s.fail (octets "Bad substitution"), [])
    | .parameter name change => parameter capture fuel s name change p.quoted

def parameter (capture : Capture) :
    Nat → State → String → Change → Bool → State × List Symbol
  | 0, s, _, _, _ => (s, [])
  | fuel + 1, s, name, change, isQuoted =>
    let isAll := name = "@" || name = "*"
    let value := if isAll then (if s.arguments.isEmpty then none else some s.joinedArguments)
      else s.value? name
    let shown : List Symbol :=
      if name = "@" || (name = "*" && !isQuoted) then allArguments s isQuoted
      else if isAll then Symbol.ofValue isQuoted s.joinedArguments
      else Symbol.ofValue isQuoted (value.getD [])
    let word (s : State) (content : Octets) : State × List Symbol :=
      let w := wordOf (if isQuoted then .quotedOperand else .operand) s.line content
      let (s, inner) := symbols capture fuel (!isQuoted) s (expandTilde s w)
      (s, if isQuoted && inner.isEmpty then [.nothing] else inner)
    match change with
    | .asIs =>
      if value.isNone && !isAll && s.has 'u' then (s.fail (notSet name false), [])
      else (s, shown)
    | .length =>
      let count := if isAll then s.arguments.length else (value.getD []).length
      if value.isNone && !isAll && s.has 'u' then (s.fail (notSet name false), [])
      else (s, Symbol.ofValue isQuoted (ofNat count))
    | .cut atEnd longest pattern =>
      let (s, inner) := symbols capture fuel false s (wordOf .operand s.line pattern)
      let items := Glob.items (inner.filterMap Symbol.glyph?)
      (s, Symbol.ofValue isQuoted (Glob.cut atEnd longest items (value.getD [])))
    | .unless remedy emptyToo content =>
      let isAbsent := match value with
        | none => true
        | some o => emptyToo && o.isEmpty
      match remedy with
      | .replace =>
        if isAbsent then (s, Symbol.ofValue isQuoted []) else word s content
      | .useWord => if isAbsent then word s content else (s, shown)
      | .assignWord =>
        if isAbsent then
          let (s, inner) := word s content
          (s.assign name (textOf inner), Symbol.ofValue isQuoted (textOf inner))
        else (s, shown)
      | .refuse =>
        if isAbsent then
          let (s, inner) := word s content
          let message := if content.isEmpty then notSet name emptyToo
            else octets (name ++ ": ") ++ textOf inner
          (s.fail message, [])
        else (s, shown)

end

/-- How deep parameters may lie in each other. -/
def maxNesting : Nat := 1000

/-- The text of a word that is not split. -/
def expandText (capture : Capture) (s : State) (w : Word) : State × Octets :=
  let (s, inner) := symbols capture maxNesting false s (expandTilde s w)
  (s, textOf inner)

/-- The value that a word gives to a variable. -/
def expandValue (capture : Capture) (s : State) (w : Word) : State × Octets :=
  let (s, inner) := symbols capture maxNesting false s (expandTildes s true w)
  (s, textOf inner)

/-- A pattern keeps apart what was quoted. -/
def expandPattern (capture : Capture) (s : State) (w : Word) : State × List Glob.Item :=
  let (s, inner) := symbols capture maxNesting false s (expandTilde s w)
  (s, Glob.items (inner.filterMap Symbol.glyph?))

def expandWord (capture : Capture) (s : State) (w : Word) : State × List Octets :=
  let (s, inner) := symbols capture maxNesting false s (expandTilde s w)
  let fields := fieldsOf s.gaps inner
  (s, if s.has 'f' then fields.map (·.map Glyph.char)
    else fields.flatMap (Glob.paths s.process.tree))

/-- The fields of words, one after the other. -/
def expandWords (capture : Capture) (s : State) (ws : List Word) : State × List Octets :=
  ws.foldl (fun (s, fields) w =>
    if s.isRunning then
      let (s, more) := expandWord capture s w
      (s, fields ++ more)
    else (s, fields)) (s, [])

end SecretAccess.Host.Script
