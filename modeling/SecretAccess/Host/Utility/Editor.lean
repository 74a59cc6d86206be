import SecretAccess.Host.Utility.Instruction

/-!
# Editing lines

An editor takes lines one after the other through its instructions, with a
second text that it holds from line to line.
-/

namespace SecretAccess.Host.Utility

open Text (Octets)

namespace Editor

def changeCase (c : Casing) (o : Octets) : Octets :=
  match c with
  | .keep => o
  | .upper => o.map Char.toUpper
  | .lower => o.map Char.toLower

/-- The parts of a replacement put together. -/
def assemble (m : Expression.Match) : Casing → Casing → List Substitute → Octets
  | _, _, [] => []
  | all, _, .casing c :: rest => assemble m (if c = all then all else c) .keep rest
  | all, _, .next c :: rest => assemble m all c rest
  | all, first, .text o :: rest => put all first o rest
  | all, first, .group n :: rest =>
    put all first (if n = 0 then m.text else (m.place.groups.lookup n).getD []) rest
where
  put (all first : Casing) (o : Octets) (rest : List Substitute) : Octets :=
    let o := changeCase all o
    let changed := if first = .keep then o else changeCase first (o.take 1) ++ o.drop 1
    changed ++ assemble m all (if o.isEmpty then first else .keep) rest

/-- A text with matches replaced, from the given one on, and whether any was.
Right behind a match nothing matches nothing. -/
def substitute (folded : Bool) (e : Expression) (parts : List Substitute) (every : Bool) :
    Nat → Nat → Bool → Octets → Octets → Octets × Bool
  | 0, _, _, _, ahead => (ahead, false)
  | fuel + 1, skips, isBehindMatch, behind, ahead =>
    match Expression.search folded e behind ahead with
    | none => (ahead, false)
    | some m =>
      let front := m.before.drop behind.length
      let after := m.place.ahead
      let stepOn (skips : Nat) : Octets × Bool :=
        match after with
        | [] => ([], false)
        | c :: rest =>
          let (text, any) :=
            substitute folded e parts every fuel skips false (c :: m.place.behind) rest
          (c :: text, any)
      let further (skips : Nat) : Octets × Bool :=
        if m.text.isEmpty then stepOn skips
        else substitute folded e parts every fuel skips true m.place.behind after
      if m.text.isEmpty && front.isEmpty && isBehindMatch then stepOn skips
      else if 1 < skips then
        let (text, any) := further (skips - 1)
        (front ++ m.text ++ text, any)
      else
        let replaced := assemble m .keep .keep parts
        if every then
          let (text, _) := further 1
          (front ++ replaced ++ text, true)
        else (front ++ replaced ++ after, true)

/-- A range of lines that is open: up to a line, or up to a match. -/
inductive Range where
  | upTo (n : Nat)
  | untilMatch
deriving DecidableEq, Repr

/-- An editor at work. -/
structure Machine where
  line : Octets
  held : Octets
  number : Nat
  /-- Lines that are still to come, each with whether it is closed. -/
  coming : List (Octets × Bool)
  isClosed : Bool
  /-- What was printed last lacks its end. -/
  lacksEnd : Bool
  /-- The instructions whose ranges are open, by place. -/
  active : List (Nat × Range)
  output : List Octets
  /-- What follows the line. -/
  appended : List Octets
  /-- What goes into files. -/
  written : List (Octets × Octets)
  replaced : Bool
  lastPattern : Option (Expression × Bool)
  status : Nat

/-- What an editor works with throughout. -/
structure Setup where
  quiet : Bool
  separator : Char
  program : Array Instruction
  read : Octets → Octets

namespace Machine

def isLast (m : Machine) : Bool := m.coming.isEmpty

def put (m : Machine) (o : Octets) : Machine :=
  if o.isEmpty then m
  else { m with output := o :: (if m.lacksEnd then [['\n']] else []) ++ m.output, lacksEnd := false }

def printText (u : Setup) (m : Machine) (o : Octets) : Machine :=
  if m.isLast && !m.isClosed then
    let m := m.put o
    { m with lacksEnd := true }
  else m.put (o ++ [u.separator])

/-- Prints what is to follow the line. -/
def flush (m : Machine) : Machine :=
  { m.appended.reverse.foldl put m with appended := [] }

def resolve (m : Machine) (p : Pattern) : Option (Expression × Bool) := p.or m.lastPattern

def fits (m : Machine) : Address → Bool
  | .line n => m.number = n
  | .every first step =>
    if step = 0 then m.number = first else first ≤ m.number && (m.number - first) % step = 0
  | .last => m.isLast
  | .fits p =>
    (m.resolve p).any fun (e, folded) => (Expression.search folded e [] m.line).isSome
  | .further _ | .multiple _ => false

def remember (m : Machine) (a : Option Address) : Machine :=
  match a with
  | some (.fits (some p)) => { m with lastPattern := some p }
  | _ => m

/-- Whether an instruction counts for the line. -/
def chooses (m : Machine) (place : Nat) (i : Instruction) : Bool × Machine :=
  let others := m.active.filter (·.1 ≠ place)
  let opened (r : Range) : Bool × Machine := (true, { m with active := (place, r) :: others })
  let closed (answer : Bool) : Bool × Machine := (answer, { m with active := others })
  match i.start, i.stop with
  | none, _ => (true, m)
  | some start, none => (m.fits start, m)
  | some start, some stop =>
    match m.active.lookup place with
    | some (.upTo n) => if n ≤ m.number then closed (m.number ≤ n) else (true, m)
    | some .untilMatch => if m.fits stop then closed true else (true, m)
    | none =>
      let isZero := start = .line 0
      if !(m.fits start || (isZero && m.number = 1)) then (false, m)
      else
        match stop with
        | .line n => if n ≤ m.number then (true, m) else opened (.upTo n)
        | .further n => if n = 0 then (true, m) else opened (.upTo (m.number + n))
        | .multiple n =>
          if n = 0 || m.number % n = 0 then (true, m)
          else opened (.upTo ((m.number / n + 1) * n))
        | stop => if isZero && m.fits stop then (true, m) else opened .untilMatch

/-- A line as it looks when nothing in it is hidden. -/
def shown (o : Octets) : Octets :=
  let octal (n : Nat) : Octets :=
    '\\' :: ([n / 64, n / 8 % 8, n % 8].map fun d => Char.ofNat (48 + d))
  let glyph (c : Char) : Octets :=
    match c with
    | '\\' => ['\\', '\\']
    | '\x07' => ['\\', 'a']
    | '\x08' => ['\\', 'b']
    | '\x0c' => ['\\', 'f']
    | '\n' => ['\\', 'n']
    | '\r' => ['\\', 'r']
    | '\t' => ['\\', 't']
    | '\x0b' => ['\\', 'v']
    | c => if c < ' ' || '~' < c then octal c.toNat else [c]
  let (rows, row) := (o.map glyph).foldl (fun ((rows, row) : Octets × Octets) g =>
    if 69 < row.length + g.length then (rows ++ row ++ ['\\', '\n'], g) else (rows, row ++ g))
    ([], [])
  rows ++ row ++ ['$', '\n']

/-- What comes after an instruction. -/
inductive After where
  | next
  | goTo (place : Nat)
  /-- The line is done with; it may be printed. -/
  | endCycle (prints : Bool)
  /-- Starts again with what is left of the line. -/
  | again
  | quit (prints : Bool)
deriving DecidableEq, Repr

/-- Takes the next line in place of the present one. -/
def advance (m : Machine) (join : Bool) : Option Machine :=
  match m.coming with
  | [] => none
  | (line, isClosed) :: coming =>
    let line := if join then m.line ++ '\n' :: line else line
    some { m with line, isClosed, coming, number := m.number + 1 }

def act (u : Setup) (m : Machine) (place : Nat) (i : Instruction) : Machine × After :=
  match i.action with
  | .substitute s =>
    match m.resolve s.pattern with
    | none => (m, .next)
    | some (e, folded) =>
      let (line, any) := Editor.substitute folded e s.parts s.every (m.line.length + 2) s.from_
        false [] m.line
      let m := { m with lastPattern := some (e, folded) }
      if !any then (m, .next)
      else
        let m := { m with line, replaced := true }
        let m := if s.prints then m.printText u m.line else m
        let written := s.file.toList.map fun path => (path, m.line ++ ['\n'])
        ({ m with written := m.written ++ written }, .next)
  | .transliterate set image =>
    ({ m with line := m.line.map fun c => ((set.zip image).lookup c).getD c }, .next)
  | .delete => (m, .endCycle false)
  | .deleteFirst =>
    if m.line.contains '\n' then
      ({ m with line := (m.line.dropWhile (· ≠ '\n')).drop 1 }, .again)
    else (m, .endCycle false)
  | .print => (m.printText u m.line, .next)
  | .printFirst => (m.put (m.line.takeWhile (· ≠ '\n') ++ [u.separator]), .next)
  | .show => (m.put (shown m.line), .next)
  | .next =>
    if m.isLast then (m, .quit true)
    else
      let m := (if u.quiet then m else m.printText u m.line).flush
      match m.advance false with
      | some m => (m, .next)
      | none => (m, .quit true)
  | .appendNext =>
    match m.flush.advance true with
    | some m => (m, .next)
    | none => (m, .quit true)
  | .hold => ({ m with held := m.line }, .next)
  | .holdMore => ({ m with held := m.held ++ '\n' :: m.line }, .next)
  | .fetch => ({ m with line := m.held }, .next)
  | .fetchMore => ({ m with line := m.line ++ '\n' :: m.held }, .next)
  | .exchange => ({ m with line := m.held, held := m.line }, .next)
  | .quit prints status => ({ m with status }, .quit prints)
  | .lineNumber => (m.put (ofNat m.number ++ ['\n']), .next)
  | .append text => ({ m with appended := text :: m.appended }, .next)
  | .insert text => (m.put text, .next)
  | .change text =>
    let isOpen := (m.active.lookup place).isSome && !i.inverted
    (if isOpen then m else m.put text, .endCycle false)
  | .readFile path => ({ m with appended := u.read path :: m.appended }, .next)
  | .writeFile path => ({ m with written := m.written ++ [(path, m.line ++ ['\n'])] }, .next)
  | .label _ | .opening | .closing => (m, .next)
  | .jump name wanted =>
    if wanted.all (· = m.replaced) then
      (if wanted = some true then { m with replaced := false } else m,
        .goTo ((placeOf? u.program name).getD u.program.size))
    else (if wanted.isSome then { m with replaced := false } else m, .next)

/-- Goes on from a place in the program, to the end of all lines. -/
def run (u : Setup) : Nat → Nat → Machine → Machine
  | 0, _, m => m
  | fuel + 1, place, m =>
    let nextCycle (m : Machine) : Machine :=
      match m.flush.advance false with
      | some m => run u fuel 0 { m with replaced := false }
      | none => m.flush
    match u.program[place]? with
    | none => nextCycle (if u.quiet then m else m.printText u m.line)
    | some i =>
      let (chosen, m) := (m.remember i.start).chooses place i
      if chosen = i.inverted then
        let further := if i.action = .opening then
            behindGroup u.program u.program.size 0 place
          else place + 1
        run u fuel further m
      else
        match m.act u place i with
        | (m, .next) => run u fuel (place + 1) m
        | (m, .goTo place) => run u fuel place m
        | (m, .endCycle _) => nextCycle m
        | (m, .again) => run u fuel 0 m.flush
        | (m, .quit prints) =>
          (if prints && !u.quiet then m.printText u m.line else m).flush

end Machine

/-- More steps than an editor takes that ends. -/
def maxSteps : Nat := 1000000

/-- Edits lines, each of which comes with whether it is closed. -/
def edit (u : Setup) (lines : List (Octets × Bool)) : Machine :=
  let start : Machine :=
    { line := [], held := [], number := 0, coming := lines, isClosed := true, lacksEnd := false
      active := [], output := [], appended := [], written := [], replaced := false
      lastPattern := none, status := 0 }
  match start.advance false with
  | some m => m.run u maxSteps 0
  | none => start

/-- The lines of a text, and whether each is closed. -/
def linesOf (separator : Char) (o : Octets) : List (Octets × Bool) :=
  let pieces := o.splitOn separator
  let closed := pieces.dropLast.map fun line => (line, true)
  match pieces.getLast? with
  | some [] | none => closed
  | some line => closed ++ [(line, false)]

end Editor

/-- The options of the editor by their long names. -/
def editorNames : List (String × Char) :=
  [("quiet", 'n'), ("silent", 'n'), ("expression", 'e'), ("file", 'f'), ("regexp-extended", 'E'),
    ("separate", 's'), ("unbuffered", 'u'), ("null-data", 'z'), ("in-place", 'i')]

/-- The texts that make up the script, each with what it is called in a complaint. -/
def scriptTexts (j : Job) (o : Options) : Except (Octets × Nat) (List (Octets × Octets)) :=
  let rec texts : Nat → List (Char × Octets) → Except (Octets × Nat) (List (Octets × Octets))
    | _, [] => .ok []
    | n, ('e', text) :: rest => do
      .ok ((octets ("-e expression #" ++ n.repr), text) :: (← texts (n + 1) rest))
    | n, ('f', path) :: rest =>
      match j.process.readFile path with
      | .ok (text, _) => do .ok ((octets "file " ++ path, text) :: (← texts n rest))
      | .error f =>
        .error (octets "couldn't open file " ++ path ++ octets (": " ++ f.reason), 4)
    | n, _ :: rest => texts n rest
  texts 1 o.letters

/-- The program that the texts make, or a complaint and its status. -/
def editorProgram (style : Expression.Style) (texts : List (Octets × Octets)) :
    Except (Octets × Nat) (Array Editor.Instruction) := do
  let (program, depth) ← texts.foldlM (fun (program, depth) (name, text) =>
    match Editor.instructions style (text.length + 1) depth text with
    | .ok (more, depth) => .ok (program ++ more, depth)
    | .error m =>
      let place := m.left.elim 0 (text.length - ·)
      .error (name ++ octets (", char " ++ place.repr ++ ": " ++ m.message), 1))
    (([] : List Editor.Instruction), 0)
  let name := (texts.getLast?.map Prod.fst).getD []
  if depth ≠ 0 then .error (name ++ octets ", char 0: unmatched `\x7b'", 1)
  else
    match Editor.missingLabel? program.toArray with
    | some label => .error (octets "can't find label for jump to `" ++ label ++ ['\''], 1)
    | none => .ok program.toArray

/-- Puts into files what an editor wrote for them. -/
def saveWritten (j : Job) (program : Array Editor.Instruction) (written : List (Octets × Octets)) :
    Job :=
  let paths := program.toList.filterMap fun i =>
    match i.action with
    | .writeFile path => some path
    | .substitute s => s.file
    | _ => none
  paths.eraseDups.foldl (fun j path =>
    let text := (written.filter (·.1 = path)).flatMap Prod.snd
    if path = octets "/dev/stdout" then j.print text else j.save path text) j

def editFiles (o : Options) (u : Editor.Setup) (suffix : Option Octets) (j : Job)
    (paths : List Octets) : Job :=
  let wording : Job.Wording := ⟨"can't read ", false, ""⟩
  match suffix with
  | some suffix =>
    paths.foldl (fun j path =>
      match j.process.readFile path with
      | .ok (content, process) =>
        let m := Editor.edit u (Editor.linesOf u.separator content)
        let j : Job := { j with process }
        let j := if suffix.isEmpty then j else j.save (path ++ suffix) content
        saveWritten (j.save path m.output.reverse.flatten) u.program m.written
      | .error f => j.blame wording path f 4) j
  | none =>
    let (j, found) := j.sources wording 2 paths
    let groups := found.map fun (_, content) => Editor.linesOf u.separator content
    let runs := if o.has 's' then groups else [groups.flatten]
    runs.foldl (fun j lines =>
      let m := Editor.edit u lines
      let j := saveWritten (j.print m.output.reverse.flatten) u.program m.written
      if m.status = 0 then j else j.fails m.status) j

def sed : Behaviour := fun j arguments =>
  let isInPlace (o : Octets) : Bool := ['-', 'i'].isPrefixOf o
  let arguments := shorten editorNames arguments
  let suffix := (arguments.find? isInPlace).map (List.drop 2)
  withOptions "nErsuz" "ef" 1 (fun j o =>
    let hasScript := o.letters.any fun l => l.1 = 'e' || l.1 = 'f'
    let (o, paths) : Options × List Octets :=
      match hasScript, o.operands with
      | false, script :: paths => ({ o with letters := o.letters ++ [('e', script)] }, paths)
      | _, paths => (o, paths)
    let style : Expression.Style := ⟨o.has 'E' || o.has 'r', false⟩
    if !(hasScript || o.has 'e') then j.complain (octets "no script specified") 1
    else
      match (scriptTexts j o).bind (editorProgram style) with
      | .error (message, status) => j.complain message status
      | .ok program =>
        let read (path : Octets) : Octets :=
          ((j.process.readFile path).toOption.map Prod.fst).getD []
        let u : Editor.Setup := ⟨o.has 'n', if o.has 'z' then '\x00' else '\n', program, read⟩
        editFiles o u suffix j paths) j (arguments.filter fun o => !isInPlace o)

end SecretAccess.Host.Utility
