import SecretAccess.Host.Utility.Job

/-!
# Utilities for lines

Copying, choosing, ordering and changing what streams and files hold.
-/

namespace SecretAccess.Host.Utility

open Text (Octets)

/-- The lines of a text with what closes them. -/
def closedLines : Octets → List Octets
  | [] => []
  | c :: cs =>
    if c = '\n' then ['\n'] :: closedLines cs
    else
      match closedLines cs with
      | line :: rest => (c :: line) :: rest
      | [] => [[c]]

/-- Numbers what is shown of lines, for empty lines only if that is asked for. -/
def numbered (emptyToo : Bool) (lines shown : List Octets) : List Octets :=
  ((lines.zip shown).foldl (fun (done, n) (line, text) =>
    if !emptyToo && line = ['\n'] then (text :: done, n)
    else ((padLeft 6 (ofNat n) ++ '\t' :: text) :: done, n + 1)) (([] : List Octets), 1)).1.reverse

/-- Leaves one of several empty lines that follow each other. -/
def squeezeLines : List Octets → List Octets
  | [] => []
  | line :: rest =>
    let rest := squeezeLines rest
    if line = ['\n'] && rest.head? = some ['\n'] then rest else line :: rest

/-- A character that cannot be seen, in signs that can. -/
def visible (tabs : Bool) (c : Char) : Octets :=
  if c = '\n' then [c]
  else if c = '\t' then (if tabs then ['^', 'I'] else [c])
  else
    let low := Char.ofNat (c.toNat % 128)
    let shown := if low < ' ' then ['^', Char.ofNat (low.toNat + 64)]
      else if low = '\x7f' then ['^', '?']
      else [low]
    if c.toNat < 128 then shown else 'M' :: '-' :: shown

def cat : Behaviour := withOptions "nuvetAETbs" "" 1 fun j o =>
  let paths := if o.operands.isEmpty then [['-']] else o.operands
  let ends := o.has 'A' || o.has 'e' || o.has 'E'
  let tabs := o.has 'A' || o.has 't' || o.has 'T'
  let visibly := o.has 'A' || o.has 'e' || o.has 't' || o.has 'v'
  let showLine (line : Octets) : Octets :=
    line.flatMap fun c =>
      if c = '\n' then (if ends then ['$', c] else [c])
      else if visibly then visible tabs c
      else if c = '\t' && tabs then ['^', 'I']
      else [c]
  if o.letters.any (·.1 ≠ 'u') then
    let (j, content) := j.concatenated Job.plain 1 paths
    let lines := closedLines content
    let lines := if o.has 's' then squeezeLines lines else lines
    let shown := lines.map showLine
    let shown := if o.has 'b' then numbered false lines shown
      else if o.has 'n' then numbered true lines shown
      else shown
    j.print shown.flatten
  else
    paths.foldl (fun j path =>
      let (j, content) := j.concatenated Job.plain 1 [path]
      j.print content) j

def tee : Behaviour := withOptions "ai" "" 1 fun j o =>
  let (content, j) := j.input
  let (j, channels) := o.operands.foldl (fun (j, channels) path =>
    match j.process.openFile (if o.has 'a' then .append else .write) path with
    | .ok (process, channel) => (({ j with process } : Job), channels ++ [(path, channel)])
    | .error f => (j.blame Job.plain path f 1, channels)) (j, ([] : List (Octets × Nat)))
  channels.foldl (fun j (path, channel) =>
    match (j.process.bind 1 channel).write 1 content with
    | .ok process => { j with process := { process with descriptors := j.process.descriptors } }
    | .error f => j.blame Job.plain path f 1) (j.print content)

/-- How many lines or octets, where a number alone stands for lines. -/
def portion (arguments : List Octets) : List Octets :=
  match arguments with
  | ('-' :: d :: ds) :: rest =>
    if (d :: ds).all Char.isDigit then ['-', 'n'] :: (d :: ds) :: rest else arguments
  | _ => arguments

/-- Parts of files with the names of the files above them, if there are several. -/
def parts (j : Job) (o : Options) (take : Octets → Octets) : Job :=
  let (j, found) := j.sources ⟨"cannot open ", true, " for reading"⟩ 1 o.operands
  let titled := 1 < o.operands.length && !o.has 'q'
  let blocks := found.map fun (path, content) =>
    let name := if path = ['-'] then octets "standard input" else path
    (if titled then octets "==> " ++ name ++ octets " <==\n" else []) ++ take content
  j.print ((if titled then (['\n'] : Octets) else []).intercalate blocks)

/-- An amount, with what stands in front of it. -/
def amount? (o : Octets) : Option (Char × Nat) :=
  match o with
  | '-' :: ds => (natural? ds).map ('-', ·)
  | '+' :: ds => (natural? ds).map ('+', ·)
  | ds => (natural? ds).map (' ', ·)

def invalidAmount (j : Job) (octetWise : Bool) (o : Octets) : Job :=
  j.complain (octets ("invalid number of " ++ (if octetWise then "bytes" else "lines") ++ ": ") ++
    quoted o) 1

/-- The first pieces of a list, or all but the last. -/
def firstOf {α : Type} (amount : Char × Nat) (l : List α) : List α :=
  if amount.1 = '-' then l.take (l.length - amount.2) else l.take amount.2

/-- The last pieces of a list, or all from one on. -/
def lastOf {α : Type} (amount : Char × Nat) (l : List α) : List α :=
  if amount.1 = '+' then l.drop (amount.2 - 1) else l.drop (l.length - amount.2)

def portioned (choose : {α : Type} → Char × Nat → List α → List α) : Behaviour :=
  fun j arguments =>
    withOptions "qvf" "nc" 1 (fun j o =>
      match o.value? 'c' with
      | some value =>
        match amount? value with
        | some amount => parts j o (choose amount)
        | none => invalidAmount j true value
      | none =>
        let value := (o.value? 'n').getD ['1', '0']
        match amount? value with
        | some amount => parts j o fun content => (choose amount (closedLines content)).flatten
        | none => invalidAmount j false value) j (portion arguments)

def head : Behaviour := portioned firstOf

def tail : Behaviour := portioned lastOf

/-- The lines, words and octets of a text. -/
structure Counts where
  lines : Nat
  words : Nat
  octets : Nat
  longest : Nat

namespace Counts

def ofText (o : Octets) : Counts :=
  let step : Nat × Bool → Char → Nat × Bool := fun (words, inside) c =>
    if c = ' ' || ('\t' ≤ c && c ≤ '\r') then (words, false)
    else (if inside then words else words + 1, true)
  let widths := (o.splitOn '\n').map fun line =>
    line.foldl (fun n c => if c = '\t' then n / 8 * 8 + 8 else if c < ' ' then n else n + 1) 0
  ⟨o.count '\n', (o.foldl step (0, false)).1, o.length, widths.foldl max 0⟩

def add (a b : Counts) : Counts :=
  ⟨a.lines + b.lines, a.words + b.words, a.octets + b.octets, max a.longest b.longest⟩

def chosen (o : Options) (c : Counts) : List Nat :=
  let all := !(o.has 'l' || o.has 'w' || o.has 'c' || o.has 'm' || o.has 'L')
  (if all || o.has 'l' then [c.lines] else []) ++ (if all || o.has 'w' then [c.words] else []) ++
    (if o.has 'm' then [c.octets] else []) ++ (if all || o.has 'c' then [c.octets] else []) ++
    if o.has 'L' then [c.longest] else []

end Counts

def isPipe (p : Process) (number : Nat) : Bool :=
  match p.channel? number with
  | some (_, .file ..) => false
  | _ => true

def wc : Behaviour := withOptions "lwcmL" "" 1 fun j o =>
  let fromInput := o.operands.isEmpty || o.operands.contains ['-']
  let wide := fromInput && isPipe j.process 0
  let (j, found) := j.sources Job.plain 1 o.operands
  let counts := found.map fun (path, content) => (path, Counts.ofText content)
  let total := counts.foldl (fun t c => t.add c.2) ⟨0, 0, 0, 0⟩
  let single := (total.chosen o).length = 1 && o.operands.length ≤ 1
  let width := if single then 1 else if wide then 7 else (ofNat total.octets).length
  let row (c : Counts) (name : Octets) : Octets :=
    (([' '] : Octets).intercalate ((c.chosen o).map fun n => padLeft width (ofNat n))) ++
      (if name.isEmpty then [] else ' ' :: name) ++ ['\n']
  let rows := counts.map fun (path, c) => row c (if o.operands.isEmpty then [] else path)
  j.print (rows.flatten ++ if 1 < o.operands.length then row total (octets "total") else [])

/-- Lines that follow each other and are the same, with how often they do. -/
def runsOf : List Octets → List (Octets × Nat)
  | [] => []
  | line :: rest =>
    match runsOf rest with
    | (next, count) :: more =>
      if next = line then (line, count + 1) :: more else (line, 1) :: (next, count) :: more
    | [] => [(line, 1)]

def uniq : Behaviour := withOptions "cdui" "" 1 fun j o =>
  let (j, content) := j.concatenated Job.plain 1 (o.operands.take 1)
  let runs := (runsOf (Octets.lines content)).filter fun (_, count) =>
    !(o.has 'd' && count = 1) && !(o.has 'u' && 1 < count)
  let row : Octets × Nat → Octets := fun (line, count) =>
    if o.has 'c' then padLeft 7 (ofNat count) ++ ' ' :: line else line
  let text := Octets.unlines (runs.map row)
  match o.operands[1]? with
  | some path => j.save path text
  | none => j.print text

/-- The places that a list names, each a number or a range. -/
def ranges? (o : Octets) : Option (List (Nat × Option Nat)) :=
  (o.splitOn ',').mapM fun item =>
    match item.splitOn '-' with
    | [n] => (natural? n).map fun n => (n, some n)
    | [[], n] => (natural? n).map fun n => (1, some n)
    | [n, []] => (natural? n).map fun n => (n, none)
    | [m, n] => do
      let m ← natural? m
      let n ← natural? n
      some (m, some n)
    | _ => none

def isChosen (rs : List (Nat × Option Nat)) (n : Nat) : Bool :=
  rs.any fun (low, high) => low ≤ n && high.all (n ≤ ·)

def cutLine (o : Options) (rs : List (Nat × Option Nat)) (line : Octets) : Option Octets :=
  let choose {α : Type} (l : List α) : List α :=
    ((l.zipIdx 1).filter fun (_, n) => isChosen rs n).map Prod.fst
  if o.has 'f' then
    let separator := ((o.value? 'd').bind List.head?).getD '\t'
    if line.contains separator then
      some (([separator] : Octets).intercalate (choose (line.splitOn separator)))
    else if o.has 's' then none
    else some line
  else some (choose line)

def cut : Behaviour := withOptions "s" "dfcb" 1 fun j o =>
  match ((o.value? 'f').or (o.value? 'c')).or (o.value? 'b') with
  | none => j.misuse (octets "you must specify a list of bytes, characters, or fields") 1
  | some list =>
    match ranges? list with
    | none =>
      j.misuse (octets ("invalid " ++ (if o.has 'f' then "field" else "byte or character") ++
        " range")) 1
    | some rs =>
      if (o.value? 'd').any fun d => d.length ≠ 1 then
        j.misuse (octets "the delimiter must be a single character") 1
      else if rs.any fun (low, _) => low = 0 then
        j.misuse (octets (if o.has 'f' then "fields are numbered from 1"
          else "byte/character positions are numbered from 1")) 1
      else if rs.any fun (low, high) => high.any (· < low) then
        j.misuse (octets "invalid decreasing range") 1
      else
        let (j, content) := j.concatenated Job.plain 1 o.operands
        j.print (Octets.unlines ((Octets.lines content).filterMap (cutLine o rs)))

/-- Lines of several files side by side, or all lines of one in a row. -/
def paste : Behaviour := withOptions "s" "d" 1 fun j o =>
  let separator : Octets := ((o.value? 'd').bind List.head?).elim ['\t'] fun c => [c]
  let (j, found) := j.sources Job.plain 1 o.operands
  let columns := found.map fun (_, content) => Octets.lines content
  if o.has 's' then j.print (Octets.unlines (columns.map separator.intercalate))
  else
    let height := columns.foldl (fun n c => max n c.length) 0
    j.print (Octets.unlines ((List.range height).map fun i =>
      separator.intercalate (columns.map fun lines => (lines[i]?).getD [])))

def rev : Behaviour := withOptions "" "" 1 fun j o =>
  let (j, content) := j.concatenated ⟨"cannot open ", false, ""⟩ 1 o.operands
  j.print ((closedLines content).flatMap fun line =>
    if line.getLast? = some '\n' then line.dropLast.reverse ++ ['\n'] else line.reverse)

def tac : Behaviour := withOptions "brs" "" 1 fun j o =>
  let (j, found) := j.sources ⟨"failed to open ", true, " for reading"⟩ 1 o.operands
  j.print (found.flatMap fun (_, content) => (closedLines content).reverse.flatten)

/-- The first place where two texts differ, and the line of it. -/
def firstDifference : Nat → Nat → Octets → Octets → Option (Nat × Nat × Bool)
  | _, _, [], [] => none
  | place, line, [], _ | place, line, _, [] => some (place, line, true)
  | place, line, a :: as, b :: bs =>
    if a ≠ b then some (place, line, false)
    else firstDifference (place + 1) (if a = '\n' then line + 1 else line) as bs

def cmp : Behaviour := withOptions "sl" "" 2 fun j o =>
  match o.operands with
  | a :: others =>
    let b := others.head?.getD ['-']
    match j.sources Job.plain 2 [a, b] with
    | (j, [(_, first), (_, second)]) =>
      match firstDifference 1 1 first second with
      | none => j
      | some (place, line, ends) =>
        let j := j.fails 1
        if o.has 's' then j
        else if ends then
          let shorter := if first.length < second.length then a else b
          j.complain (octets "EOF on " ++ shorter ++
            octets (" after byte " ++ (place - 1).repr ++ ", line " ++ line.repr)) 1
        else
          j.print (a ++ [' '] ++ b ++
            octets (" differ: char " ++ place.repr ++ ", line " ++ line.repr ++ "\n"))
    | (j, _) => j
  | [] => j.misuse (octets "missing operand after 'cmp'") 2

/-- Lines with numbers in front, where empty lines have none. -/
def nl : Behaviour := withOptions "p" "bsw" 1 fun j o =>
  let (j, content) := j.concatenated Job.plain 1 o.operands
  let separator := (o.value? 's').getD ['\t']
  let width := ((o.value? 'w').bind natural?).getD 6
  let all := o.value? 'b' = some ['a']
  let rows := (Octets.lines content).foldl (fun (done, n) line =>
    if line.isEmpty && !all then
      ((List.replicate (width + separator.length) ' ' ++ ['\n']) :: done, n)
    else ((padLeft width (ofNat n) ++ separator ++ line ++ ['\n']) :: done, n + 1))
    (([] : List Octets), 1)
  j.print rows.1.reverse.flatten

/-- The pieces of a line, none longer than a width. -/
def folded (width : Nat) : Nat → Octets → List Octets
  | 0, line => [line]
  | fuel + 1, line =>
    if line.length ≤ width then [line] else line.take width :: folded width fuel (line.drop width)

def fold : Behaviour := withOptions "bs" "w" 1 fun j o =>
  let (j, content) := j.concatenated Job.plain 1 o.operands
  let width := max 1 (((o.value? 'w').bind natural?).getD 80)
  let lines := closedLines content
  j.print (lines.flatMap fun line =>
    let isClosed := line.getLast? = some '\n'
    let text := if isClosed then line.dropLast else line
    (['\n'] : Octets).intercalate (folded width text.length text) ++
      if isClosed then ['\n'] else [])

/-- The whole numbers from one to another. -/
def seq : Behaviour := fun j arguments =>
  let (separator, arguments) : Octets × List Octets :=
    match arguments with
    | ['-', 's'] :: separator :: rest => (separator, rest)
    | ('-' :: 's' :: separator) :: rest => (separator, rest)
    | rest => (['\n'], rest)
  let wide := arguments.head? = some ['-', 'w']
  let arguments := if wide then arguments.drop 1 else arguments
  let number? (o : Octets) : Option Int :=
    match o with
    | '-' :: ds => (natural? ds).map fun n => -(n : Int)
    | ds => (natural? ds).map Int.ofNat
  match arguments.mapM number? with
  | none => j.misuse (octets "invalid floating point argument: " ++
      quoted ((arguments.find? fun o => (number? o).isNone).getD [])) 1
  | some [] => j.misuse (octets "missing operand") 1
  | some (first :: others) =>
    let (low, step, high) : Int × Int × Int :=
      match others with
      | [] => (1, 1, first)
      | [high] => (first, 1, high)
      | step :: high :: _ => (first, step, high)
    let count := if step = 0 then 0 else ((high - low).fdiv step + 1).toNat
    let numbers := (List.range count).map fun (i : Nat) => (low + step * Int.ofNat i).repr.toList
    let width := if wide then numbers.foldl (fun n o => max n o.length) 0 else 0
    let padded := numbers.map fun o => List.replicate (width - o.length) '0' ++ o
    j.print (if padded.isEmpty then [] else separator.intercalate padded ++ ['\n'])

end SecretAccess.Host.Utility
