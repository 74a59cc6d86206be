import SecretAccess.Host.Utility.Job

/-!
# Batches

Commands that are made from a command and from items of the input, so many items
to a command, or one item in the place of a marker.
-/

namespace SecretAccess.Host.Utility

open Text (Octets)

/-- How items stand apart: by gaps, with quotes around them if need be; by lines;
or by one character. -/
inductive Separation where
  | gaps
  | lines
  | character (c : Char)
deriving DecidableEq, Repr

structure Batch where
  command : List Octets
  separation : Separation
  /-- How many items a command is given at most. -/
  size : Option Nat
  /-- How many lines a command is given the items of. -/
  lines : Option Nat
  marker : Option Octets
  skipsNothing : Bool
  traces : Bool

namespace Batch

def missingQuote (q : Char) : Octets :=
  octets ("unmatched " ++ (if q = '"' then "double" else "single") ++
    " quote; by default quotes are special to xargs unless you use the -0 option")

/-- The items of one line, and what is wrong with it. Gaps are part of an item where
there is one item to a line. -/
def itemsOf (keepsGaps : Bool) : Option Octets → Octets → List Octets × Option Octets
  | item, [] => (item.toList.map List.reverse, none)
  | item, '\\' :: c :: cs => itemsOf keepsGaps (some (c :: item.getD [])) cs
  | item, c :: cs =>
    if c = '"' || c = '\'' then
      let inner := cs.takeWhile (· ≠ c)
      if inner.length < cs.length then
        itemsOf keepsGaps (some (inner.reverse ++ item.getD [])) (cs.drop (inner.length + 1))
      else ([], some (missingQuote c))
    else if (c = ' ' || c = '\t') && (!keepsGaps || item.isNone) then
      let (items, mistake) := itemsOf keepsGaps none cs
      (item.toList.map List.reverse ++ items, mistake)
    else itemsOf keepsGaps (some (c :: item.getD [])) cs
termination_by _ cs => cs.length
decreasing_by all_goals simp only [List.length_cons, List.length_drop]; omega

/-- The items of a text, line by line, up to where it is wrong. -/
def itemLines (b : Batch) (o : Octets) : List (List Octets) × Option Octets :=
  match b.separation with
  | .character c =>
    let items := o.splitOn c
    ((if items.getLast? = some [] then items.dropLast else items).map ([·]), none)
  | separation =>
    (Octets.lines o).foldl (fun (done, mistake) line =>
      if mistake.isSome then (done, mistake)
      else
        let (items, mistake) := itemsOf (separation = .lines) none line
        (if items.isEmpty then done else done ++ [items], mistake)) ([], none)

/-- Lists of at most so many elements. -/
def groups {α : Type} (size : Nat) : Nat → List α → List (List α)
  | 0, _ | _, [] => []
  | fuel + 1, l => l.take size :: groups size fuel (l.drop size)

/-- A text with another one in the place of a marker. -/
def replaced (marker item : Octets) : Nat → Octets → Octets
  | 0, o => o
  | _ + 1, [] => []
  | fuel + 1, c :: cs =>
    if marker.isPrefixOf (c :: cs) then
      item ++ replaced marker item fuel ((c :: cs).drop (max 1 marker.length))
    else c :: replaced marker item fuel cs

/-- The commands for an input, and what is wrong with it. -/
def commands (b : Batch) (o : Octets) : List (List Octets) × Option Octets :=
  let (lines, mistake) := b.itemLines o
  let command := if b.command.isEmpty then [octets "echo"] else b.command
  match b.marker with
  | some marker =>
    (lines.flatten.map fun item => command.map fun w => replaced marker item (w.length + 1) w,
      mistake)
  | none =>
    let items := lines.flatten
    let chosen : List (List Octets) :=
      match b.size, b.lines with
      | some n, _ => groups n (items.length + 1) items
      | none, some n => (groups n (lines.length + 1) lines).map List.flatten
      | none, none => [items]
    let chosen := if items.isEmpty then (if b.skipsNothing then [] else [[]]) else chosen
    (chosen.map (command ++ ·), mistake)

def standard : Batch := ⟨[], .gaps, none, none, none, false, false⟩

/-- A number that says how many; or what is wrong with it. -/
def count (letter : Char) (o : Octets) : Except Octets Nat :=
  match natural? o with
  | some 0 =>
    .error (octets "value " ++ o ++ octets " for -" ++ letter :: octets " option should be >= 1")
  | some n => .ok n
  | none => .error (octets "invalid number \"" ++ o ++ octets "\" for -" ++ letter :: octets " option")

/-- The sign that stands between items. -/
def separator (o : Octets) : Separation :=
  match o with
  | ['\\', 'n'] => .character '\n'
  | ['\\', 't'] => .character '\t'
  | ['\\', '0'] => .character '\x00'
  | c :: _ => .character c
  | [] => .gaps

/-- Takes in an option with its value. -/
def set (b : Batch) (letter : Char) (value : Octets) : Except Octets Batch :=
  match letter with
  | 'n' => (count letter value).map fun n => { b with size := some n, marker := none }
  | 'L' => (count letter value).map fun n => { b with lines := some n, marker := none }
  | 'I' => .ok { b with marker := some value, separation := .lines, size := none, lines := none }
  | 'd' => .ok { b with separation := separator value }
  | '0' => .ok { b with separation := .character '\x00' }
  | 'r' => .ok { b with skipsNothing := true }
  | 't' => .ok { b with traces := true }
  | _ => .ok b

/-- A batch from its arguments. Everything from the command on belongs to it. -/
def parse (b : Batch) : Nat → List Octets → Except Octets Batch
  | 0, _ | _, [] => .ok b
  | fuel + 1, argument :: rest =>
    match argument with
    | ['-', '-'] => .ok { b with command := rest }
    | '-' :: 'i' :: marker => do
      (← b.set 'I' (if marker.isEmpty then ['\x7b', '\x7d'] else marker)).parse fuel rest
    | '-' :: c :: cs =>
      if ['n', 'L', 'I', 'd', 'P', 's', 'E', 'a'].contains c then
        match cs, rest with
        | [], [] => .error (octets "option requires an argument -- " ++ quoted [c])
        | [], value :: rest => do (← b.set c value).parse fuel rest
        | value, rest => do (← b.set c value).parse fuel rest
      else if ['0', 'r', 't', 'x', 'o'].contains c then do
        (← b.set c []).parse fuel (if cs.isEmpty then rest else ('-' :: cs) :: rest)
      else .error (octets "invalid option -- " ++ quoted [c])
    | _ => .ok { b with command := argument :: rest }

def ofArguments (arguments : List Octets) : Except Octets Batch :=
  standard.parse (2 * (arguments.map List.length).foldl (· + ·) 0 + arguments.length + 1) arguments

end Batch

end SecretAccess.Host.Utility
