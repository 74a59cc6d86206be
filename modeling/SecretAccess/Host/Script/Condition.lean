import SecretAccess.Host.Process
import SecretAccess.Host.Script.Arithmetic

/-!
# Conditions

The questions that a script can ask about texts, numbers and files.
-/

namespace SecretAccess.Host.Script.Condition

open Text (Octets)

def nodeAt? (t : FileTree) (path : Octets) : Option Node :=
  (t.find (Octets.toText path)).toOption.map Prod.snd

def isFile : Node → Bool
  | .file .. | .program _ => true
  | .directory | .link _ | .device _ => false

def isNonempty : Node → Bool
  | .file content _ => !content.isEmpty
  | .directory | .program _ => true
  | .link _ | .device _ => false

def isDevice : Node → Bool
  | .device _ => true
  | _ => false

def isRunnable : Node → Bool
  | .file _ executable => executable
  | .directory | .program _ => true
  | .link _ | .device _ => false

/-- Whether a path ends at a link, wherever that leads. -/
def isLink (t : FileTree) (path : Octets) : Bool :=
  let steps := Path.steps (Octets.toBytes path)
  match t.walk .use FileTree.maxLinks (t.startOf (Octets.toBytes path)) steps.dropLast with
  | .ok l =>
    match t.node? (l ++ steps.drop (steps.length - 1)) with
    | some (.link _) => true
    | _ => false
  | .error _ => false

/-- Whether a path leads to a stream that another program reads or writes. -/
def isPipe (p : Process) (path : Octets) : Bool :=
  match nodeAt? p.tree path with
  | some (.device (.stream s)) =>
    match p.channel? (Process.streamNumber s) with
    | some (_, .pipe _) => true
    | _ => false
  | _ => false

def samePlace (t : FileTree) (a b : Octets) : Bool :=
  match t.find (Octets.toText a), t.find (Octets.toText b) with
  | .ok x, .ok y => x.1 = y.1
  | _, _ => false

abbrev Property := Octets → Except Octets Bool

abbrev Relation := Octets → Octets → Except Octets Bool

/-- A whole number in decimal notation, within the range of 64 bits. -/
def decimal (o : Octets) : Except Octets Int :=
  let isGap (c : Char) : Bool := c = ' ' || ('\t' ≤ c && c ≤ '\r')
  let cs := ((o.dropWhile isGap).reverse.dropWhile isGap).reverse
  let (negative, digits) :=
    match cs with
    | '-' :: digits => (true, digits)
    | '+' :: digits => (false, digits)
    | digits => (false, digits)
  let size := Arithmetic.ofDigits 10 digits
  if digits.isEmpty || !digits.all Char.isDigit ||
      Arithmetic.largest + (if negative then 1 else 0) < size then
    .error (Arithmetic.illegal o).toList
  else .ok (if negative then -size else size)

/-- A question about one thing. -/
def property? (p : Process) (name : String) : Option Property :=
  let ofFile (test : Node → Bool) : Option Property :=
    some fun o => .ok ((nodeAt? p.tree o).any test)
  match name with
  | "-n" => some fun o => .ok !o.isEmpty
  | "-z" => some fun o => .ok o.isEmpty
  | "-e" | "-r" | "-w" | "-O" | "-G" => ofFile fun _ => true
  | "-f" => ofFile isFile
  | "-d" => ofFile (· = .directory)
  | "-s" => ofFile isNonempty
  | "-x" => ofFile isRunnable
  | "-c" => ofFile isDevice
  | "-h" | "-L" => some fun o => .ok (isLink p.tree o)
  | "-p" => some fun o => .ok (isPipe p o)
  | "-t" => some fun o => (decimal o).map fun _ => false
  | "-b" | "-g" | "-k" | "-S" | "-u" => ofFile fun _ => false
  | _ => none

def compare (holds : Int → Int → Bool) : Relation := fun a b => do
  let m ← decimal a
  let n ← decimal b
  .ok (holds m n)

/-- A question about two things. Nothing in a tree has an age. -/
def relation? (p : Process) (name : String) : Option Relation :=
  match name with
  | "=" => some fun a b => .ok (a = b)
  | "!=" => some fun a b => .ok (a ≠ b)
  | "<" => some fun a b => .ok (decide (a < b))
  | ">" => some fun a b => .ok (decide (b < a))
  | "-eq" => some (compare fun m n => m = n)
  | "-ne" => some (compare fun m n => m ≠ n)
  | "-gt" => some (compare fun m n => n < m)
  | "-ge" => some (compare fun m n => n ≤ m)
  | "-lt" => some (compare fun m n => m < n)
  | "-le" => some (compare fun m n => m ≤ n)
  | "-ef" => some fun a b => .ok (samePlace p.tree a b)
  | "-nt" | "-ot" => some fun _ _ => .ok false
  | _ => none

/-- What a word is in a condition. -/
inductive Role where
  | operand
  | property (holds : Property)
  | relation (holds : Relation)
  | negation
  | conjunction
  | disjunction
  | opening
  | closing
  | finish

def relationAt? (p : Process) (ws : List Octets) : Option Relation :=
  ws.head?.bind fun w => relation? p (String.ofList w)

/-- What the first of some words is. The name of a property is an operand if
nothing follows it, or a relation between two things. -/
def roleOf (p : Process) : List Octets → Role
  | [] => .finish
  | w :: rest =>
    let name := String.ofList w
    match name with
    | "!" => .negation
    | "-a" => .conjunction
    | "-o" => .disjunction
    | ")" => .closing
    | "(" => if rest.isEmpty then .operand else .opening
    | _ =>
      match relation? p name, property? p name with
      | some holds, _ => .relation holds
      | none, some holds =>
        let related := 1 < rest.length && (relationAt? p rest).isSome
        if rest.isEmpty || related then .operand else .property holds
      | none, none => .operand

/-- What is wrong at a word. -/
def mistake (w : Octets) (text : String) : Octets :=
  (if w.isEmpty then [] else w ++ [':', ' ']) ++ Octets.ofString text

/-- An answer, and the words from the last one on that was looked at. -/
abbrev Answer := Except Octets (Bool × List Octets)

mutual

/-- Conditions of which one has to hold. -/
def either (p : Process) : Nat → Role → List Octets → Answer
  | 0, _, ws => .ok (false, ws)
  | fuel + 1, r, ws => do
    let (holds, ws) ← both p fuel r ws
    match roleOf p (ws.drop 1) with
    | .disjunction =>
      let (more, ws) ← either p fuel (roleOf p (ws.drop 2)) (ws.drop 2)
      .ok (holds || more, ws)
    | _ => .ok (holds, ws)

/-- Conditions that have to hold together. -/
def both (p : Process) : Nat → Role → List Octets → Answer
  | 0, _, ws => .ok (false, ws)
  | fuel + 1, r, ws => do
    let (holds, ws) ← single p fuel r ws
    match roleOf p (ws.drop 1) with
    | .conjunction =>
      let (more, ws) ← both p fuel (roleOf p (ws.drop 2)) (ws.drop 2)
      .ok (holds && more, ws)
    | _ => .ok (holds, ws)

def single (p : Process) : Nat → Role → List Octets → Answer
  | 0, _, ws => .ok (false, ws)
  | fuel + 1, r, ws =>
    let rest := ws.drop 1
    match r with
    | .finish => .ok (false, ws)
    | .negation => do
      let (holds, ws) ← single p fuel (roleOf p rest) (if rest.isEmpty then ws else rest)
      .ok (!holds, ws)
    | .opening =>
      match roleOf p rest with
      | .closing => .ok (false, rest)
      | r => do
        let (holds, ws) ← either p fuel r rest
        match roleOf p (ws.drop 1) with
        | .closing => .ok (holds, ws.drop 1)
        | _ => .error (mistake [] "closing paren expected")
    | .property holds => (holds (rest.head?.getD [])).map (·, rest)
    | _ =>
      match relationAt? p rest with
      | some holds =>
        match rest.drop 1 with
        | [] => .error (mistake (rest.head?.getD []) "argument expected")
        | b :: _ => (holds (ws.head?.getD []) b).map (·, rest.drop 1)
      | none => .ok (ws.head?.any fun w => !w.isEmpty, ws)

end

/-- Evaluates words of which the first one has a role. -/
def evaluate (p : Process) (r : Role) (ws : List Octets) : Except Octets Bool := do
  match ← either p (4 * ws.length + 4) r ws with
  | (_, last :: _ :: _) => .error (mistake last "unexpected operator")
  | (holds, _) => .ok holds

/-- Whether a condition holds, or does not if that is asked. Of three words, a
relation in the middle settles what is meant. Of three or four, an exclamation mark
in front negates all that follows it, and so do two of them. -/
def ask (p : Process) (negated : Bool) : List Octets → Except Octets Bool
  | [] => .ok negated
  | w :: rest =>
    let ws := w :: rest
    let isFew := ws.length = 3 || ws.length = 4
    let answer :=
      if ws.length = 3 && (relationAt? p rest).isSome then some (evaluate p .operand ws)
      else if isFew && w = ['('] && rest.getLast? = some [')'] then
        some (evaluate p (roleOf p rest.dropLast) rest.dropLast)
      else if isFew && w = ['!'] then none
      else some (evaluate p (roleOf p ws) ws)
    match answer with
    | some answer => answer.map (· != negated)
    | none => ask p true rest

def holds (p : Process) (ws : List Octets) : Except Octets Bool := ask p false ws

end SecretAccess.Host.Script.Condition
