import SecretAccess.Host.Script.Glob
import SecretAccess.Host.Utility.Files

/-!
# Going through trees

Every entry at or below a path is put to a test, an entry before what is in it.
Some tests always hold and do something.
-/

namespace SecretAccess.Host.Utility

open Text (Octets)
open Script (Glyph)
open Script.Glob (Item)

namespace Traversal

inductive Test where
  | always (holds : Bool)
  | name (items : List Item)
  | path (items : List Item)
  | kind (letters : List Char)
  | isEmpty
  | print (closing : Char)
  | delete
  | prune
  | negation (t : Test)
  | both (first second : Test)
  | either (first second : Test)

/-- How far a traversal goes, what it tests, and whether it does so on the way back. -/
structure Plan where
  lowest : Nat
  highest : Option Nat
  comesBack : Bool
  test : Test

/-- An entry that has been reached. -/
structure Visit where
  path : Octets
  depth : Nat
  location : Location
  node : Node

def Visit.name (v : Visit) : Octets :=
  let names := v.path.splitOn '/'
  ((names.filter (!·.isEmpty)).getLast?).getD v.path

def isOfKind (letter : Char) : Node → Bool
  | .directory => letter = 'd'
  | .file .. | .program _ => letter = 'f'
  | .link _ => letter = 'l'
  | .device _ => letter = 'c'

/-- Where a traversal has got to: the job, and whether it goes into the entry. -/
structure Progress where
  job : Job
  enters : Bool

def remove (g : Progress) (v : Visit) : Bool × Progress :=
  let t := g.job.process.tree
  if v.node = .directory && !(t.childrenAt v.location).isEmpty then
    (false, { g with job := g.job.blame ⟨"cannot delete ", true, ""⟩ v.path .notEmpty 1 })
  else (true, { g with job := setTree g.job (t.remove v.location) })

def Test.apply (g : Progress) (v : Visit) : Test → Bool × Progress
  | .always holds => (holds, g)
  | .name items => (Script.Glob.fits items v.name, g)
  | .path items => (Script.Glob.fits items v.path, g)
  | .kind letters => (letters.any fun c => isOfKind c v.node, g)
  | .isEmpty =>
    match v.node with
    | .directory => ((g.job.process.tree.childrenAt v.location).isEmpty, g)
    | .file contents _ => (contents.isEmpty, g)
    | _ => (false, g)
  | .print closing => (true, { g with job := g.job.print (v.path ++ [closing]) })
  | .delete => remove g v
  | .prune => (true, { g with enters := false })
  | .negation t =>
    let (holds, g) := t.apply g v
    (!holds, g)
  | .both first second =>
    let (holds, g) := first.apply g v
    if holds then second.apply g v else (false, g)
  | .either first second =>
    let (holds, g) := first.apply g v
    if holds then (true, g) else second.apply g v

/-- Whether a test does something by itself. -/
def Test.acts : Test → Bool
  | .print _ | .delete => true
  | .negation t => t.acts
  | .both a b | .either a b => a.acts || b.acts
  | _ => false

/-- Goes through the entries from some visits on. -/
def go (plan : Plan) : Nat → Job → List Visit → Job
  | 0, j, _ | _, j, [] => j
  | fuel + 1, j, v :: rest =>
    let test (g : Progress) : Progress :=
      if plan.lowest ≤ v.depth then (plan.test.apply g v).2 else g
    let below (g : Progress) : Job :=
      let t := g.job.process.tree
      if g.enters && v.node = .directory && plan.highest.all (v.depth < ·) then
        let inside := (t.childrenAt v.location).filterMap fun name =>
          let location := v.location ++ [name]
          let slash : Octets := if v.path.getLast? = some '/' then [] else ['/']
          (t.node? location).map fun node =>
            (⟨v.path ++ slash ++ Octets.ofBytes name, v.depth + 1, location, node⟩ : Visit)
        go plan fuel g.job inside
      else g.job
    let j := if plan.comesBack then (test ⟨below ⟨j, true⟩, true⟩).job else below (test ⟨j, true⟩)
    go plan fuel j rest

/-- A pattern, in which a backslash takes away what a sign means. -/
def glyphs : Octets → List Glyph
  | '\\' :: c :: rest => ⟨c, true⟩ :: glyphs rest
  | c :: rest => ⟨c, false⟩ :: glyphs rest
  | [] => []

/-- What has been read of a plan. -/
structure Reader where
  plan : Plan
  rest : List Octets

/-- A name as it stands in complaints. -/
def named (o : Octets) : Octets := Char.ofNat 96 :: o ++ ['\'']

abbrev Reading := Except Octets (Test × Reader)

def isOperator (o : Octets) : Bool :=
  [")", "-o", "-or", "-a", "-and", ","].contains (String.ofList o)

mutual

/-- Tests of which one has to hold. -/
def either : Nat → Reader → Reading
  | 0, _ => .error []
  | fuel + 1, r => do
    let (first, r) ← both fuel r
    match r.rest with
    | ['-', 'o'] :: rest | ['-', 'o', 'r'] :: rest =>
      if rest.isEmpty then .error (octets "expected an expression after '-o'")
      else
        let (second, r) ← either fuel { r with rest }
        .ok (.either first second, r)
    | _ => .ok (first, r)

/-- Tests that have to hold together. -/
def both : Nat → Reader → Reading
  | 0, _ => .error []
  | fuel + 1, r => do
    let (first, r) ← single fuel r
    match r.rest with
    | [] | [')'] :: _ | ['-', 'o'] :: _ | ['-', 'o', 'r'] :: _ => .ok (first, r)
    | ['-', 'a'] :: rest | ['-', 'a', 'n', 'd'] :: rest =>
      if rest.isEmpty then .error (octets "expected an expression after '-a'")
      else
        let (second, r) ← both fuel { r with rest }
        .ok (.both first second, r)
    | _ =>
      let (second, r) ← both fuel r
      .ok (.both first second, r)

def single : Nat → Reader → Reading
  | 0, _ => .error []
  | fuel + 1, r =>
    let word := r.rest.head?.getD []
    let name := String.ofList word
    let after : Reader := { r with rest := r.rest.drop 1 }
    let done (t : Test) : Reading := .ok (t, after)
    let setting (change : Plan → Plan) : Reading :=
      .ok (.always true, { after with plan := change r.plan })
    let valued (use : Octets → Reader → Reading) : Reading :=
      match after.rest with
      | [] => .error (octets "missing argument to " ++ named word)
      | value :: rest => use value { after with rest }
    let number (change : Nat → Plan → Plan) : Reading := valued fun value r =>
      match natural? value with
      | some n => .ok (.always true, { r with plan := change n r.plan })
      | none =>
        .error (octets ("Expected a positive decimal integer argument to " ++ name ++ ", but got ")
          ++ quoted value)
    match name with
    | "(" => do
      let (t, r) ← either fuel after
      if r.rest.head? = some [')'] then .ok (t, { r with rest := r.rest.drop 1 })
      else .error (octets ("invalid expression; I was expecting to find a ')' somewhere but did " ++
        "not see one."))
    | "!" | "-not" =>
      if after.rest.isEmpty then .error (octets "expected an expression after " ++ quoted word)
      else do
        let (t, r) ← single fuel after
        .ok (.negation t, r)
    | "-name" => valued fun value r => .ok (.name (Script.Glob.items (glyphs value)), r)
    | "-path" | "-wholename" =>
      valued fun value r => .ok (.path (Script.Glob.items (glyphs value)), r)
    | "-type" => valued fun value r =>
      match (value.filter (· ≠ ',')).find? fun c => !"bcdflps".toList.contains c with
      | some c => .error (octets "Unknown argument to -type: " ++ [c])
      | none => .ok (.kind value, r)
    | "-empty" => done .isEmpty
    | "-print" => done (.print '\n')
    | "-print0" => done (.print '\x00')
    | "-true" => done (.always true)
    | "-false" => done (.always false)
    | "-prune" => done .prune
    | "-delete" => .ok (.delete, { after with plan := { r.plan with comesBack := true } })
    | "-depth" => setting fun p => { p with comesBack := true }
    | "-maxdepth" => number fun n p => { p with highest := some n }
    | "-mindepth" => number fun n p => { p with lowest := n }
    | _ =>
      .error (if word = [')'] then octets "you have too many ')'"
        else if isOperator word then
          octets "invalid expression; you have used a binary operator " ++ quoted word ++
            octets " with nothing before it."
        else if word.head? = some '-' then octets "unknown predicate " ++ named word
        else octets "paths must precede expression: " ++ named word)

end

def startsExpression (o : Octets) : Bool :=
  (o.head? = some '-' && 1 < o.length) || o = ['!'] || o = ['(']

def plan? (words : List Octets) : Except Octets Plan := do
  let standard : Plan := ⟨0, none, false, .print '\n'⟩
  if words.isEmpty then .ok standard
  else
    let (t, r) ← either (8 * words.length + 8) ⟨standard, words⟩
    if !r.rest.isEmpty then .error (octets "you have too many ')'")
    else .ok { r.plan with test := if t.acts then t else .both t (.print '\n') }

end Traversal

/-- Names the entries below paths that tests choose. -/
def find : Behaviour := fun j arguments =>
  let paths := arguments.takeWhile fun o => !Traversal.startsExpression o
  match Traversal.plan? (arguments.drop paths.length) with
  | .error message => j.complain message 1
  | .ok plan =>
    (if paths.isEmpty then [['.']] else paths).foldl (fun j path =>
      match entryAt j.process.tree path with
      | .error f => j.blame ⟨"", true, ""⟩ path f 1
      | .ok (location, node) =>
        let fuel := 2 * j.process.tree.entries.length + 8
        Traversal.go plan fuel j [⟨path, 0, location, node⟩]) j

end SecretAccess.Host.Utility
