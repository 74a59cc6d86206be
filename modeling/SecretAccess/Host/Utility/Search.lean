import SecretAccess.Host.Utility.Expression
import SecretAccess.Host.Utility.Job

/-!
# Searching

Choosing the lines of files that one of several expressions matches.
-/

namespace SecretAccess.Host.Utility

open Text (Octets)

/-- How lines are searched. -/
structure Search where
  expressions : List Expression
  folded : Bool
  whole : Bool
  inverted : Bool

namespace Search

def matchOf? (s : Search) (line : Octets) : Option Expression.Match :=
  let fits (e : Expression) : Option Expression.Match :=
    (Expression.search s.folded e [] line).filter fun m =>
      !s.whole || (m.before.isEmpty && m.text.length = line.length)
  s.expressions.findSome? fits

def chooses (s : Search) (line : Octets) : Bool := (s.matchOf? line).isSome != s.inverted

end Search

/-- The expressions of a search, one a line. -/
def expressionsOf? (o : Options) (extended fixed : Bool) (text : Octets) : Option (List Expression) :=
  let style : Expression.Style := ⟨extended, o.has 'i'⟩
  (text.splitOn '\n').mapM fun line =>
    let e? := if fixed then some (Expression.literal style line) else Expression.parse? style line
    e?.map fun e => if o.has 'w' then .both .wordStart (.both e .wordEnd)
      else if o.has 'x' then .both .lineStart (.both (.group 0 e) .lineEnd)
      else e

def grepUsage : String :=
  "Usage: grep [OPTION]... PATTERNS [FILE]...\nTry 'grep --help' for more information.\n"

/-- What a search prints of one file, and how many lines it chose. -/
def found (o : Options) (s : Search) (title content : Octets) : Octets × Nat :=
  let lines := (Octets.lines content).zipIdx 1
  let chosen := lines.filter fun (line, _) => s.chooses line
  let row : Octets × Nat → Octets := fun (line, n) =>
    title ++ (if o.has 'n' then ofNat n ++ [':'] else []) ++
      (if o.has 'o' then ((s.matchOf? line).map Expression.Match.text).getD [] else line) ++ ['\n']
  let text := if o.has 'q' || o.has 'l' || o.has 'L' then []
    else if o.has 'c' then title ++ ofNat chosen.length ++ ['\n']
    else chosen.flatMap row
  (text, chosen.length)

def grepWith (extended fixed : Bool) : Behaviour := withOptions "vicnqlLxwsEFGoahH" "em" 2 fun j o =>
  let (pattern, paths) : Option Octets × List Octets :=
    match o.value? 'e' with
    | some pattern => (some pattern, o.operands)
    | none => (o.operands.head?, o.operands.drop 1)
  match pattern with
  | none =>
    match j.process.write 2 (octets grepUsage) with
    | .ok process => ({ j with process } : Job).fails 2
    | .error _ => j.fails 2
  | some pattern =>
    match expressionsOf? o (extended || o.has 'E') (fixed || o.has 'F') pattern with
    | none => j.complain (octets "Invalid regular expression") 2
    | some expressions =>
      let s : Search := ⟨expressions, o.has 'i', false, o.has 'v'⟩
      let (j, sources) := j.sources Job.plain 2 paths
      let titled := 1 < paths.length && !o.has 'h'
      let (j, total) := sources.foldl (fun (j, total) (path, content) =>
        let name := if path = ['-'] then octets "(standard input)" else path
        let (text, count) := found o s (if titled then name ++ [':'] else []) content
        let names := if o.has 'l' && 0 < count then name ++ ['\n'] else []
        (j.print (text ++ names), total + count)) (j, 0)
      if j.status = 0 && total = 0 then j.fails 1 else j

end SecretAccess.Host.Utility
