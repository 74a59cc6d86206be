import SecretAccess.Host.Script.Glob
import SecretAccess.Host.Utility.Job

/-!
# Changing characters

Sets of characters, and texts in which the characters of one set become those of
another, or disappear.
-/

namespace SecretAccess.Host.Utility

open Text (Octets)

/-- A character of a set, which a backslash may name, and what follows it. -/
def letter (cs : Octets) : Char × Octets :=
  match cs with
  | '\\' :: rest =>
    match rest with
    | 'n' :: rest => ('\n', rest)
    | 't' :: rest => ('\t', rest)
    | 'r' :: rest => ('\r', rest)
    | 'a' :: rest => ('\x07', rest)
    | 'b' :: rest => ('\x08', rest)
    | 'f' :: rest => ('\x0c', rest)
    | 'v' :: rest => ('\x0b', rest)
    | c :: more =>
      let digits := (rest.take 3).takeWhile fun d => '0' ≤ d && d ≤ '7'
      if digits.isEmpty then (c, more)
      else (Char.ofNat (digits.foldl (fun n d => n * 8 + (d.toNat - 48)) 0 % 256),
        rest.drop digits.length)
    | [] => ('\\', [])
  | c :: rest => (c, rest)
  | [] => (' ', [])

/-- The characters of a set: ranges, escapes, and families by name. -/
def characters : Nat → Octets → Except Octets (List Char)
  | 0, _ | _, [] => .ok []
  | fuel + 1, cs =>
    let plain : Except Octets (List Char) := do
      let (c, rest) := letter cs
      match rest with
      | '-' :: d :: more =>
        let (last, after) := letter (d :: more)
        if last < c then
          let range := cs.take (cs.length - after.length)
          .error (octets "range-endpoints of " ++ quoted range ++
            octets " are in reverse collating sequence order")
        else
          let range := ((List.range (last.toNat + 1)).drop c.toNat).map Char.ofNat
          .ok (range ++ (← characters fuel after))
      | rest => .ok (c :: (← characters fuel rest))
    match cs with
    | '[' :: ':' :: rest =>
      let name := rest.takeWhile (· ≠ ':')
      match rest.dropWhile (· ≠ ':') with
      | ':' :: ']' :: rest =>
        let members := ((List.range 256).map Char.ofNat).filter
          (Script.Glob.isInFamily (String.ofList name))
        if members.isEmpty then .error (octets "invalid character class " ++ quoted name)
        else do .ok (members ++ (← characters fuel rest))
      | _ => plain
    | _ => plain

def charactersOf (o : Octets) : Except Octets (List Char) := characters (o.length + 1) o

/-- Keeps one of several equal characters of a set that follow each other. -/
def squeeze (set : List Char) : Octets → Octets
  | [] => []
  | c :: cs =>
    match squeeze set cs with
    | d :: rest => if c = d && set.contains c then d :: rest else c :: d :: rest
    | [] => [c]

/-- What is wrong with the number of sets. -/
def setMistake? (o : Options) : Option Octets :=
  let deletes := o.has 'd'
  let squeezes := o.has 's'
  match o.operands with
  | [] => some (octets "missing operand")
  | [first] =>
    if deletes = squeezes then
      some (octets "missing operand after " ++ quoted first ++
        octets ("\nTwo strings must be given when " ++
          if deletes then "both deleting and squeezing repeats." else "translating."))
    else none
  | [_, second] =>
    if deletes && !squeezes then
      some (octets "extra operand " ++ quoted second ++
        octets "\nOnly one string may be given when deleting without squeezing repeats.")
    else none
  | _ :: _ :: extra :: _ => some (octets "extra operand " ++ quoted extra)

/-- A text with characters of one set changed into those of another. -/
def translated (from_ image : List Char) (content : Octets) : Octets :=
  let last := image.getLast?.getD ' '
  content.map fun c =>
    match from_.zipIdx.reverse.find? (·.1 = c) with
    | some (_, i) => (image[i]?).getD last
    | none => c

def tr : Behaviour := withOptions "dscCt" "" 1 fun j o =>
  match setMistake? o with
  | some message => j.misuse message 1
  | none =>
    match o.operands.mapM charactersOf with
    | .error message => j.complain message 1
    | .ok sets =>
      let given := sets.head?.getD []
      let from_ := if o.has 'c' || o.has 'C' then
          ((List.range 256).map Char.ofNat).filter fun c => !given.contains c
        else given
      let image := (sets.drop 1).head?.getD []
      if image.isEmpty && !o.has 'd' && 1 < o.operands.length then
        j.complain (octets "when not truncating set1, string2 must be non-empty") 1
      else
        let (content, j) := j.input
        let text := if o.has 'd' then content.filter fun c => !from_.contains c
          else if image.isEmpty then content
          else translated from_ image content
        j.print (if o.has 's' then squeeze (if image.isEmpty then from_ else image) text else text)

end SecretAccess.Host.Utility
