import SecretAccess.Host.Utility.Job

/-!
# Lines in order

Sorting lines by what they begin with, by what they hold in some of their
fields, as texts or as numbers.
-/

namespace SecretAccess.Host.Utility

open Text (Octets)

/-- A number with a fraction, in units of its last place. -/
structure Decimal where
  digits : Int
  places : Nat
deriving DecidableEq, Repr

namespace Decimal

def le (a b : Decimal) : Bool :=
  let scale (n : Int) (places : Nat) : Int := (List.range places).foldl (fun n _ => n * 10) n
  decide (scale a.digits (b.places) ≤ scale b.digits (a.places))

/-- The number at the front of a text; zero if there is none. -/
def ofFront (o : Octets) : Decimal :=
  let cs := o.dropWhile fun c => c = ' ' || c = '\t'
  let isNegative := cs.head? = some '-'
  let cs := if isNegative then cs.drop 1 else cs
  let whole := cs.takeWhile Char.isDigit
  let fraction :=
    match cs.dropWhile Char.isDigit with
    | '.' :: rest => rest.takeWhile Char.isDigit
    | _ => []
  let n := (natural? (whole ++ fraction)).getD 0
  ⟨if isNegative then -(n : Int) else n, fraction.length⟩

end Decimal

/-- What lines are ordered by: a range of fields, and how it is compared. -/
structure Key where
  first : Nat
  firstOffset : Nat
  last : Option Nat
  lastOffset : Nat
  flags : List Char

namespace Key

def isBlank (c : Char) : Bool := c = ' ' || c = '\t'

/-- The fields of a line. Without a separator a field begins with its blanks. -/
def fieldsOf (separator : Option Char) (line : Octets) : List Octets :=
  match separator with
  | some c => line.splitOn c
  | none => (line.foldr (fun c (fields : List Octets) =>
      match fields with
      | [] => [[c]]
      | field :: rest =>
        let opens := !isBlank c && field.head?.any isBlank
        if opens then [c] :: field :: rest else (c :: field) :: rest) [])

/-- Where a field and a place in it lie in a line. -/
def offset (separator : Option Char) (line : Octets) (skipsBlanks : Bool) (field place : Nat) :
    Nat :=
  let fields := fieldsOf separator line
  let gap := if separator.isSome then 1 else 0
  let before := (fields.take (field - 1)).foldl (fun n f => n + f.length + gap) 0
  let blanks := if skipsBlanks then
      (((fields[field - 1]?).getD []).takeWhile isBlank).length
    else 0
  min line.length (before + blanks + place)

/-- The part of a line that a key is about. -/
def part (separator : Option Char) (k : Key) (line : Octets) : Octets :=
  let blanks := k.flags.contains 'b'
  let start := offset separator line blanks k.first (k.firstOffset - 1)
  let stop :=
    match k.last with
    | none => line.length
    | some field =>
      if k.lastOffset = 0 then
        let fields := fieldsOf separator line
        let gap := if separator.isSome then 1 else 0
        min line.length
          (((fields.take field).foldl (fun n f => n + f.length + gap) 0) - gap)
      else offset separator line blanks field k.lastOffset
  (line.take stop).drop start

/-- Whether a part comes in front of another one or beside it. -/
def le (flags : List Char) (a b : Octets) : Bool :=
  if flags.contains 'n' then (Decimal.ofFront a).le (Decimal.ofFront b)
  else
    let key (o : Octets) : Octets :=
      let o := if flags.contains 'b' then o.dropWhile isBlank else o
      let o := if flags.contains 'd' then o.filter fun c => isBlank c || c.isAlphanum else o
      if flags.contains 'f' then o.map Char.toUpper else o
    (key a).le (key b)

/-- The order of two lines by keys, or that they do not differ in them. -/
def compare (separator : Option Char) (a b : Octets) : List Key → Option Bool
  | [] => none
  | k :: ks =>
    let x := k.part separator a
    let y := k.part separator b
    let forward := le k.flags x y
    let backward := le k.flags y x
    if forward && backward then compare separator a b ks
    else some (forward != k.flags.contains 'r')

/-- A field, a place in it, and letters, as a key is written. -/
def position? (o : Octets) : Option (Nat × Option Nat × List Char) :=
  let field := natural? (o.takeWhile Char.isDigit)
  let rest := o.dropWhile Char.isDigit
  let (place, letters) : Option Nat × Octets :=
    match rest with
    | '.' :: rest => (natural? (rest.takeWhile Char.isDigit), rest.dropWhile Char.isDigit)
    | rest => (none, rest)
  field.map fun n => (n, place, letters)

def parse? (standard : List Char) (o : Octets) : Option Key := do
  let (first, firstPlace, letters) ← position? (o.takeWhile (· ≠ ','))
  match o.dropWhile (· ≠ ',') with
  | [] =>
    some ⟨first, firstPlace.getD 1, none, 0, if letters.isEmpty then standard else letters⟩
  | _ :: stop =>
    let (last, lastPlace, more) ← position? stop
    let flags := letters ++ more
    some ⟨first, firstPlace.getD 1, some last, lastPlace.getD 0,
      if flags.isEmpty then standard else flags⟩

end Key

def sort : Behaviour := withOptions "rnufbsdm" "okt" 2 fun j o =>
  let standard := (o.letters.map Prod.fst).filter fun c => "rnfbd".toList.contains c
  let texts := (o.letters.filter (·.1 = 'k')).map Prod.snd
  let separator := (o.value? 't').bind List.head?
  match texts.find? fun text => (Key.parse? standard text).isNone with
  | some text =>
    j.complain (octets "invalid number at field start: invalid count at start of " ++
      quoted text) 2
  | none =>
    let given := texts.filterMap (Key.parse? standard)
    let keys := if given.isEmpty then [(⟨1, 1, none, 0, standard⟩ : Key)] else given
    let (j, content) := j.concatenated ⟨"cannot read: ", false, ""⟩ 2 o.operands
    let before (a b : Octets) : Bool :=
      match Key.compare separator a b keys with
      | some answer => answer
      | none =>
        if o.has 's' || o.has 'u' then true
        else if o.has 'r' then b.le a
        else a.le b
    let ordered := (Octets.lines content).mergeSort before
    let ordered := if o.has 'u' then
        (ordered.foldl (fun kept line =>
          match kept with
          | last :: _ =>
            if (Key.compare separator last line keys).isNone then kept else line :: kept
          | [] => [line]) ([] : List Octets)).reverse
      else ordered
    match o.value? 'o' with
    | some path => j.save path (Octets.unlines ordered)
    | none => j.print (Octets.unlines ordered)

end SecretAccess.Host.Utility
