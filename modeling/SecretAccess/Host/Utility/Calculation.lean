import SecretAccess.Host.Utility.Expression
import SecretAccess.Host.Utility.Job

/-!
# Calculating with arguments

Each argument is an operator or an operand. A value is a text, and a text that is
written as a whole number counts as that number wherever one is asked for.
-/

namespace SecretAccess.Host.Utility

open Text (Octets)

namespace Calculation

/-- The whole number that a text is. -/
def integer? (o : Octets) : Option Int :=
  match o with
  | '-' :: digits => (natural? digits).map fun n => -(n : Int)
  | digits => (natural? digits).map Int.ofNat

def ofInt (n : Int) : Octets := n.repr.toList

def ofBool (b : Bool) : Octets := if b then ['1'] else ['0']

/-- Nothing, or a zero. -/
def isNull (o : Octets) : Bool :=
  o.isEmpty || ((o.dropWhile (· = '-')).all (· = '0') && (integer? o).isSome)

/-- What is left of a text by an expression that matches its start: the first
group, or without groups how long the match is. -/
def matched (text pattern : Octets) : Except Octets Octets :=
  match Expression.parse? ⟨false, false⟩ pattern with
  | none => .error (octets (Expression.complaint ⟨false, false⟩ pattern))
  | some e =>
    let found := Expression.search false (.both .lineStart e) [] text
    if 0 < e.groupCount then .ok ((found.bind fun m => m.place.groups.lookup 1).getD [])
    else .ok (ofInt (found.elim 0 fun m => m.text.length))

def compare (holds : Bool → Bool → Bool) (a b : Octets) : Except Octets Octets :=
  match integer? a, integer? b with
  | some m, some n => .ok (ofBool (holds (m < n) (m = n)))
  | _, _ => .ok (ofBool (holds (a < b) (a = b)))

def calculate (act : Int → Int → Except Octets Int) (a b : Octets) : Except Octets Octets :=
  match integer? a, integer? b with
  | some m, some n => (act m n).map ofInt
  | _, _ => .error (octets "non-integer argument")

def divided (act : Int → Int → Int) (m n : Int) : Except Octets Int :=
  if n = 0 then .error (octets "division by zero") else .ok (act m n)

/-- An operator between two operands. -/
structure Operator where
  /-- Whether the second operand counts, by the first one. -/
  needs : Octets → Bool
  act : Octets → Octets → Except Octets Octets

def Operator.plain (act : Octets → Octets → Except Octets Octets) : Operator :=
  ⟨fun _ => true, act⟩

/-- The operators by how closely they bind, the weakest first. -/
def operators : List (List (String × Operator)) :=
  [[("|", ⟨isNull, fun a b => .ok (if !isNull a then a else if isNull b then ['0'] else b)⟩)],
    [("&", ⟨(!isNull ·), fun a b => .ok (if isNull a || isNull b then ['0'] else a)⟩)],
    [("<", .plain (compare fun less _ => less)), ("<=", .plain (compare fun less same => less || same)),
      ("=", .plain (compare fun _ same => same)), ("==", .plain (compare fun _ same => same)),
      ("!=", .plain (compare fun _ same => !same)),
      (">=", .plain (compare fun less _ => !less)),
      (">", .plain (compare fun less same => !less && !same))],
    [("+", .plain (calculate fun m n => .ok (m + n))), ("-", .plain (calculate fun m n => .ok (m - n)))],
    [("*", .plain (calculate fun m n => .ok (m * n))), ("/", .plain (calculate (divided Int.tdiv))),
      ("%", .plain (calculate (divided Int.tmod)))],
    [(":", .plain matched)]]

/-- The part of a text from a place on, so many characters long. -/
def part (text place length : Octets) : Octets :=
  match integer? place, integer? length with
  | some p, some n => if p ≤ 0 || n ≤ 0 then [] else (text.drop (p.toNat - 1)).take n.toNat
  | _, _ => []

/-- The first place in a text that has one of some characters. -/
def placeOf (text characters : Octets) : Octets :=
  ofNat ((text.findIdx? characters.contains).elim 0 (· + 1))

/-- What is behind the arguments that have been used, the last of which is given. -/
structure Rest where
  last : Octets
  ahead : List Octets

def Rest.next (r : Rest) : Rest := ⟨r.ahead.head?.getD [], r.ahead.drop 1⟩

def syntaxError (text : String) (o : Octets) : Octets :=
  octets ("syntax error: " ++ text) ++ quoted o

abbrev Step := Except Octets (Octets × Rest)

mutual

/-- Operands between operators of one level. What does not count is read all the
same, but nothing in it goes wrong. -/
def level (counts : Bool) : Nat → List (List (String × Operator)) → Rest → Step
  | 0, _, r => .ok ([], r)
  | fuel + 1, [], r => named counts fuel r
  | fuel + 1, operators :: closer, r => do
    let (a, r) ← level counts fuel closer r
    more counts fuel operators closer a r

def more (counts : Bool) : Nat → List (String × Operator) → List (List (String × Operator)) →
    Octets → Rest → Step
  | 0, _, _, a, r => .ok (a, r)
  | fuel + 1, operators, closer, a, r =>
    match r.ahead.head?.bind fun o => operators.lookup (String.ofList o) with
    | none => .ok (a, r)
    | some operator => do
      let (b, r) ← level (counts && operator.needs a) fuel closer r.next
      let value ← if counts then operator.act a b else .ok []
      more counts fuel operators closer value r

/-- A function by its name, or an operand. -/
def named (counts : Bool) : Nat → Rest → Step
  | 0, r => .ok ([], r)
  | fuel + 1, r =>
    match (r.ahead.head?.map String.ofList).getD "" with
    | "+" =>
      let r := r.next
      if r.ahead.isEmpty then .error (syntaxError "missing argument after " r.last)
      else .ok (r.next.last, r.next)
    | "length" => do
      let (text, r) ← named counts fuel r.next
      .ok (ofNat text.length, r)
    | "match" => do
      let (text, r) ← named counts fuel r.next
      let (pattern, r) ← named counts fuel r
      .ok (← if counts then matched text pattern else .ok [], r)
    | "index" => do
      let (text, r) ← named counts fuel r.next
      let (characters, r) ← named counts fuel r
      .ok (placeOf text characters, r)
    | "substr" => do
      let (text, r) ← named counts fuel r.next
      let (place, r) ← named counts fuel r
      let (length, r) ← named counts fuel r
      .ok (part text place length, r)
    | _ => operand counts fuel r

def operand (counts : Bool) : Nat → Rest → Step
  | 0, r => .ok ([], r)
  | fuel + 1, r =>
    match r.ahead with
    | [] => .error (syntaxError "missing argument after " r.last)
    | ['('] :: _ => do
      let (value, r) ← level counts fuel operators r.next
      match r.ahead with
      | [] => .error (syntaxError "expecting ')' after " r.last)
      | [')'] :: _ => .ok (value, r.next)
      | other :: _ => .error (syntaxError "expecting ')' instead of " other)
    | [')'] :: _ => .error (octets "syntax error: unexpected ')'")
    | other :: _ => .ok (other, r.next)

end

def run (arguments : List Octets) : Except Octets Octets := do
  let (value, r) ← level true (16 * arguments.length + 16) operators ⟨[], arguments⟩
  match r.ahead with
  | [] => .ok value
  | other :: _ => .error (syntaxError "unexpected argument " other)

end Calculation

/-- Prints a value. The status says whether it is nothing. -/
def expr : Behaviour := fun j arguments =>
  let arguments := if arguments.head? = some ['-', '-'] then arguments.drop 1 else arguments
  if arguments.isEmpty then j.misuse (octets "missing operand") 2
  else
    match Calculation.run arguments with
    | .error message => j.complain message 2
    | .ok value => (j.print (value ++ ['\n'])).fails (if Calculation.isNull value then 1 else 0)

end SecretAccess.Host.Utility
