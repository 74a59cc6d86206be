import SecretAccess.Host.Script.Syntax

/-!
# Arithmetic in scripts

Expressions over whole numbers of 64 bits, with the operators and precedences
of C. Names stand for variables, which may be assigned.
-/

namespace SecretAccess.Host.Script

open Text (Octets)

namespace Arithmetic

inductive Operator where
  | multiply | divide | remainder
  | add | subtract
  | shiftLeft | shiftRight
  | less | lessEqual | greater | greaterEqual
  | equal | unequal
  | bitAnd | bitXor | bitOr
  | both | either
deriving DecidableEq, Repr

namespace Operator

/-- Operators of a higher level bind their operands first. -/
def level : Operator → Nat
  | multiply | divide | remainder => 10
  | add | subtract => 9
  | shiftLeft | shiftRight => 8
  | less | lessEqual | greater | greaterEqual => 7
  | equal | unequal => 6
  | bitAnd => 5
  | bitXor => 4
  | bitOr => 3
  | both => 2
  | either => 1

end Operator

inductive Unary where
  | plus
  | minus
  | inverted
  | negation
deriving DecidableEq, Repr

inductive Expression where
  | number (n : Int)
  | variable (name : String)
  | unary (u : Unary) (e : Expression)
  | binary (o : Operator) (left right : Expression)
  | conditional (test yes no : Expression)
  | assign (name : String) (o : Option Operator) (value : Expression)
deriving DecidableEq, Repr

def largest : Nat := 9223372036854775807

/-- Wraps a number into 64 bits. -/
def wrap (n : Int) : Int := n.bmod 18446744073709551616

def digitValue (c : Char) : Nat :=
  if c.isDigit then c.toNat - 48 else if c.isLower then c.toNat - 87 else c.toNat - 55

def ofDigits (base : Nat) (cs : Octets) : Nat := cs.foldl (fun n c => n * base + digitValue c) 0

def isHexDigit (c : Char) : Bool :=
  c.isDigit || ('a' ≤ c && c ≤ 'f') || ('A' ≤ c && c ≤ 'F')

/-- A number in decimal, octal or hexadecimal notation, and what follows it. -/
def numeral (cs : Octets) : Nat × Octets :=
  let isOctal (c : Char) := '0' ≤ c && c ≤ '7'
  let reading (base : Nat) (isDigit : Char → Bool) (cs : Octets) : Nat × Octets :=
    (ofDigits base (cs.takeWhile isDigit), cs.dropWhile isDigit)
  match cs with
  | '0' :: 'x' :: rest | '0' :: 'X' :: rest =>
    if rest.head?.any isHexDigit then reading 16 isHexDigit rest else (0, cs.drop 1)
  | '0' :: _ => reading 8 isOctal cs
  | _ => reading 10 Char.isDigit cs

/-- A number as `numeral` reads it. One that is too large counts as the largest. -/
def literal (cs : Octets) : Int × Octets :=
  let (n, rest) := numeral cs
  ((min largest n : Nat), rest)

def isSpace (c : Char) : Bool := c = ' ' || c = '\t' || c = '\n'

def skip (cs : Octets) : Octets := cs.dropWhile isSpace

/-- The binary operator at the head, and what follows it. -/
def operator? (cs : Octets) : Option (Operator × Octets) :=
  match cs with
  | '<' :: '<' :: '=' :: _ | '>' :: '>' :: '=' :: _ => none
  | '<' :: '<' :: rest => some (.shiftLeft, rest)
  | '>' :: '>' :: rest => some (.shiftRight, rest)
  | '<' :: '=' :: rest => some (.lessEqual, rest)
  | '>' :: '=' :: rest => some (.greaterEqual, rest)
  | '=' :: '=' :: rest => some (.equal, rest)
  | '!' :: '=' :: rest => some (.unequal, rest)
  | '&' :: '&' :: rest => some (.both, rest)
  | '|' :: '|' :: rest => some (.either, rest)
  | _ :: '=' :: _ => none
  | '<' :: rest => some (.less, rest)
  | '>' :: rest => some (.greater, rest)
  | '*' :: rest => some (.multiply, rest)
  | '/' :: rest => some (.divide, rest)
  | '%' :: rest => some (.remainder, rest)
  | '+' :: rest => some (.add, rest)
  | '-' :: rest => some (.subtract, rest)
  | '&' :: rest => some (.bitAnd, rest)
  | '^' :: rest => some (.bitXor, rest)
  | '|' :: rest => some (.bitOr, rest)
  | _ => none

/-- An assignment at the head, with the operator that it applies first. -/
def assignment? (cs : Octets) : Option (Option Operator × Octets) :=
  match cs with
  | '=' :: '=' :: _ => none
  | '=' :: rest => some (none, rest)
  | '*' :: '=' :: rest => some (some .multiply, rest)
  | '/' :: '=' :: rest => some (some .divide, rest)
  | '%' :: '=' :: rest => some (some .remainder, rest)
  | '+' :: '=' :: rest => some (some .add, rest)
  | '-' :: '=' :: rest => some (some .subtract, rest)
  | '<' :: '<' :: '=' :: rest => some (some .shiftLeft, rest)
  | '>' :: '>' :: '=' :: rest => some (some .shiftRight, rest)
  | '&' :: '=' :: rest => some (some .bitAnd, rest)
  | '^' :: '=' :: rest => some (some .bitXor, rest)
  | '|' :: '=' :: rest => some (some .bitOr, rest)
  | _ => none

def unary? : Octets → Option (Unary × Octets)
  | '+' :: rest => some (.plus, rest)
  | '-' :: rest => some (.minus, rest)
  | '~' :: rest => some (.inverted, rest)
  | '!' :: rest => some (.negation, rest)
  | _ => none

mutual

def assignment : Nat → Octets → Except String (Expression × Octets)
  | 0, _ => .error "expecting EOF"
  | fuel + 1, cs =>
    let cs := skip cs
    let name := cs.takeWhile isNamePart
    let behind := skip (cs.dropWhile isNamePart)
    match if isName name then assignment? behind else none with
    | some (o, rest) => do
      let (value, rest) ← assignment fuel rest
      .ok (.assign (String.ofList name) o value, rest)
    | none => do
      let (test, rest) ← operation fuel 1 cs
      match skip rest with
      | '?' :: rest =>
        let (yes, rest) ← assignment fuel rest
        match skip rest with
        | ':' :: rest =>
          let (no, rest) ← assignment fuel rest
          .ok (.conditional test yes no, rest)
        | _ => .error "expecting ':'"
      | rest => .ok (test, rest)

/-- An operation whose operators are at least of a level. -/
def operation : Nat → Nat → Octets → Except String (Expression × Octets)
  | 0, _, _ => .error "expecting EOF"
  | fuel + 1, level, cs => do
    let (first, rest) ← operand fuel (skip cs)
    operations fuel level first rest

def operations : Nat → Nat → Expression → Octets → Except String (Expression × Octets)
  | 0, _, _, _ => .error "expecting EOF"
  | fuel + 1, level, left, cs =>
    match operator? (skip cs) with
    | none => .ok (left, cs)
    | some (o, rest) =>
      if o.level < level then .ok (left, cs)
      else do
        let (right, rest) ← operation fuel (o.level + 1) rest
        operations fuel level (.binary o left right) rest

def operand : Nat → Octets → Except String (Expression × Octets)
  | 0, _ => .error "expecting primary"
  | fuel + 1, cs =>
    match unary? cs with
    | some (u, rest) => do
      let (e, rest) ← operand fuel (skip rest)
      .ok (.unary u e, rest)
    | none =>
      match cs with
      | '(' :: rest => do
        let (e, rest) ← assignment fuel rest
        match skip rest with
        | ')' :: rest => .ok (e, rest)
        | _ => .error "expecting ')'"
      | [] => .error "expecting primary"
      | c :: _ =>
        if c.isDigit then
          let (n, rest) := literal cs
          .ok (.number (wrap n), rest)
        else if isNameStart c then
          .ok (.variable (String.ofList (cs.takeWhile isNamePart)), cs.dropWhile isNamePart)
        else .error "expecting primary"

end

def parse (cs : Octets) : Except String Expression := do
  let (e, rest) ← assignment (4 * cs.length + 4) cs
  if (skip rest).isEmpty then .ok e else .error "expecting EOF"

abbrev Bindings := List (String × Octets)

def ofBool (b : Bool) : Int := if b then 1 else 0

/-- The 64 bits of a number. -/
def bits (n : Int) : UInt64 := UInt64.ofInt n

def ofBits (w : UInt64) : Int := wrap w.toNat

def apply (o : Operator) (a b : Int) : Except String Int :=
  match o with
  | .multiply => .ok (wrap (a * b))
  | .divide => if b = 0 then .error "division by zero" else .ok (wrap (a.tdiv b))
  | .remainder => if b = 0 then .error "division by zero" else .ok (a.tmod b)
  | .add => .ok (wrap (a + b))
  | .subtract => .ok (wrap (a - b))
  | .shiftLeft => .ok (ofBits (bits a <<< bits b))
  | .shiftRight => .ok (a >>> (bits b).toNat % 64)
  | .less => .ok (ofBool (a < b))
  | .lessEqual => .ok (ofBool (a ≤ b))
  | .greater => .ok (ofBool (b < a))
  | .greaterEqual => .ok (ofBool (b ≤ a))
  | .equal => .ok (ofBool (a = b))
  | .unequal => .ok (ofBool (a ≠ b))
  | .bitAnd => .ok (ofBits (bits a &&& bits b))
  | .bitXor => .ok (ofBits (bits a ^^^ bits b))
  | .bitOr => .ok (ofBits (bits a ||| bits b))
  | .both => .ok (ofBool (a ≠ 0 && b ≠ 0))
  | .either => .ok (ofBool (a ≠ 0 || b ≠ 0))

/-- A value of a variable: a number, with a sign if need be. Nothing is zero. -/
def valueOf (o : Octets) : Option Int :=
  let cs := (skip o).reverse.dropWhile isSpace |>.reverse
  let (negative, digits) :=
    match cs with
    | '-' :: digits => (true, digits)
    | '+' :: digits => (false, digits)
    | digits => (false, digits)
  if cs.isEmpty then some 0
  else
    match literal digits with
    | (n, []) => if digits.isEmpty then none else some (wrap (if negative then -n else n))
    | _ => none

def illegal (o : Octets) : String := "Illegal number: " ++ String.ofList o

/-- Evaluates an expression, with what it assigned, last first. A complaint that
is not about the expression itself stands alone. -/
def evaluate (look : String → Octets) (assigned : Bindings) :
    Expression → Except (Bool × String) (Int × Bindings)
  | .number n => .ok (n, assigned)
  | .variable name =>
    let value := (assigned.lookup name).getD (look name)
    match valueOf value with
    | some n => .ok (n, assigned)
    | none => .error (false, illegal value)
  | .unary u e => do
    let (n, assigned) ← evaluate look assigned e
    let n :=
      match u with
      | .plus => n
      | .minus => wrap (-n)
      | .inverted => -n - 1
      | .negation => ofBool (n = 0)
    .ok (n, assigned)
  | .binary o left right => do
    let (a, assigned) ← evaluate look assigned left
    if (o = .both && a = 0) || (o = .either && a ≠ 0) then .ok (ofBool (a ≠ 0), assigned)
    else
      let (b, assigned) ← evaluate look assigned right
      match apply o a b with
      | .ok n => .ok (n, assigned)
      | .error message => .error (true, message)
  | .conditional test yes no => do
    let (n, assigned) ← evaluate look assigned test
    if n ≠ 0 then evaluate look assigned yes else evaluate look assigned no
  | .assign name o value => do
    let (n, assigned) ←
      match o with
      | none => evaluate look assigned value
      | some o => do
        let before := (assigned.lookup name).getD (look name)
        let (b, assigned) ← evaluate look assigned value
        match valueOf before with
        | none => .error (false, illegal before)
        | some a =>
          match apply o a b with
          | .ok n => .ok (n, assigned)
          | .error message => .error (true, message)
    .ok (n, (name, n.repr.toList) :: assigned)

/-- The value of an expression and what it assigned, or a complaint. -/
def run (look : String → Octets) (cs : Octets) : Except String (Int × Bindings) :=
  let complaint (message : String) :=
    "arithmetic expression: " ++ message ++ ": \"" ++ String.ofList cs ++ "\""
  match parse cs with
  | .error message => .error (complaint message)
  | .ok e =>
    match evaluate look [] e with
    | .ok answer => .ok answer
    | .error (inExpression, message) =>
      .error (if inExpression then complaint message else message)

end Arithmetic

end SecretAccess.Host.Script
