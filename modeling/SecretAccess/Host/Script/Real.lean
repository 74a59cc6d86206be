import SecretAccess.Host.Script.Arithmetic

/-!
# Numbers with a point

A text is read as the nearest number that has 53 binary places, and that number is
written exactly, with as many digits as are asked for. A tie goes to the even
neighbour, in reading and in writing.
-/

namespace SecretAccess.Host.Script

open Text (Octets)

/-- A size: a significand times a power of two, or none that can be written. -/
inductive Magnitude where
  | finite (significand : Nat) (exponent : Int)
  | infinite
  | notNumber
deriving DecidableEq, Repr

structure Real where
  isNegative : Bool
  magnitude : Magnitude
deriving DecidableEq, Repr

namespace Real

/-- A quotient as a whole number, where a half goes to the even neighbour. -/
def roundedQuotient (n d : Nat) : Nat :=
  let q := n / d
  let doubled := 2 * (n % d)
  if d < doubled || (doubled = d && q % 2 = 1) then q + 1 else q

/-- A quotient multiplied by a power of a base, as a quotient. -/
def scale (base : Nat) (e : Int) (n d : Nat) : Nat × Nat :=
  if 0 ≤ e then (n * Nat.pow base e.toNat, d) else (n, d * Nat.pow base (-e).toNat)

def minExponent : Int := -1074

/-- The number nearest to a quotient, and whether it is too large or too small to
be told well. -/
def nearest (n d : Nat) : Magnitude × Bool :=
  if n = 0 then (.finite 0 0, false)
  else
    let guess : Int := (Nat.log2 n : Int) - (Nat.log2 d : Int) - 53
    let (a, b) := scale 2 (-guess) n d
    let e := max minExponent (if Nat.pow 2 53 ≤ a / b then guess + 1 else guess)
    let (a, b) := scale 2 (-e) n d
    let m := roundedQuotient a b
    if 971 < e || (e = 971 && Nat.pow 2 53 ≤ m) then (.infinite, true)
    else (.finite m e, m < Nat.pow 2 52 && a % b ≠ 0)

/-- The digits of a text on both sides of a point, how many of them stand behind
it, and what follows them. -/
def pointed (isDigit : Char → Bool) (cs : Octets) : Octets × Nat × Octets :=
  let whole := cs.takeWhile isDigit
  match cs.dropWhile isDigit with
  | '.' :: rest =>
    let broken := rest.takeWhile isDigit
    if whole.isEmpty && broken.isEmpty then ([], 0, cs)
    else (whole ++ broken, broken.length, rest.dropWhile isDigit)
  | rest => (whole, 0, rest)

/-- An exponent behind its letter, if there is one. -/
def power (letters : List Char) (cs : Octets) : Int × Octets :=
  match cs with
  | c :: rest =>
    let (sign, ds) : Int × Octets :=
      match rest with
      | '-' :: ds => (-1, ds)
      | '+' :: ds => (1, ds)
      | ds => (1, ds)
    let digits := ds.takeWhile Char.isDigit
    if !letters.contains c || digits.isEmpty then (0, cs)
    else (sign * (min 100000 (Arithmetic.ofDigits 10 digits) : Nat), ds.dropWhile Char.isDigit)
  | [] => (0, cs)

/-- What a size is read as, and what follows it. -/
structure Reading where
  magnitude : Magnitude
  isExtreme : Bool
  rest : Octets

def hexadecimal (cs : Octets) : Option Reading :=
  let (digits, places, rest) := pointed Arithmetic.isHexDigit cs
  if digits.isEmpty then none
  else
    let (e, rest) := power ['p', 'P'] rest
    let (n, d) := scale 2 (e - 4 * (places : Int)) (Arithmetic.ofDigits 16 digits) 1
    let (magnitude, isExtreme) := nearest n d
    some ⟨magnitude, isExtreme, rest⟩

def decimal (cs : Octets) : Option Reading :=
  let (digits, places, rest) := pointed Char.isDigit cs
  if digits.isEmpty then none
  else
    let (e, rest) := power ['e', 'E'] rest
    let n := Arithmetic.ofDigits 10 digits
    let e := e - (places : Int)
    let (magnitude, isExtreme) : Magnitude × Bool :=
      if n = 0 then (.finite 0 0, false)
      else if 400 < e then (.infinite, true)
      else if e + digits.length < -400 then (.finite 0 0, true)
      else
        let (n, d) := scale 10 e n 1
        nearest n d
    some ⟨magnitude, isExtreme, rest⟩

/-- A size by its name. -/
def named (cs : Octets) : Option Reading :=
  let names : List (String × Magnitude) :=
    [("infinity", .infinite), ("inf", .infinite), ("nan", .notNumber)]
  (names.find? fun e => e.1.toList = (cs.take e.1.length).map Char.toLower).map fun e =>
    ⟨e.2, false, cs.drop e.1.length⟩

def magnitude? (cs : Octets) : Option Reading :=
  let inHex : Option Reading :=
    match cs with
    | '0' :: 'x' :: rest | '0' :: 'X' :: rest => hexadecimal rest
    | _ => none
  (inHex.or (decimal cs)).or (named cs)

/-- The number at the start of a text, if one is there. -/
def read? (cs : Octets) : Option (Real × Reading) :=
  let cs := Arithmetic.skip cs
  let (isNegative, cs) :=
    match cs with
    | '-' :: cs => (true, cs)
    | '+' :: cs => (false, cs)
    | cs => (false, cs)
  (magnitude? cs).map fun r => (⟨isNegative, r.magnitude⟩, r)

def ofNat (n : Nat) : Real := ⟨false, (nearest n 1).1⟩

/-- Digits with a point in front of the last ones. -/
def withPoint (always : Bool) (places digits : Nat) : Octets :=
  let text := digits.repr.toList
  let text := List.replicate (places + 1 - text.length) '0' ++ text
  let whole := text.take (text.length - places)
  if places = 0 then if always then whole ++ ['.'] else whole
  else whole ++ '.' :: text.drop (text.length - places)

/-- A size in positional notation. -/
def positional (always : Bool) (places m : Nat) (e : Int) : Octets :=
  let (n, d) := scale 2 e m 1
  withPoint always places (roundedQuotient (n * Nat.pow 10 places) d)

/-- The power of ten in front of the first digit of a quotient. -/
def leading (n d : Nat) : Int :=
  if d ≤ n then ((n / d).repr.length : Int) - 1
  else -(((List.range 400).find? fun k => d ≤ n * Nat.pow 10 k).getD 0 : Nat)

/-- The digits of a size, one of them in front of the point, and the power of ten. -/
def digitsOf (places m : Nat) (e : Int) : Nat × Int :=
  if m = 0 then (0, 0)
  else
    let (n, d) := scale 2 e m 1
    let x := leading n d
    let (n, d) := scale 10 ((places : Int) - x) n d
    let digits := roundedQuotient n d
    if Nat.pow 10 (places + 1) ≤ digits then (digits / 10, x + 1) else (digits, x)

def powerText (letter : Char) (width : Nat) (x : Int) : Octets :=
  let digits := x.natAbs.repr.toList
  letter :: (if x < 0 then '-' else '+') :: (List.replicate (width - digits.length) '0' ++ digits)

/-- A size with a power of ten. -/
def scientific (always : Bool) (places m : Nat) (e : Int) : Octets :=
  let (digits, x) := digitsOf places m e
  withPoint always places digits ++ powerText 'e' 2 x

/-- Leaves out zeros at the end behind a point. -/
def stripped (o : Octets) : Octets :=
  if o.contains '.' then
    ((o.reverse.dropWhile (· = '0')).dropWhile (· = '.')).reverse
  else o

/-- A size with so many digits, in the shorter notation. -/
def general (always : Bool) (count m : Nat) (e : Int) : Octets :=
  let count := max 1 count
  let x := (digitsOf (count - 1) m e).2
  let strip (o : Octets) : Octets := if always then o else stripped o
  if -4 ≤ x && x < count then strip (positional always ((count : Int) - 1 - x).toNat m e)
  else
    let (digits, x) := digitsOf (count - 1) m e
    strip (withPoint always (count - 1) digits) ++ powerText 'e' 2 x

/-- A size in hexadecimal notation with a power of two. One digit that is not zero
stands in front of the point, unless the power would become too small. -/
def binary (always : Bool) (places : Option Nat) (m : Nat) (e : Int) : Octets :=
  let shift := min (52 - Nat.log2 m) (e - minExponent).toNat
  let (m, x) : Nat × Int :=
    if m = 0 then (0, 0) else (m * Nat.pow 2 shift, e - (shift : Int) + 52)
  let m := match places with
    | some n => if n < 13 then roundedQuotient m (Nat.pow 16 (13 - n)) * Nat.pow 16 (13 - n) else m
    | none => m
  let digits := Nat.toDigits 16 (m % Nat.pow 2 52)
  let digits := List.replicate (13 - digits.length) '0' ++ digits
  let digits := match places with
    | some n => digits.take n ++ List.replicate (n - 13) '0'
    | none => (digits.reverse.dropWhile (· = '0')).reverse
  let point : Octets := if digits.isEmpty && !always then [] else ['.']
  (m / Nat.pow 2 52).repr.toList ++ point ++ digits ++ powerText 'p' 1 x

/-- A number without its sign, as a conversion asks for it, and whether zeros can
stand in front. -/
def text (conversion : Char) (always : Bool) (places : Option Nat) (r : Real) : Octets × Bool :=
  let (text, fills) : Octets × Bool :=
    match r.magnitude with
    | .infinite => (['i', 'n', 'f'], false)
    | .notNumber => (['n', 'a', 'n'], false)
    | .finite m e =>
      match conversion.toLower with
      | 'e' => (scientific always (places.getD 6) m e, true)
      | 'f' => (positional always (places.getD 6) m e, true)
      | 'g' => (general always (places.getD 6) m e, true)
      | _ => (binary always places m e, true)
  (if conversion.isUpper then text.map Char.toUpper else text, fills)

end Real

end SecretAccess.Host.Script
