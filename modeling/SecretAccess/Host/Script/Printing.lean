import SecretAccess.Host.Script.Real

/-!
# Formatted printing

Words in a line, and formats whose places are filled with arguments. Backslash
escapes name control characters and octets.
-/

namespace SecretAccess.Host.Script.Printing

open Text (Octets)

def isOctal (c : Char) : Bool := '0' ≤ c && c ≤ '7'

/-- The octet that up to three octal digits give, and what follows them. -/
def octal (cs : Octets) : Char × Octets :=
  let digits := (cs.take 3).takeWhile isOctal
  (Char.ofNat (Arithmetic.ofDigits 8 digits % 256), cs.drop digits.length)

/-- What a backslash makes of the text behind it. What has no meaning keeps it. -/
def escape (cs : Octets) : Char × Octets :=
  match cs with
  | '\\' :: rest => ('\\', rest)
  | 'a' :: rest => ('\x07', rest)
  | 'b' :: rest => ('\x08', rest)
  | 'e' :: rest => ('\x1b', rest)
  | 'f' :: rest => ('\x0c', rest)
  | 'n' :: rest => ('\n', rest)
  | 'r' :: rest => ('\r', rest)
  | 't' :: rest => ('\t', rest)
  | 'v' :: rest => ('\x0b', rest)
  | c :: _ => if isOctal c then octal cs else ('\\', cs)
  | [] => ('\\', cs)

/-- A text with its escapes expanded, and whether one of them ends all output.
The digits of an octet can have a further zero in front. -/
def unescapeFrom : Nat → Octets → Octets × Bool
  | 0, cs => (cs, false)
  | fuel + 1, cs =>
    match cs with
    | [] => ([], false)
    | '\\' :: 'c' :: _ => ([], true)
    | '\\' :: rest =>
      let rest :=
        match rest with
        | '0' :: d :: more => if isOctal d then d :: more else rest
        | rest => rest
      let (c, rest) := escape rest
      let (text, ends) := unescapeFrom fuel rest
      (c :: text, ends)
    | c :: rest =>
      let (text, ends) := unescapeFrom fuel rest
      (c :: text, ends)

def unescape (cs : Octets) : Octets × Bool := unescapeFrom (cs.length + 1) cs

/-- Words in a line with their escapes expanded. The line is left open if the
first word asks for that, or if an escape ends it. -/
def line (words : List Octets) : Octets :=
  let isOpen := words.head? = some ['-', 'n']
  let words := if isOpen then words.drop 1 else words
  let (text, ends) := unescape (([' '] : Octets).intercalate words)
  if isOpen || ends then text else text ++ ['\n']

/-- How a place of a format is filled. -/
structure Place where
  flags : List Char
  width : Nat
  precision : Option Nat
  conversion : Char
deriving DecidableEq, Repr

namespace Place

def has (p : Place) (flag : Char) : Bool := p.flags.contains flag

/-- Fills up a text to the width, with zeros only behind its sign. -/
def pad (p : Place) (zeros : Bool) (sign digits : Octets) : Octets :=
  let missing := p.width - (sign.length + digits.length)
  if p.has '-' then sign ++ digits ++ List.replicate missing ' '
  else if zeros && p.has '0' then sign ++ List.replicate missing '0' ++ digits
  else List.replicate missing ' ' ++ sign ++ digits

def text (p : Place) (o : Octets) : Octets :=
  p.pad false [] (match p.precision with
    | some n => o.take n
    | none => o)

def digits (p : Place) (base : Nat) (n : Nat) : Octets :=
  let ds := if n = 0 && p.precision = some 0 then [] else Nat.toDigits base n
  List.replicate (p.precision.getD 0 - ds.length) '0' ++ ds

def sign (p : Place) (n : Int) : Octets :=
  if n < 0 then ['-'] else if p.has '+' then ['+'] else if p.has ' ' then [' '] else []

def unsigned (n : Int) : Nat := (Arithmetic.bits n).toNat

def isUnsigned (p : Place) : Bool := !(p.conversion = 'd' || p.conversion = 'i')

def number (p : Place) (n : Int) : Octets :=
  let zeros := p.precision.isNone
  match p.conversion with
  | 'u' => p.pad zeros [] (p.digits 10 (unsigned n))
  | 'o' => p.pad zeros (if p.has '#' then ['0'] else []) (p.digits 8 (unsigned n))
  | 'x' =>
    p.pad zeros (if p.has '#' && n ≠ 0 then ['0', 'x'] else []) (p.digits 16 (unsigned n))
  | 'X' =>
    p.pad zeros (if p.has '#' && n ≠ 0 then ['0', 'X'] else [])
      ((p.digits 16 (unsigned n)).map Char.toUpper)
  | _ => p.pad zeros (p.sign n) (p.digits 10 n.natAbs)

/-- A number with a point. -/
def real (p : Place) (r : Real) : Octets :=
  let (digits, fills) := r.text p.conversion (p.has '#') p.precision
  let sign : Octets := if r.isNegative then ['-'] else p.sign 0
  let isHex := fills && p.conversion.toLower = 'a'
  let mark : Octets := if isHex then ['0', if p.conversion = 'a' then 'x' else 'X'] else []
  p.pad fills (sign ++ mark) digits

end Place

def outOfRange (o : Octets) : Octets := o ++ Octets.ofString ": Numerical result out of range"

def notConverted (o : Octets) : Octets := o ++ Octets.ofString ": not completely converted"

def notNumeric (o : Octets) : Octets := o ++ Octets.ofString ": expected numeric value"

/-- The number that an argument gives, and a complaint if it is not all number.
Behind a quote it is the code of a character. -/
def numberOf (isUnsigned : Bool) (o : Octets) : Int × Option Octets :=
  match o with
  | '\'' :: cs | '"' :: cs => ((cs.head?.elim 0 Char.toNat : Nat), none)
  | _ =>
    let cs := Arithmetic.skip o
    let (negative, digits) :=
      match cs with
      | '-' :: ds => (true, ds)
      | '+' :: ds => (false, ds)
      | ds => (false, ds)
    let (size, rest) := Arithmetic.numeral digits
    let most := if isUnsigned then 2 * Arithmetic.largest + 1
      else if negative then Arithmetic.largest + 1
      else Arithmetic.largest
    let n : Int :=
      if most < size then (if negative && !isUnsigned then -most else most)
      else if negative then -size else size
    if o.isEmpty then (0, none)
    else if !digits.head?.any Char.isDigit then (0, some (notNumeric o))
    else if !rest.isEmpty then (n, some (notConverted o))
    else (n, if most < size then some (outOfRange o) else none)

/-- The number with a point that an argument gives, as `numberOf` does for others. -/
def realOf (o : Octets) : Real × Option Octets :=
  match o with
  | '\'' :: cs | '"' :: cs => (Real.ofNat (cs.head?.elim 0 Char.toNat), none)
  | _ =>
    match Real.read? o with
    | none => (Real.ofNat 0, if o.isEmpty then none else some (notNumeric o))
    | some (x, reading) =>
      (x, if !reading.rest.isEmpty then some (notConverted o)
        else if reading.isExtreme then some (outOfRange o)
        else none)

/-- A place of a format behind its percent sign, where an asterisk takes its
width or precision from the arguments. -/
def place (cs : Octets) (arguments : List Octets) : Place × Octets × List Octets :=
  let isFlag (c : Char) := c = '-' || c = '+' || c = ' ' || c = '#' || c = '0'
  let flags := cs.takeWhile isFlag
  let cs := cs.dropWhile isFlag
  let size (cs : Octets) (arguments : List Octets) : Nat × Octets × List Octets :=
    match cs with
    | '*' :: rest =>
      ((numberOf false (arguments.head?.getD [])).1.toNat, rest, arguments.drop 1)
    | cs =>
      (Arithmetic.ofDigits 10 (cs.takeWhile Char.isDigit), cs.dropWhile Char.isDigit, arguments)
  let (width, cs, arguments) := size cs arguments
  let (precision, cs, arguments) :=
    match cs with
    | '.' :: rest =>
      let (n, rest, arguments) := size rest arguments
      (some n, rest, arguments)
    | cs => (none, cs, arguments)
  (⟨flags, width, precision, cs.head?.getD '\x00'⟩, cs.drop 1, arguments)

/-- What a format has come to. -/
structure Filled where
  text : Octets
  arguments : List Octets
  complaints : List Octets
  /-- No more is printed, not even for arguments that are left. -/
  ends : Bool

namespace Filled

def cons (o : Octets) (f : Filled) : Filled := { f with text := o ++ f.text }

def complain (c : Option Octets) (f : Filled) : Filled :=
  { f with complaints := c.toList ++ f.complaints }

end Filled

/-- Fills the places of a format once. -/
def fill : Nat → Octets → List Octets → Filled
  | 0, _, arguments => ⟨[], arguments, [], false⟩
  | fuel + 1, form, arguments =>
    match form with
    | [] => ⟨[], arguments, [], false⟩
    | '\\' :: rest =>
      let (c, rest) := escape rest
      (fill fuel rest arguments).cons [c]
    | '%' :: '%' :: rest => (fill fuel rest arguments).cons ['%']
    | '%' :: rest =>
      let (p, behind, arguments) := place rest arguments
      let written := '%' :: rest.take (rest.length - behind.length)
      let argument := arguments.head?.getD []
      let next := fill fuel behind (arguments.drop 1)
      match p.conversion with
      | 's' => next.cons (p.text argument)
      | 'c' => next.cons (p.pad false [] [argument.head?.getD '\x00'])
      | 'b' =>
        let (text, ends) := unescape argument
        if ends then ⟨p.text text, [], [], true⟩ else next.cons (p.text text)
      | 'd' | 'i' | 'u' | 'o' | 'x' | 'X' =>
        let (n, complaint) := numberOf p.isUnsigned argument
        (next.cons (p.number n)).complain complaint
      | 'a' | 'A' | 'e' | 'E' | 'f' | 'F' | 'g' | 'G' =>
        let (x, complaint) := realOf argument
        (next.cons (p.real x)).complain complaint
      | '\x00' => ⟨[], [], [Octets.ofString "missing format character"], true⟩
      | _ => ⟨[], [], [written ++ Octets.ofString ": invalid directive"], true⟩
    | c :: rest => (fill fuel rest arguments).cons [c]

/-- A format is used again as long as it takes arguments that are left. -/
def format (form : Octets) : Nat → List Octets → Filled
  | 0, arguments => ⟨[], arguments, [], true⟩
  | times + 1, arguments =>
    let f := fill (form.length + 1) form arguments
    if f.ends || f.arguments.isEmpty || f.arguments.length = arguments.length then f
    else
      let more := format form times f.arguments
      ⟨f.text ++ more.text, more.arguments, f.complaints ++ more.complaints, more.ends⟩

end SecretAccess.Host.Script.Printing
