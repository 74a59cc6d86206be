import SecretAccess.Toml.Text

/-!
# TOML numbers and dates

Underscores stand between digits only. Integers have 64 bits. A positive
number beyond the binary64 range is refused, a negative one is minus infinity.
-/

namespace SecretAccess.Toml.Reader

def isHexDigit (c : Char) : Bool := (hexValue c).isSome

def isOctalDigit (c : Char) : Bool := '0' ≤ c && c ≤ '7'

def isBinaryDigit (c : Char) : Bool := c = '0' || c = '1'

/-- More digits, each perhaps behind one underscore. A dangling underscore is
refused. -/
def moreDigits (isDigit : Char → Bool) : List Char → Option (Read (List Char))
  | '_' :: c :: cs =>
    if isDigit c then (moreDigits isDigit cs).map fun read => (c :: read.1, read.2) else none
  | ['_'] => none
  | c :: cs =>
    if isDigit c then (moreDigits isDigit cs).map fun read => (c :: read.1, read.2)
    else some ([], c :: cs)
  | [] => some ([], [])

def digits (isDigit : Char → Bool) : List Char → Option (Read (List Char))
  | c :: cs =>
    if isDigit c then (moreDigits isDigit cs).map fun read => (c :: read.1, read.2) else none
  | [] => none

def valueIn (base : Nat) (digits : List Char) : Nat :=
  digits.foldl (fun n c => n * base + (hexValue c).getD 0) 0

def sign : List Char → Bool × List Char
  | '+' :: cs => (false, cs)
  | '-' :: cs => (true, cs)
  | cs => (false, cs)

/-- Decimal digits without a leading zero, unless that is all there is. -/
def wholePart : List Char → Option (Read (List Char))
  | '0' :: cs => some (['0'], cs)
  | cs => digits Char.isDigit cs

def fitsInteger (n : Int) : Bool := -(Nat.pow 2 63 : Int) ≤ n && n < (Nat.pow 2 63 : Int)

def integerOf (n : Int) (cs : List Char) : Option (Read Toml) :=
  if fitsInteger n then some (.integer n, cs) else none

def based (base : Nat) (isDigit : Char → Bool) (cs : List Char) : Option (Read Toml) := do
  let (ds, cs) ← digits isDigit cs
  integerOf (valueIn base ds) cs

/-- Whether a decimal is beyond every binary64 value: its digits without point,
and the power of ten they are to be scaled by. -/
def isInfinite (ds : List Char) (power : Int) : Bool :=
  let limit := Nat.pow 2 1024 - Nat.pow 2 970
  match ds.dropWhile (· = '0') with
  | [] => false
  | ds =>
    if 400 < ds.length + power then true
    else if ds.length + power < 0 then false
    else
      let n := valueIn 10 ds
      if 0 ≤ power then limit ≤ n * Nat.pow 10 power.toNat
      else limit * Nat.pow 10 (-power).toNat ≤ n

/-- The power behind an `e`, if there is one. -/
def powerPart : List Char → Option (Read (Option Int))
  | c :: cs =>
    if c = 'e' || c = 'E' then do
      let (negative, cs) := sign cs
      let (ds, cs) ← digits Char.isDigit cs
      let size : Int := valueIn 10 ds
      some (some (if negative then -size else size), cs)
    else some (none, c :: cs)
  | [] => some (none, [])

def decimalPart : List Char → Option (Read (Option (List Char)))
  | '.' :: cs => (digits Char.isDigit cs).map fun read => (some read.1, read.2)
  | cs => some (none, cs)

def consumed (cs rest : List Char) : String := String.ofList (cs.take (cs.length - rest.length))

/-- A number in decimal notation, with or without point and power. -/
def decimal (cs : List Char) : Option (Read Toml) := do
  let (negative, unsigned) := sign cs
  let (whole, rest) ← wholePart unsigned
  let (decimals, rest) ← decimalPart rest
  let (power, rest) ← powerPart rest
  if decimals.isNone && power.isNone then
    let size : Int := valueIn 10 whole
    integerOf (if negative then -size else size) rest
  else
    let decimals := decimals.getD []
    if !negative && isInfinite (whole ++ decimals) (power.getD 0 - decimals.length) then none
    else some (.float (consumed cs rest), rest)

/-- The values that are written as words, but for the truth values. -/
def special (cs : List Char) : Option (Read Toml) :=
  match (sign cs).2 with
  | 'i' :: 'n' :: 'f' :: rest => some (.float (consumed cs rest), rest)
  | 'n' :: 'a' :: 'n' :: rest => some (.float (consumed cs rest), rest)
  | _ => none

/-- A number of exactly `count` digits. -/
def fixedDigits (count : Nat) (cs : List Char) : Option (Read Nat) :=
  let ds := cs.take count
  if ds.length = count && ds.all Char.isDigit then some (valueIn 10 ds, cs.drop count) else none

/-- A number of two digits between bounds. -/
def twoDigits (low high : Nat) (cs : List Char) : Option (Read Nat) := do
  let (n, cs) ← fixedDigits 2 cs
  if low ≤ n && n ≤ high then some (n, cs) else none

def expect (c : Char) : List Char → Option (List Char)
  | d :: cs => if c = d then some cs else none
  | [] => none

def daysIn (year month : Nat) : Nat :=
  if month = 2 then
    if year % 4 = 0 && (year % 100 ≠ 0 || year % 400 = 0) then 29 else 28
  else if month = 4 || month = 6 || month = 9 || month = 11 then 30
  else 31

/-- A calendar date; the text behind it is returned. -/
def fullDate (cs : List Char) : Option (List Char) := do
  let (year, cs) ← fixedDigits 4 cs
  let cs ← expect '-' cs
  let (month, cs) ← twoDigits 1 12 cs
  let cs ← expect '-' cs
  let (_, cs) ← twoDigits 1 (daysIn year month) cs
  some cs

def fraction : List Char → Option (List Char)
  | '.' :: cs =>
    match cs.takeWhile Char.isDigit with
    | [] => none
    | _ => some (cs.dropWhile Char.isDigit)
  | cs => some cs

/-- A time of day. A leap second may be written. -/
def clockTime (cs : List Char) : Option (List Char) := do
  let (_, cs) ← twoDigits 0 23 cs
  let cs ← expect ':' cs
  let (_, cs) ← twoDigits 0 59 cs
  let cs ← expect ':' cs
  let (_, cs) ← twoDigits 0 60 cs
  fraction cs

def offset : List Char → Option (List Char)
  | c :: cs =>
    if c = 'Z' || c = 'z' then some cs
    else if c = '+' || c = '-' then do
      let (_, cs) ← twoDigits 0 23 cs
      let cs ← expect ':' cs
      let (_, cs) ← twoDigits 0 59 cs
      some cs
    else some (c :: cs)
  | [] => some []

/-- The time that may follow a date, behind a letter or a space. -/
def timeOfDate (cs : List Char) : Option (List Char) :=
  match cs with
  | c :: rest =>
    if (c = 'T' || c = 't' || c = ' ') && (twoDigits 0 23 rest).isSome then
      (clockTime rest).bind offset
    else some cs
  | [] => some []

def date (cs : List Char) : Option (Read Toml) := do
  let rest ←
    match fullDate cs with
    | some rest => timeOfDate rest
    | none => clockTime cs
  some (.date (consumed cs rest), rest)

/-- A value that begins with a sign or a digit. -/
def numeric (cs : List Char) : Option (Read Toml) :=
  match date cs with
  | some read => some read
  | none =>
    match cs with
    | '0' :: 'x' :: cs => based 16 isHexDigit cs
    | '0' :: 'o' :: cs => based 8 isOctalDigit cs
    | '0' :: 'b' :: cs => based 2 isBinaryDigit cs
    | cs =>
      match special cs with
      | some read => some read
      | none => decimal cs

end SecretAccess.Toml.Reader
