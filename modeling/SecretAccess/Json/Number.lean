/-!
# The range of JSON numbers

A number is read into a significand of 64 bits and a power of ten. Once the
significand is full, further whole digits only raise the power and further
decimal digits change nothing. The number is refused when the product, rounded
to a binary64 value, is infinite.
-/

namespace SecretAccess.Json

structure Magnitude where
  significand : Nat
  exponent : Int
deriving DecidableEq, Repr

def digitValue (c : Char) : Nat := c.toNat - '0'.toNat

namespace Magnitude

def fits (significand : Nat) : Bool := significand < Nat.pow 2 64

def takeWhole (significand : Nat) : List Char → Magnitude
  | [] => ⟨significand, 0⟩
  | c :: cs =>
    let extended := significand * 10 + digitValue c
    if fits extended then takeWhole extended cs else ⟨significand, (c :: cs).length⟩

def takeDecimals (m : Magnitude) : List Char → Magnitude
  | [] => m
  | c :: cs =>
    let extended := m.significand * 10 + digitValue c
    if fits extended then takeDecimals ⟨extended, m.exponent - 1⟩ cs else m

def scale (m : Magnitude) (power : Int) : Magnitude := { m with exponent := m.exponent + power }

/-- The nearest integer with at most 53 significant bits, a tie to the even one. -/
def round53 (n : Nat) : Nat :=
  if n < Nat.pow 2 53 then n
  else
    let unit := Nat.pow 2 (n.log2 - 52)
    let quotient := n / unit
    let rest := 2 * (n % unit)
    if unit < rest || (rest = unit && quotient % 2 = 1) then (quotient + 1) * unit
    else quotient * unit

/-- The least integer that no finite binary64 value is nearest to. -/
def overflow : Nat := Nat.pow 2 1024 - Nat.pow 2 970

def inRange (m : Magnitude) : Bool :=
  m.significand = 0 || m.exponent < 0 ||
    (m.exponent ≤ 308 && round53 m.significand * round53 (Nat.pow 10 m.exponent.toNat) < overflow)

end Magnitude

/-- The value of a number given by its digits and the power behind its `e`. -/
def magnitude (whole decimals : List Char) (power : Int) : Magnitude :=
  ((Magnitude.takeWhole 0 whole).takeDecimals decimals).scale power

end SecretAccess.Json
