/-!
# Ranges of characters

Classes of characters are given by ranges of code points with both ends
included.
-/

namespace SecretAccess.Text

def isBetween (c : Char) (low high : Nat) : Bool := low ≤ c.toNat && c.toNat ≤ high

def within (ranges : List (Nat × Nat)) (c : Char) : Bool :=
  ranges.any fun r => isBetween c r.1 r.2

end SecretAccess.Text
