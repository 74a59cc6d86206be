import SecretAccess.Text.Utf8

/-!
# Octets

Some texts are taken apart without regard to their encoding. Each character of
such a text stands for one octet.
-/

namespace SecretAccess.Text

abbrev Octets := List Char

namespace Octets

def ofBytes (bytes : List UInt8) : Octets := bytes.map fun b => Char.ofNat b.toNat

def toBytes (o : Octets) : List UInt8 := o.map fun c => c.toNat.toUInt8

def ofString (s : String) : Octets := ofBytes (Utf8.encode s)

/-- The text that the octets encode, as far as they do. -/
def toText (o : Octets) : String := Utf8.decodeLossy (toBytes o)

/-- The lines of a text. The last one counts even if nothing closes it. -/
def lines (o : Octets) : List Octets :=
  let pieces := o.splitOn '\n'
  if pieces.getLast? = some [] then pieces.dropLast else pieces

/-- Closes every line. -/
def unlines (ls : List Octets) : Octets := ls.flatMap (· ++ ['\n'])

/-- Whether a text stands in front of another one, or is the same. -/
def le (a b : Octets) : Bool := (compare a b).isLE

end Octets

end SecretAccess.Text
