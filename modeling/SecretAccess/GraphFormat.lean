/-!
# Graph formats

The formats a graph can be written in. DOT is written directly, the others are
drawn by graphviz. A format is named in any letter case.
-/

namespace SecretAccess

inductive GraphFormat where
  | png
  | svg
  | pdf
  | dot
deriving DecidableEq, Repr

namespace GraphFormat

def all : List GraphFormat := [png, svg, pdf, dot]

def extension : GraphFormat → String
  | png => "png"
  | svg => "svg"
  | pdf => "pdf"
  | dot => "dot"

def needsGraphviz : GraphFormat → Bool
  | dot => false
  | png | svg | pdf => true

def named? (name : String) : Option GraphFormat := all.find? (·.extension = name)

/-- The letters of ASCII in lower case, all else as it is. -/
def lower (text : String) : String := String.ofList (text.toList.map Char.toLower)

def parse? (text : String) : Option GraphFormat := named? (lower text)

def refusal (text : String) : String :=
  "unsupported format '" ++ lower text ++ "' (expected png, svg, pdf or dot)"

end GraphFormat

end SecretAccess
