/-!
# JSON documents

Members keep their order, and a number keeps the way it was written: nothing
here computes with numbers, so two spellings of one value stay apart.
-/

namespace SecretAccess

inductive Json where
  | null
  | bool (b : Bool)
  | number (spelling : String)
  | string (s : String)
  | array (items : List Json)
  | object (members : List (String × Json))
deriving Repr, Inhabited

namespace Json

def ofNat (n : Nat) : Json := .number n.repr

def strings (l : List String) : Json := .array (l.map .string)

/-- The text of a string; any other document has none. -/
def string? : Json → Option String
  | .string s => some s
  | _ => none

end Json

end SecretAccess
