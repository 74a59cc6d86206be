/-!
# TOML values

Integers are kept as numbers; other numbers and dates keep their spelling.
-/

namespace SecretAccess

inductive Toml where
  | string (s : String)
  | integer (n : Int)
  | float (spelling : String)
  | boolean (b : Bool)
  | date (spelling : String)
  | array (items : List Toml)
  | table (members : List (String × Toml))
deriving Repr, Inhabited

end SecretAccess
