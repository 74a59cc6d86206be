import SecretAccess.Host.FileTree
import SecretAccess.Json.Reader

/-!
# Key files

A key file is a JSON array of objects. A record counts when its `type` is one
of the recognised types; its `publickey` is then a key, and must be there.
Records of other types may hold anything. Of a repeated member the last value
counts.
-/

namespace SecretAccess.KeyFile

open Host (Fault FileTree)

abbrev Record := List (String × Json)

def fileName : String := "key.json"

inductive Problem where
  | malformed (d : Json.Defect)
  /-- The record of this index, counted over all records from zero. -/
  | missingPublicKey (index : Nat)
deriving DecidableEq, Repr

def lastMember (name : String) (r : Record) : Option Json := r.reverse.lookup name

def text? (name : String) (r : Record) : Option String := (lastMember name r).bind Json.string?

def isRecognised (types : List String) (r : Record) : Bool :=
  match text? "type" r with
  | some type => types.contains type
  | none => false

/-- The keys of the records from `index` on. -/
def keysFrom (types : List String) (index : Nat) : List Record → Except Problem (List String)
  | [] => .ok []
  | r :: rs =>
    if isRecognised types r then
      match text? "publickey" r with
      | some key => (keysFrom types (index + 1) rs).map (key :: ·)
      | none => .error (.missingPublicKey index)
    else keysFrom types (index + 1) rs

def parse (types : List String) (contents : String) : Except Problem (List String) :=
  match Json.parseObjects contents with
  | .error d => .error (.malformed d)
  | .ok records => keysFrom types 0 records

inductive Error where
  | unreadable (path : String) (f : Fault)
  | unusable (path : String) (p : Problem)
deriving DecidableEq, Repr

/-- The message for an error; `detail` words a defect of the JSON text. -/
def Error.message (detail : Json.Defect → String) : Error → String
  | unreadable path f => "failed to read " ++ path ++ ": " ++ f.message
  | unusable path (.malformed d) => "malformed key file " ++ path ++ ": " ++ detail d
  | unusable path (.missingPublicKey index) =>
    "malformed key file " ++ path ++ ": record " ++ index.repr ++ " has no publickey"

def parseAt (path : String) (types : List String) (contents : String) :
    Except Error (List String) :=
  (parse types contents).mapError (.unusable path)

def load (tree : FileTree) (path : String) (types : List String) : Except Error (List String) :=
  match tree.readText path with
  | .error f => .error (.unreadable path f)
  | .ok contents => parseAt path types contents

/-- What loading a key file comes to: no keys if there is no file, and none with
a warning if it cannot be used. -/
inductive Loading where
  | missing
  | loaded (keys : List String)
  | failed (e : Error)
deriving DecidableEq, Repr

def Loading.keys : Loading → List String
  | loaded keys => keys
  | missing | failed _ => []

def attempt (tree : FileTree) (path : String) (types : List String) : Loading :=
  if tree.pathExists path then
    match load tree path types with
    | .ok keys => .loaded keys
    | .error e => .failed e
  else .missing

def loadOrEmpty (tree : FileTree) (path : String) (types : List String) : List String :=
  (attempt tree path types).keys

end SecretAccess.KeyFile
