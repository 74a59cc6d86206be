import SecretAccess.Text.Utf8

/-!
# Paths

A path is a text; what it leads to is read off its bytes. Names are separated
by slashes, and a slash at the end asks for a directory.
-/

namespace SecretAccess.Host

/-- The name of one entry of a directory, in bytes. -/
abbrev FileName := List UInt8

namespace Path

def slash : UInt8 := 47

def join (directory name : String) : String :=
  if directory.isEmpty then name
  else if directory.toList.getLast? = some '/' then directory ++ name
  else directory ++ "/" ++ name

/-- The pieces between the slashes, some of them empty. -/
def pieces : List UInt8 → List FileName
  | [] => [[]]
  | b :: bytes =>
    if b = slash then [] :: pieces bytes
    else
      match pieces bytes with
      | [] => [[b]]
      | piece :: rest => (b :: piece) :: rest

def here : FileName := [46]

def parent : FileName := [46, 46]

def names (bytes : List UInt8) : List FileName := (pieces bytes).filter (!·.isEmpty)

/-- The step that a slash at the end adds: what stands before it has to be a
directory. -/
def inside : FileName := []

def steps (bytes : List UInt8) : List FileName :=
  if bytes.getLast? = some slash then names bytes ++ [inside] else names bytes

def isAbsolute (bytes : List UInt8) : Bool := bytes.head? = some slash

def isHidden (name : String) : Bool := name.toList.head? = some '.'

end Path

end SecretAccess.Host
