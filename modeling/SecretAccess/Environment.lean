import SecretAccess.Display.Theme
import SecretAccess.Host.Path
import SecretAccess.Text.Terminal

/-!
# The environment

The variables that matter, and what they say about colours. Output is styled
when it is forced and nothing speaks against it: even an empty `NO_COLOR` keeps
output plain. Usage messages and log lines look for a value in it, and usage
messages take any value at all for force.
-/

namespace SecretAccess

open Host (Path.join)

structure Environment where
  bindings : List (String × String)
deriving DecidableEq, Repr

namespace Environment

def get? (e : Environment) (name : String) : Option String := e.bindings.lookup name

def rootVariable : String := "SOPS_ACL_ROOT"

def logVariable : String := "SOPS_ACL_LOG"

def pathVariable : String := "PATH"

def homeVariable : String := "HOME"

/-- The variables that a run looks at. -/
def names : List String :=
  [rootVariable, logVariable, pathVariable, homeVariable, "CLICOLOR_FORCE", "NO_COLOR"]

def root? (e : Environment) : Option String := e.get? rootVariable

def home? (e : Environment) : Option String := (e.get? homeVariable).filter (· ≠ "")

/-- A directory whose first name is a tilde lies in the home directory. -/
def expandHome (home : Option String) (directory : String) : String :=
  match home, directory.toList.splitOn '/' with
  | some home, ['~'] :: names =>
    ((names.map String.ofList).filter fun name => name ≠ "" && name ≠ ".").foldl Path.join home
  | _, _ => directory

/-- The directories in which programs are looked for. An empty name stands for
the working directory. -/
def searchPath (e : Environment) : List String :=
  match e.get? pathVariable with
  | some value => (value.toList.splitOn ':').map fun name => expandHome e.home? (String.ofList name)
  | none => []

/-- Whether a variable is set to anything but nothing. -/
def hasValue (e : Environment) (name : String) : Bool :=
  match e.get? name with
  | some value => value ≠ ""
  | none => false

def forcesColour (e : Environment) : Bool :=
  match e.get? "CLICOLOR_FORCE" with
  | some value => value ≠ "0"
  | none => false

def outputTheme (e : Environment) (basic : Bool) : Display.Theme :=
  if e.forcesColour && (e.get? "NO_COLOR").isNone && !basic then .rich else .plain

def stylesUsage (e : Environment) : Bool := e.hasValue "CLICOLOR_FORCE" && !e.hasValue "NO_COLOR"

/-- A usage message on its way out: styled, or reduced to what shows of it. -/
def usageText (e : Environment) (text : String) : String :=
  if e.stylesUsage then text else Text.Terminal.shown text

def logTheme (e : Environment) : Display.Theme := if e.hasValue "NO_COLOR" then .plain else .rich

end Environment

end SecretAccess
