import SecretAccess.CommandLine.Options
import SecretAccess.Config
import SecretAccess.Report

/-!
# Settings

What a run goes by: the command line before the configuration, and the
configuration before the defaults, each value for itself.
-/

namespace SecretAccess

open CommandLine (Request)

structure Settings where
  root : String
  keyTypes : List String
  graphFormat : GraphFormat
  graphOutput : String
deriving DecidableEq, Repr

namespace Settings

def defaultRoot : String := "./sops"

def chosenFormat (r : Request) (c : Config) : Except InvalidValue GraphFormat :=
  match r.graphFormat with
  | some f => .ok f
  | none => c.format

def resolve (r : Request) (c : Config) : Except InvalidValue Settings := do
  let graphFormat ← chosenFormat r c
  let graphOutput := r.graphOutput.getD c.graphOutput
  if Text.isBlankText graphOutput then .error .blankChosenOutput
  .ok
    { root := (r.root.or c.root).getD defaultRoot
      keyTypes := c.keyTypes
      graphFormat
      graphOutput }

end Settings

/-- The tree is shown unless another view is asked for. -/
def Selection.ofRequest (r : Request) : Selection where
  tree := r.all || !(r.table || r.keys || r.graph)
  matrix := r.all || r.table
  keys := r.all || r.keys
  graph := r.all || r.graph

end SecretAccess
