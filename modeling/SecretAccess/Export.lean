import SecretAccess.Environment
import SecretAccess.Host.Tool
import SecretAccess.Log

/-!
# Exporting the graph

The DOT source is written as it is, or handed to graphviz to be drawn. Nothing
but the files and the outcome tells of an export.
-/

namespace SecretAccess.Export

open Host
open Log (Event)

inductive Problem where
  | toolMissing
  | unwritable (f : Fault)
  | toolNotStarted (f : Fault)
  | toolFailed (errors : String)
deriving DecidableEq, Repr

def Problem.message : Problem → String
  | toolMissing => "graphviz `dot` executable not found"
  | unwritable f => "failed to write graph: " ++ f.message
  | toolNotStarted f => "graphviz failed: failed to spawn dot: " ++ f.message
  | toolFailed errors => "graphviz failed: " ++ errors

def program : String := "dot"

def path (format : GraphFormat) (output : String) : String := output ++ "." ++ format.extension

/-- How an export ended, the files as it left them, what it put on a stream, and
what was reported. -/
structure Outcome where
  problem : Option Problem
  tree : FileTree
  shown : Option (Stream × String)
  events : List Event
deriving DecidableEq, Repr

def writeSource (tree : FileTree) (source path : String) : Outcome :=
  match tree.write path (Text.Utf8.encode source) with
  | .ok (.stored tree) => ⟨none, tree, none, [.sourceWritten path]⟩
  | .ok (.shown stream) => ⟨none, tree, some (stream, source), [.sourceWritten path]⟩
  | .error f => ⟨some (.unwritable f), tree, none, []⟩

def invocation (e : Environment) (program source : String) (format : GraphFormat)
    (path : String) : Invocation :=
  ⟨program, ["-T" ++ format.extension, "-o", path], source, e.bindings⟩

def draw (tool : Tool) (e : Environment) (tree : FileTree) (program source : String)
    (format : GraphFormat) (path : String) : Outcome :=
  let started := Event.runningGraphviz program format
  match tool tree (invocation e program source format path) with
  | .notStarted f => ⟨some (.toolNotStarted f), tree, none, [started]⟩
  | .inputRefused tree f => ⟨some (.unwritable f), tree, none, [started]⟩
  | .lost tree f =>
    ⟨some (.toolFailed ("dot command failed: " ++ f.message)), tree, none, [started]⟩
  | .ended tree true _ => ⟨none, tree, none, [started, .graphRendered path]⟩
  | .ended tree false errors =>
    ⟨some (.toolFailed (Text.trim (Text.Utf8.decodeLossy errors))), tree, none, [started]⟩

def run (tool : Tool) (e : Environment) (tree : FileTree) (source : String)
    (format : GraphFormat) (output : String) : Outcome :=
  let path := path format output
  if format.needsGraphviz then
    match tree.which e.searchPath program with
    | some program => draw tool e tree program source format path
    | none => ⟨some .toolMissing, tree, none, []⟩
  else writeSource tree source path

end SecretAccess.Export
