import SecretAccess.Host.Script.Run
import SecretAccess.Host.Tool

/-!
# Programs that are scripts

A host on which the programs that can be run are scripts, the shell that reads
them, and small programs that work on text and files. It stands in for the
starting of programs, so that a run that has its graph drawn can be carried out
on a file tree alone, and what comes of it compared. Nothing that is shown of
runs depends on it: there every program is allowed for (`Tool`).
-/

namespace SecretAccess.Host.Script

open Text (Octets)

/-- What a program starts with: its input on the first stream, and nothing yet
on the other two. The names for streams stand for its own. -/
def processOf (tree : FileTree) (call : Invocation) : Process where
  tree := { tree with streams := {} }
  channels := #[.pipe (Octets.ofString call.input), .pipe [], .pipe []]
  descriptors := [(0, 0), (1, 1), (2, 2)]
  environment := call.environment.map fun e => (e.1, Octets.ofString e.2)

/-- Where the input of a program is found that was started so. -/
def inputChannel : Nat := 0

/-- Where its errors are found. -/
def errorChannel : Nat := 2

/-- How much a pipe holds for a program that does not read. -/
def pipeSize : Nat := 65536

/-- What a program has come to that has ended. It has not taken its input if more
of this is left than a pipe holds. -/
def outcome (tree : FileTree) (e : Ending) : ToolOutcome :=
  let after := { e.process.tree with working := tree.working, streams := tree.streams }
  if pipeSize < (e.process.contentOf inputChannel).length then .inputRefused after .brokenPipe
  else .ended after (e.status = 0) (Octets.toBytes (e.process.contentOf errorChannel))

/-- The host as something that runs programs. -/
def run : Tool := fun tree call =>
  if call.arguments.any fun a => a.toList.contains '\x00' then .notStarted .nulInArgument
  else
    let path := Octets.ofString call.program
    match Program.load tree Program.maxDepth path (call.arguments.map Octets.ofString) with
    | .error f => .notStarted f
    | .ok image => outcome tree (runImage maxDepth (processOf tree call) image)

end SecretAccess.Host.Script
