import SecretAccess.Host.Listing
import SecretAccess.Run

/-!
# The command line

Standard input lists the paths below the working directory, one a line. The
files among them are read, the run is carried out on the tree they make, and
the files it changed are written. No other program is started, so graphs are
written in DOT only.
-/

namespace SecretAccess.Main

partial def linesOf (input : IO.FS.Stream) : IO (List String) := do
  let line ← input.getLine
  if line.isEmpty then return []
  return line :: (← linesOf input)

/-- What cannot be read as a file is taken for a directory. -/
def listed (path : String) : IO Host.Listed := do
  let .ok contents ← (IO.FS.readBinFile path).toBaseIO | return ⟨path, none⟩
  return ⟨path, some contents.toList⟩

def listing (input : IO.FS.Stream) : IO (List Host.Listed) := do
  (← linesOf input).mapM fun line => listed (line.dropEndWhile (· = '\n')).toString

def setting (name : String) : IO (Option (String × String)) := do
  return (← IO.getEnv name).map (name, ·)

def environment : IO Environment := do
  return ⟨(← Environment.names.mapM setting).filterMap id⟩

def write (change : String × List UInt8) : IO Unit :=
  IO.FS.writeBinFile change.1 change.2.toByteArray

def run (args : List String) : IO UInt32 := do
  let working := (← IO.getEnv "PWD").getD "/"
  let tree := Host.FileTree.ofListing working (← listing (← IO.getStdin))
  let world : Run.World := ⟨tree, ← environment, fun _ _ => .notStarted .notFound⟩
  let result := SecretAccess.Run.run world .brief args
  (tree.changes result.tree).forM write
  (← IO.getStdout).putStr result.output
  (← IO.getStderr).putStr result.errors
  return result.exit.toUInt32

end SecretAccess.Main

def main (args : List String) : IO UInt32 := SecretAccess.Main.run args
