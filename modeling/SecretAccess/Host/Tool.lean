import SecretAccess.Host.FileTree

/-!
# Running other programs

What starting another program can come to. How a program behaves is a
parameter of everything that starts one, so that what is shown of it holds
whatever the program does. It has streams of its own: what it is given to read
it reads from the first, and nobody sees what it puts on the second.
-/

namespace SecretAccess.Host

structure Invocation where
  program : String
  arguments : List String
  input : String
  /-- The variables that the program is given. -/
  environment : List (String × String)
deriving DecidableEq, Repr

/-- What comes of a program, with the files as it leaves them. -/
inductive ToolOutcome where
  | notStarted (f : Fault)
  /-- The program was started, but did not take all that it was given to read.
  Nobody waits for it then. -/
  | inputRefused (tree : FileTree) (f : Fault)
  /-- The program took what it was given, but how it ended could not be learnt. -/
  | lost (tree : FileTree) (f : Fault)
  /-- The program ended: whether it was successful, and what it said on its error
  stream. -/
  | ended (tree : FileTree) (successful : Bool) (errors : List UInt8)
deriving DecidableEq, Repr

abbrev Tool := FileTree → Invocation → ToolOutcome

/-- Finds a program by name in the directories of a search path. -/
def FileTree.which (t : FileTree) (searchPath : List String) (name : String) : Option String :=
  (searchPath.map (Path.join · name)).find? t.isExecutable

end SecretAccess.Host
