import SecretAccess.Host.Fault
import SecretAccess.Host.Path

/-!
# File trees

A tree is the list of what exists, each entry at its location, and the working
directory from which relative paths start. Symbolic links are followed on the
way, and at the end of a path too; a walk that meets more than forty of them
is given up.

A tree is seen by one program, the one that runs: it says what this is refused,
and what its streams are connected to. Reading changes nothing, not even for a
pipe, and what would never end, such as reading from a terminal that nobody
closes, is left out.
-/

namespace SecretAccess.Host

abbrev Location := List FileName

/-- The streams that every program starts with. -/
inductive Stream where
  | input
  | output
  | errors
deriving DecidableEq, Repr

inductive Device where
  /-- Always empty; keeps nothing of what is written. -/
  | null
  /-- Has no room for anything; reading it never comes to an end. -/
  | full
  /-- Whatever the stream of the running program is connected to. -/
  | stream (s : Stream)
deriving DecidableEq, Repr

inductive Node where
  | directory
  | file (contents : List UInt8) (executable : Bool)
  | link (target : List UInt8)
  | device (d : Device)
  /-- A program that belongs to the host. -/
  | program (name : String)
deriving DecidableEq, Repr

/-- What a stream is connected to. -/
inductive Connection where
  /-- A pipe or a terminal. What is written by name follows what was written
  before; whoever reads by name finds these contents. -/
  | pipe (contents : List UInt8)
  /-- It is used as it is, and cannot be opened by name. -/
  | socket
  /-- A file, which is what a name for the stream stands for. -/
  | file (place : Location)
deriving DecidableEq, Repr

structure Streams where
  input : Connection := .pipe []
  output : Connection := .pipe []
  errors : Connection := .pipe []
deriving DecidableEq, Repr

def Streams.get (streams : Streams) : Stream → Connection
  | .input => streams.input
  | .output => streams.output
  | .errors => streams.errors

/-- What can be granted or refused at a place. To search a directory is to go on
from it. -/
inductive Right where
  | read
  | write
  | search
deriving DecidableEq, Repr

structure FileTree where
  entries : List (Location × Node)
  working : Location
  /-- What is refused to the running program, and where. -/
  denied : List (Location × Right) := []
  streams : Streams := {}
deriving DecidableEq, Repr

namespace FileTree

def node? (t : FileTree) : Location → Option Node
  | [] => some .directory
  | l => t.entries.lookup l

def isDirectoryAt (t : FileTree) (l : Location) : Bool := t.node? l = some .directory

def denies (t : FileTree) (right : Right) (l : Location) : Bool := t.denied.contains (l, right)

/-- Where something is found that has its name at a location: there, unless it is
a stream that is connected to a file. -/
def opened (t : FileTree) (l : Location) : Location :=
  match t.node? l with
  | some (.device (.stream s)) =>
    match t.streams.get s with
    | .file place => place
    | .pipe _ | .socket => l
  | _ => l

def maxName : Nat := 255

def maxPath : Nat := 4096

def maxLinks : Nat := 40

/-- Whether an entry of a directory can have this name. -/
def isName (name : FileName) : Bool :=
  name ∉ [Path.inside, Path.here, Path.parent] && Path.slash ∉ name && 0 ∉ name &&
    name.length ≤ maxName

/-- The names below a directory, in the order in which the host lists them. -/
def childrenAt (t : FileTree) (l : Location) : List FileName :=
  (t.entries.filterMap fun e =>
    if e.1.dropLast = l && !e.1.isEmpty then e.1.getLast? else none).filter isName

def put (t : FileTree) (l : Location) (n : Node) : FileTree :=
  if (t.entries.lookup l).isSome then
    { t with entries := t.entries.map fun e => if e.1 = l then (l, n) else e }
  else { t with entries := t.entries ++ [(l, n)] }

def remove (t : FileTree) (l : Location) : FileTree :=
  { t with entries := t.entries.filter (·.1 ≠ l), denied := t.denied.filter (·.1 ≠ l) }

def startOf (t : FileTree) (bytes : List UInt8) : Location :=
  if Path.isAbsolute bytes then [] else t.working

/-- Whether a step from a directory is refused. A slash at the end is no step. -/
def bars (t : FileTree) (here : Location) (name : FileName) : Bool :=
  name ≠ Path.inside && t.denies .search here

/-- What a path is followed for. -/
inductive Purpose where
  | use
  | write
deriving DecidableEq, Repr

/-- Follows the steps of a path from a location. Every directory on the way is
searched, but not the one that a slash at the end asks for. The last step may
lead to where nothing is yet. A path that is to be written does not end in a
slash, and neither does a link at its end. -/
def walk (t : FileTree) (purpose : Purpose) (links : Nat) (here : Location) :
    List FileName → Except Fault Location
  | [] => .ok here
  | name :: rest =>
    if !t.isDirectoryAt here then
      .error (if (t.node? here).isSome then .notADirectory else .notFound)
    else if t.bars here name then .error .permissionDenied
    else if name = Path.inside || name = Path.here then t.walk purpose links here rest
    else if name = Path.parent then t.walk purpose links here.dropLast rest
    else if purpose = .write && rest = [Path.inside] then .error .isADirectory
    else if maxName < name.length then .error .nameTooLong
    else
      match t.node? (here ++ [name]) with
      | none => if rest.isEmpty then .ok (here ++ [name]) else .error .notFound
      | some (.link target) =>
        match links with
        | 0 => .error .tooManyLinks
        | links + 1 =>
          let start := if Path.isAbsolute target then [] else here
          t.walk purpose links start (Path.steps target ++ rest)
      | some _ => t.walk purpose links (t.opened (here ++ [name])) rest
termination_by steps => (links, steps.length)

def locate (t : FileTree) (purpose : Purpose) (path : String) : Except Fault Location :=
  let bytes := Text.Utf8.encode path
  if bytes.contains 0 then .error .nulInPath
  else if bytes.isEmpty then .error .notFound
  else if maxPath ≤ bytes.length then .error .nameTooLong
  else t.walk purpose maxLinks (t.startOf bytes) (Path.steps bytes)

/-- What a path leads to. -/
def find (t : FileTree) (path : String) : Except Fault (Location × Node) := do
  let l ← t.locate .use path
  match t.node? l with
  | some n => .ok (l, n)
  | none => .error .notFound

def pathExists (t : FileTree) (path : String) : Bool := (t.find path).isOk

def isDirectory (t : FileTree) (path : String) : Bool :=
  match t.find path with
  | .ok (_, .directory) => true
  | _ => false

/-- Whether a path leads to a file that may be run. -/
def isExecutable (t : FileTree) (path : String) : Bool :=
  match t.find path with
  | .ok (_, .file _ executable) => executable
  | .ok (_, .program _) => true
  | _ => false

def list (t : FileTree) (path : String) : Except Fault (List FileName) := do
  match ← t.find path with
  | (l, .directory) => if t.denies .read l then .error .permissionDenied else .ok (t.childrenAt l)
  | _ => .error .notADirectory

/-- The octets that stand for a program of the host; they are no text. -/
def machineCode : List UInt8 := [0x7F, 0x45, 0x4C, 0x46, 0x80]

/-- What is read from something once it has been opened. A file that never ends
does not fit into memory. -/
def contents (t : FileTree) : Node → Except Fault (List UInt8)
  | .file contents _ => .ok contents
  | .program _ => .ok machineCode
  | .device .null => .ok []
  | .device .full => .error .outOfMemory
  | .device (.stream s) =>
    match t.streams.get s with
    | .pipe contents => .ok contents
    | .socket | .file _ => .error .noSuchDevice
  | .directory | .link _ => .error .isADirectory

def readBytes (t : FileTree) (path : String) : Except Fault (List UInt8) := do
  let (l, node) ← t.find path
  if t.denies .read l then .error .permissionDenied else t.contents node

def readText (t : FileTree) (path : String) : Except Fault String := do
  let bytes ← t.readBytes path
  match Text.Utf8.decode? bytes with
  | some text => .ok text
  | none => .error .notText

/-- What becomes of something written: it is in the tree, or on a stream. -/
inductive Written where
  | stored (tree : FileTree)
  | shown (s : Stream)
deriving DecidableEq, Repr

/-- What writing comes to where a path has led. -/
def writeAt (t : FileTree) (l : Location) (contents : List UInt8) : Node → Except Fault Written
  | .file _ executable => .ok (.stored (t.put l (.file contents executable)))
  | .program _ => .ok (.stored (t.put l (.file contents true)))
  | .device .null => .ok (.stored t)
  | .device .full => if contents.isEmpty then .ok (.stored t) else .error .noSpace
  | .device (.stream s) =>
    match t.streams.get s with
    | .pipe _ => .ok (.shown s)
    | .socket | .file _ => .error .noSuchDevice
  | .directory | .link _ => .error .isADirectory

/-- Replaces what a file holds, or makes a new one in a directory that exists. -/
def write (t : FileTree) (path : String) (contents : List UInt8) : Except Fault Written := do
  let l ← t.locate .write path
  match t.node? l with
  | none =>
    if t.denies .write l.dropLast then .error .permissionDenied
    else .ok (.stored (t.put l (.file contents false)))
  | some .directory => .error .isADirectory
  | some node =>
    if t.denies .write l then .error .permissionDenied else t.writeAt l contents node

/-- Directories that every host has. -/
def standardDirectories : List String :=
  ["/dev", "/dev/fd", "/etc", "/home", "/mnt", "/opt", "/proc", "/proc/self", "/proc/self/fd", "/root", "/sys", "/tmp", "/usr",
    "/usr/bin", "/usr/lib", "/usr/sbin", "/var"]

/-- Programs that every host has. -/
def standardPrograms : List String :=
  ["[", "base64", "basename", "bash", "cat", "chmod", "cksum", "cmp", "cp", "cut", "dash", "dd",
    "dirname", "echo", "egrep", "env", "expr", "false", "fgrep", "find", "fold", "grep", "head",
    "id", "ln", "ls", "mkdir", "mktemp", "mv", "nice", "nl", "nohup", "od", "paste", "printenv",
    "printf", "pwd", "readlink", "realpath", "rev", "rm", "rmdir", "sed", "seq", "sh", "sleep",
    "sort", "sync", "tac", "tail", "tee", "test", "timeout", "touch", "tr", "true", "truncate",
    "uname", "uniq", "unlink", "wc", "whoami", "xargs"]

/-- What else is there from the start: other names for directories, devices, and
a list of users. -/
def standardFiles : List (String × Node) :=
  [("/bin", .link (Text.Utf8.encode "usr/bin")), ("/lib", .link (Text.Utf8.encode "usr/lib")),
    ("/sbin", .link (Text.Utf8.encode "usr/sbin")), ("/dev/null", .device .null),
    ("/dev/full", .device .full), ("/dev/stdin", .device (.stream .input)),
    ("/dev/stdout", .device (.stream .output)), ("/dev/stderr", .device (.stream .errors)),
    ("/dev/fd/0", .device (.stream .input)), ("/dev/fd/1", .device (.stream .output)),
    ("/dev/fd/2", .device (.stream .errors)), ("/proc/self/fd/0", .device (.stream .input)),
    ("/proc/self/fd/1", .device (.stream .output)),
    ("/proc/self/fd/2", .device (.stream .errors)),
    ("/etc/passwd", .file (Text.Utf8.encode "root:x:0:0:root:/root:/bin/sh\n") false)]

def standard : List (Location × Node) :=
  (standardDirectories.map (·, Node.directory) ++ standardFiles ++
    standardPrograms.map fun name => ("/usr/bin/" ++ name, Node.program name)).map fun e =>
    (Path.names (Text.Utf8.encode e.1), e.2)

/-- The tree of a working directory with nothing in it. -/
def bare (working : Location) : FileTree :=
  (List.range working.length).foldl (fun t i => t.put (working.take (i + 1)) .directory)
    { entries := standard, working }

/-- Goes down from a location and makes the directories that are missing. -/
def descend (t : FileTree) (l : Location) : List FileName → FileTree × Location
  | [] => (t, l)
  | name :: rest =>
    match t.walk .use maxLinks l [name] with
    | .ok l =>
      if (t.node? l).isSome then t.descend l rest else (t.put l .directory).descend l rest
    | .error _ => (t, l)

def makeDirectory (t : FileTree) (path : List UInt8) : FileTree :=
  (t.descend (t.startOf path) (Path.names path)).1

/-- The place of a path, in directories that are made where they are missing. -/
def place? (t : FileTree) (path : List UInt8) : Option (FileTree × Location) :=
  (Path.names path).getLast?.map fun name =>
    let (t, l) := t.descend (t.startOf path) (Path.names path).dropLast
    (t, l ++ [name])

def makeLink (t : FileTree) (path target : List UInt8) : FileTree :=
  match t.place? path with
  | some (t, l) => t.put l (.link target)
  | none => t

/-- Makes a file. One that is there already can still be run if it could before. -/
def makeFile (t : FileTree) (path contents : List UInt8) : FileTree :=
  match t.place? path with
  | none => t
  | some (t, l) =>
    match t.walk .use maxLinks l.dropLast (l.drop (l.length - 1)) with
    | .error _ => t
    | .ok l =>
      match t.node? l with
      | some (.file _ executable) => t.put l (.file contents executable)
      | some _ => t
      | none => t.put l (.file contents false)

/-- Lets a file be run, or the file that a link leads to. -/
def makeExecutable (t : FileTree) (path : List UInt8) : FileTree :=
  match t.walk .use maxLinks (t.startOf path) (Path.steps path) with
  | .error _ => t
  | .ok l =>
    match t.node? l with
    | some (.file contents _) => t.put l (.file contents true)
    | _ => t

end FileTree

end SecretAccess.Host
