import SecretAccess.Host.FileTree
import SecretAccess.Text.Octets

/-!
# Processes

What a running script has before it: the files, and the channels that it reads
from and writes to by number. Several numbers can stand for one channel, and
then share how far it has been read or written. Processes are there for the
programs of a host of scripts, which stand in for those that draw graphs.
-/

namespace SecretAccess.Host

open Text (Octets)

/-- What can be read from or written to. -/
inductive Channel where
  /-- Holds what has been written to it and not been read from it. -/
  | pipe (content : Octets)
  /-- A file, and the place in it that is next; or its end, for writing. -/
  | file (place : Location) (offset : Nat) (appends : Bool)
  | device (d : Device)
deriving DecidableEq, Repr

structure Process where
  tree : FileTree
  /-- All channels that were ever opened. -/
  channels : Array Channel
  /-- Which channel each number stands for. -/
  descriptors : List (Nat × Nat)
  environment : List (String × Octets)
deriving DecidableEq, Repr

/-- What a file is opened for. -/
inductive Direction where
  | read
  | write
  /-- Writes even where a file is not to be replaced. -/
  | replace
  | append
  | both
deriving DecidableEq, Repr

namespace Process

def bind (p : Process) (number channel : Nat) : Process :=
  { p with descriptors := (number, channel) :: p.descriptors.filter (·.1 ≠ number) }

def close (p : Process) (number : Nat) : Process :=
  { p with descriptors := p.descriptors.filter (·.1 ≠ number) }

/-- Opens a channel without a number. -/
def addChannel (p : Process) (c : Channel) : Process × Nat :=
  ({ p with channels := p.channels.push c }, p.channels.size)

/-- Opens a channel under a number. -/
def supply (p : Process) (number : Nat) (c : Channel) : Process :=
  let (p, channel) := p.addChannel c
  p.bind number channel

def channel? (p : Process) (number : Nat) : Option (Nat × Channel) :=
  (p.descriptors.lookup number).bind fun i => (p.channels[i]?).map (i, ·)

def setChannel (p : Process) (i : Nat) (c : Channel) : Process :=
  { p with channels := p.channels.setIfInBounds i c }

/-- The content of a pipe that was opened before. -/
def contentOf (p : Process) (i : Nat) : Octets :=
  match p.channels[i]? with
  | some (.pipe content) => content
  | _ => []

def contentAt (p : Process) (l : Location) : List UInt8 :=
  match p.tree.node? l with
  | some (.file contents _) => contents
  | some (.program _) => FileTree.machineCode
  | _ => []

def setContentAt (p : Process) (l : Location) (contents : List UInt8) : Process :=
  match p.tree.node? l with
  | some (.file _ executable) =>
    { p with tree := p.tree.put l (.file contents executable) }
  | _ => p

/-- Writes into bytes from an offset on, with nothing but zeros in a gap. -/
def overwrite (before : List UInt8) (offset : Nat) (content : List UInt8) : List UInt8 :=
  before.take offset ++ List.replicate (offset - before.length) 0 ++ content ++
    before.drop (offset + content.length)

def write (p : Process) (number : Nat) (content : Octets) : Except Fault Process :=
  match p.channel? number with
  | none => .error .badDescriptor
  | some (i, .pipe before) => .ok (p.setChannel i (.pipe (before ++ content)))
  | some (i, .file place offset appends) =>
    let before := p.contentAt place
    let offset := if appends then before.length else offset
    let p := p.setContentAt place (overwrite before offset (Octets.toBytes content))
    .ok (p.setChannel i (.file place (offset + content.length) appends))
  | some (_, .device .full) => if content.isEmpty then .ok p else .error .noSpace
  | some (_, .device _) => .ok p

/-- What a channel still has to read. -/
def pending (p : Process) (number : Nat) : Except Fault Octets :=
  match p.channel? number with
  | none => .error .badDescriptor
  | some (_, .pipe content) => .ok content
  | some (_, .file place offset _) =>
    if p.tree.isDirectoryAt place then .error .isADirectory
    else .ok (Octets.ofBytes ((p.contentAt place).drop offset))
  | some (_, .device _) => .ok []

/-- Passes over the next octets of a channel. -/
def consume (p : Process) (number count : Nat) : Process :=
  match p.channel? number with
  | some (i, .pipe content) => p.setChannel i (.pipe (content.drop count))
  | some (i, .file place offset appends) => p.setChannel i (.file place (offset + count) appends)
  | _ => p

/-- Reads all that there is. -/
def readAll (p : Process) (number : Nat) : Except Fault (Octets × Process) := do
  let content ← p.pending number
  .ok (content, p.consume number content.length)

def streamNumber : Stream → Nat
  | .input => 0
  | .output => 1
  | .errors => 2

/-- Opens what is at a place. Writing to a file starts with nothing in it. -/
def openAt (p : Process) (d : Direction) (l : Location) : Except Fault (Process × Nat) :=
  match p.tree.node? l with
  | some (.device (.stream s)) =>
    match p.descriptors.lookup (streamNumber s) with
    | some channel => .ok (p, channel)
    | none => .error .notFound
  | some (.device device) => .ok (p.addChannel (.device device))
  | some (.link _) => .error .tooManyLinks
  | some .directory =>
    if d = .read then .ok (p.addChannel (.file l 0 false)) else .error .isADirectory
  | some (.file ..) =>
    let p := if d = .write || d = .replace then p.setContentAt l [] else p
    .ok (p.addChannel (.file l 0 (d = .append)))
  | some (.program _) => .ok (p.addChannel (.file l 0 false))
  | none =>
    if d = .read then .error .notFound
    else
      ({ p with tree := p.tree.put l (.file [] false) } : Process).addChannel
        (.file l 0 (d = .append)) |> .ok

def openFile (p : Process) (d : Direction) (path : Octets) : Except Fault (Process × Nat) := do
  let purpose := if d = .read then FileTree.Purpose.use else .write
  p.openAt d (← p.tree.locate purpose (Octets.toText path))

/-- The content of a file, which is opened and closed for it. -/
def readFile (p : Process) (path : Octets) : Except Fault (Octets × Process) := do
  let (opened, channel) ← p.openFile .read path
  let (content, read) ← (opened.bind 0 channel).readAll 0
  .ok (content, { read with descriptors := p.descriptors })

/-- What a process that has ended leaves to the one that started it. -/
def returnTo (p before : Process) : Process :=
  { p with
    descriptors := before.descriptors
    environment := before.environment
    tree := { p.tree with working := before.tree.working } }

end Process

end SecretAccess.Host
