import SecretAccess.GraphFormat
import SecretAccess.Host.FileTree
import SecretAccess.Text.Blank
import SecretAccess.Toml.Reader

/-!
# Configuration

A configuration file may set any of four values; what it leaves out keeps its
default, and members it does not know are passed over. A section may also be an
array, which gives its values by position. Only a configuration that is usable
is accepted, and it keeps the spelling of its graph format.
-/

namespace SecretAccess

open Host (Fault FileTree)

structure Config where
  root : Option String
  keyTypes : List String
  graphFormat : String
  graphOutput : String
deriving DecidableEq, Repr

/-- Why a value cannot be used. -/
inductive InvalidValue where
  | noKeyTypes
  | blankKeyType
  | unknownFormat (text : String)
  | blankConfiguredOutput
  | blankChosenOutput
deriving DecidableEq, Repr

namespace InvalidValue

def field : InvalidValue → String
  | noKeyTypes | blankKeyType => "keys.types"
  | unknownFormat _ => "graph.format"
  | blankConfiguredOutput => "graph.output"
  | blankChosenOutput => "graph-output"

def reason : InvalidValue → String
  | noKeyTypes => "at least one key type is required"
  | blankKeyType => "key types cannot be empty"
  | unknownFormat text => GraphFormat.refusal text
  | blankConfiguredOutput => "output name cannot be empty"
  | blankChosenOutput => "must not be empty"

def message (v : InvalidValue) : String :=
  "invalid value for " ++ v.field ++ ": " ++ v.reason

end InvalidValue

inductive ConfigError where
  | unreadable (f : Fault)
  | unparsable
  | invalid (v : InvalidValue)
deriving DecidableEq, Repr

/-- The message for an error; `detail` words what is wrong with a text. -/
def ConfigError.message (detail : String) : ConfigError → String
  | unreadable f => "failed to read config file: " ++ f.message
  | unparsable => "failed to parse config file: " ++ detail
  | invalid v => v.message

namespace Config

def fileName : String := ".sops-acl.toml"

def default : Config := ⟨none, ["age"], "png", "sops_hierarchy"⟩

instance : Inhabited Config := ⟨default⟩

/-- The values that a document sets. -/
structure Overlay where
  root : Option String
  keyTypes : Option (List String)
  graphFormat : Option String
  graphOutput : Option String
deriving DecidableEq, Repr

def overlay (c : Config) (o : Overlay) : Config where
  root := o.root.or c.root
  keyTypes := o.keyTypes.getD c.keyTypes
  graphFormat := o.graphFormat.getD c.graphFormat
  graphOutput := o.graphOutput.getD c.graphOutput

def text : Toml → Option String
  | .string s => some s
  | _ => none

def texts : Toml → Option (List String)
  | .array items => items.mapM text
  | _ => none

/-- Reads a member that may be missing; the wrong type is a failure. -/
def optional (read : Toml → Option α) : Option Toml → Option (Option α)
  | none => some none
  | some v => (read v).map some

/-- Finds the members of a section by name or by position. A date is a section
without any of them. -/
def section? (names : List String) : Option Toml → Option (List (Option Toml))
  | none => some (names.map fun _ => none)
  | some (.table members) => some (names.map fun name => members.lookup name)
  | some (.array items) => some (names.zipIdx.map fun (_, i) => items[i]?)
  | some (.date _) => some (names.map fun _ => none)
  | some _ => none

def member (values : List (Option Toml)) (index : Nat) : Option Toml := (values[index]?).join

def Overlay.ofToml (document : List (String × Toml)) : Option Overlay := do
  let root ← optional text (document.lookup "root")
  let keys ← section? ["types"] (document.lookup "keys")
  let keyTypes ← optional texts (member keys 0)
  let graph ← section? ["format", "output"] (document.lookup "graph")
  let graphFormat ← optional text (member graph 0)
  let graphOutput ← optional text (member graph 1)
  some { root, keyTypes, graphFormat, graphOutput }

def format (c : Config) : Except InvalidValue GraphFormat :=
  match GraphFormat.parse? c.graphFormat with
  | some f => .ok f
  | none => .error (.unknownFormat c.graphFormat)

def validate (c : Config) : Except InvalidValue Unit := do
  if c.keyTypes.isEmpty then .error .noKeyTypes
  if c.keyTypes.any Text.isBlankText then .error .blankKeyType
  let _ ← c.format
  if Text.isBlankText c.graphOutput then .error .blankConfiguredOutput

def check (c : Config) : Except ConfigError Config :=
  match c.validate with
  | .ok _ => .ok c
  | .error v => .error (.invalid v)

def ofToml (document : List (String × Toml)) : Except ConfigError Config :=
  match Overlay.ofToml document with
  | some o => (default.overlay o).check
  | none => .error .unparsable

def parse (contents : String) : Except ConfigError Config :=
  match Toml.parse? contents with
  | some document => ofToml document
  | none => .error .unparsable

def read (tree : FileTree) (path : String) : Except ConfigError Config :=
  match tree.readText path with
  | .ok contents => parse contents
  | .error f => .error (.unreadable f)

/-- The file that is named, or the usual one if it exists. -/
def file? (tree : FileTree) (explicit : Option String) : Option String :=
  match explicit with
  | some path => some path
  | none => if tree.pathExists fileName then some fileName else none

def load (tree : FileTree) (explicit : Option String) : Except ConfigError Config :=
  match file? tree explicit with
  | some path => read tree path
  | none => .ok default

end Config

end SecretAccess
