import SecretAccess.Hierarchy
import SecretAccess.Log

/-!
# Scanning a repository

The layout below a root says everything: directories in `users`, `machines`,
`groups` and `secrets` declare, and the names of entries below a group or a
secret are its members and grants, whatever the entries are. Names that begin
with a dot, or that are not text, are passed over; a directory that cannot be
listed has no entries.
-/

namespace SecretAccess.Scan

open Host
open Log (Event)

def groupsDirectory : String := "groups"

def secretsDirectory : String := "secrets"

/-- A result with what was reported on the way to it. -/
structure Reported (α : Type) where
  value : α
  events : List Event

namespace Reported

def all (rs : List (Reported (List α))) : Reported (List α) :=
  ⟨rs.flatMap (·.value), rs.flatMap (·.events)⟩

end Reported

/-- A name that is not text, as far as it can be shown. -/
def undecodable (directory : String) (name : Host.FileName) : Option Event :=
  match Text.Utf8.decode? name with
  | some _ => none
  | none => some (.nameSkipped (Path.join directory (Text.Utf8.decodeLossy name)))

def visible (names : List Host.FileName) : List String :=
  (names.filterMap Text.Utf8.decode?).filter (!Path.isHidden ·)

def entries (tree : FileTree) (directory : String) : Reported (List String) :=
  match tree.list directory with
  | .ok names =>
    ⟨(visible names).mergeSort (fun a b => decide (a ≤ b)), names.filterMap (undecodable directory)⟩
  | .error .notFound => ⟨[], []⟩
  | .error f => ⟨[], [.directorySkipped directory f]⟩

def subdirectories (tree : FileTree) (directory : String) : Reported (List String) :=
  let found := entries tree directory
  ⟨found.value.filter fun name => tree.isDirectory (Path.join directory name), found.events⟩

def keyFileEvents (path : String) : KeyFile.Loading → List Event
  | .missing => []
  | .loaded keys => [.keyFileLoaded path keys.length]
  | .failed e => [.keyFileSkipped e]

def principal (tree : FileTree) (types : List String) (kind : PrincipalKind)
    (directory name : String) : Reported (List Step) :=
  let path := Path.join (Path.join directory name) KeyFile.fileName
  let loading := KeyFile.attempt tree path types
  ⟨[.register ⟨kind, name⟩ loading.keys], keyFileEvents path loading⟩

def principals (tree : FileTree) (types : List String) (root : String) (kind : PrincipalKind) :
    Reported (List Step) :=
  let directory := Path.join root kind.directory
  let found := subdirectories tree directory
  .all (⟨[], found.events⟩ :: found.value.map (principal tree types kind directory))

/-- The principals of one kind that are named below a group or a secret. -/
def marked (tree : FileTree) (directory : String) (step : PrincipalId → Step)
    (kind : PrincipalKind) : Reported (List Step) :=
  let found := entries tree (Path.join directory kind.directory)
  ⟨found.value.map fun name => step ⟨kind, name⟩, found.events⟩

def group (tree : FileTree) (directory name : String) : Reported (List Step) :=
  .all (⟨[.declareGroup name], []⟩ ::
    PrincipalKind.all.map (marked tree (Path.join directory name) (.addMember name)))

def groups (tree : FileTree) (root : String) : Reported (List Step) :=
  let directory := Path.join root groupsDirectory
  let found := subdirectories tree directory
  .all (⟨[], found.events⟩ :: found.value.map (group tree directory))

def markedGroups (tree : FileTree) (directory secret : String) : Reported (List Step) :=
  let found := entries tree (Path.join directory groupsDirectory)
  ⟨found.value.map (.grantViaGroup secret), found.events⟩

def secret (tree : FileTree) (directory name : String) : Reported (List Step) :=
  let below := Path.join directory name
  .all (⟨[.declareSecret name], []⟩ ::
    PrincipalKind.all.map (marked tree below (.grantDirect name)) ++ [markedGroups tree below name])

def secrets (tree : FileTree) (root : String) : Reported (List Step) :=
  let directory := Path.join root secretsDirectory
  let found := subdirectories tree directory
  .all (⟨[], found.events⟩ :: found.value.map (secret tree directory))

/-- Everything that the layout declares, in the order in which it is met. -/
def steps (tree : FileTree) (root : String) (types : List String) : Reported (List Step) :=
  .all (PrincipalKind.all.map (principals tree types root) ++ [groups tree root, secrets tree root])

def hierarchy (tree : FileTree) (root : String) (types : List String) : Hierarchy :=
  .run (steps tree root types).value

def completion (root : String) (h : Hierarchy) : Event :=
  .scanComplete root (h.catalog.count .user) (h.catalog.count .machine) h.groups.size
    h.secrets.size

end SecretAccess.Scan
