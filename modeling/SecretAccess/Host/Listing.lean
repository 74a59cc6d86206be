import SecretAccess.Host.FileTree

/-!
# Listings of a file tree

A tree can be given as a list of paths, with contents for those that are
files. Afterwards it is enough to write the files that a run has changed.
-/

namespace SecretAccess.Host

/-- A path, and what it holds unless it is a directory. -/
structure Listed where
  path : String
  contents : Option (List UInt8)

namespace Listed

def addTo (t : FileTree) (l : Listed) : FileTree :=
  match l.contents with
  | some contents => t.makeFile (Text.Utf8.encode l.path) contents
  | none => t.makeDirectory (Text.Utf8.encode l.path)

end Listed

namespace FileTree

def ofListing (working : String) (items : List Listed) : FileTree :=
  items.foldl Listed.addTo (.bare (Path.names (Text.Utf8.encode working)))

def absolute (l : Location) : String := "/" ++ "/".intercalate (l.map Text.Utf8.decodeLossy)

/-- The file at a place of the tree, if it was not the same file before. -/
def changed? (before : FileTree) (e : Location × Node) : Option (String × List UInt8) :=
  match e.2 with
  | .file contents _ => if before.node? e.1 = some e.2 then none else some (absolute e.1, contents)
  | .directory | .link _ | .device _ | .program _ => none

def changes (before after : FileTree) : List (String × List UInt8) :=
  after.entries.filterMap before.changed?

end FileTree

end SecretAccess.Host
