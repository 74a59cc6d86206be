import SecretAccess.Toml

/-!
# Defining tables

A table is defined once: by a header of its own, by the header of a table in
it, or by keys with dots. Which of these it was decides what may be added to it
later. Headers may complete a table that only a longer header implied; keys
with dots may only go on with tables made by such keys.
-/

namespace SecretAccess.Toml

inductive Origin where
  | header
  | implied
  | dotted
deriving DecidableEq, Repr

/-- An entry of a table that is still being defined. -/
inductive Entry where
  | value (v : Toml)
  | table (origin : Origin) (entries : List (String × Entry))
  | rows (tables : List (List (String × Entry)))
deriving Inhabited

abbrev Entries := List (String × Entry)

mutual
def Entry.toToml : Entry → Toml
  | .value v => v
  | .table _ entries => .table (Entries.toMembers entries)
  | .rows tables => .array (Entries.toRows tables)
def Entries.toMembers : List (String × Entry) → List (String × Toml)
  | [] => []
  | (name, entry) :: entries => (name, entry.toToml) :: Entries.toMembers entries
def Entries.toRows : List (List (String × Entry)) → List Toml
  | [] => []
  | row :: tables => .table (Entries.toMembers row) :: Entries.toRows tables
end

namespace Entries

def set (es : Entries) (name : String) (e : Entry) : Entries :=
  if (es.lookup name).isSome then es.map fun old => if old.1 = name then (name, e) else old
  else es ++ [(name, e)]

def remove (es : Entries) (name : String) : Entries := es.filter (·.1 ≠ name)

/-- What keys on the way to a table may pass through: `made` is the origin of a
table that is not there yet. Keys with dots do not enter a table with a header. -/
def mayEnter (made origin : Origin) : Bool := !(made = .dotted && origin = .header)

/-- Changes the table at a path below a table, making tables on the way. Of an
array of tables the last one is meant. -/
def change (made : Origin) (f : Origin → Entries → Option Entries) :
    List String → Origin → Entries → Option Entries
  | [], origin, es => f origin es
  | name :: path, _, es =>
    match es.lookup name with
    | none => do
      let inner ← change made f path made []
      some (es.set name (.table made inner))
    | some (.value _) => none
    | some (.table origin inner) =>
      if mayEnter made origin then do
        let inner ← change made f path origin inner
        some (es.set name (.table origin inner))
      else none
    | some (.rows tables) =>
      match tables.getLast? with
      | none => none
      | some last => do
        let last ← change made f path .header last
        some (es.set name (.rows (tables.dropLast ++ [last])))

/-- Defines a new name in the table that a key with dots leads to: that table
is made by such keys exactly when there is a dot. -/
def defineIn (hasDots : Bool) (name : String) (v : Toml) (origin : Origin) (es : Entries) :
    Option Entries :=
  if (origin = .dotted) = hasDots && (es.lookup name).isNone then
    some (es ++ [(name, .value v)])
  else none

def define (es : Entries) (origin : Origin) (key : List String) (v : Toml) : Option Entries :=
  match key.getLast? with
  | none => none
  | some name =>
    let path := key.dropLast
    change .dotted (defineIn (!path.isEmpty) name v) path origin es

end Entries

/-- A document on the way: the table under the last header stands apart until
the next header, or the end, puts it into its place. -/
structure Draft where
  root : Entries
  path : List String
  isRow : Bool
  current : Entries

namespace Draft

def empty : Draft := ⟨[], [], false, []⟩

def define (d : Draft) (key : List String) (v : Toml) : Option Draft := do
  let current ← d.current.define .header key v
  some { d with current }

def addRow (name : String) (row : Entries) (_ : Origin) (es : Entries) : Option Entries :=
  match es.lookup name with
  | none => some (es.set name (.rows [row]))
  | some (.rows tables) => some (es.set name (.rows (tables ++ [row])))
  | some _ => none

def addTable (name : String) (table : Entries) (_ : Origin) (es : Entries) : Option Entries :=
  match es.lookup name with
  | none => some (es.set name (.table .header table))
  | some _ => none

/-- Puts the current table into its place. -/
def settle (d : Draft) : Option Entries :=
  match d.path.getLast? with
  | none => some d.current
  | some name =>
    let place := if d.isRow then addRow name d.current else addTable name d.current
    Entries.change .implied place d.path.dropLast .header d.root

/-- What a table header finds under its name: nothing, or a table that was only
implied. -/
def reclaim (name : String) (es : Entries) : Option (Entries × Entries) :=
  match es.lookup name with
  | none => some (es, [])
  | some (.table .implied inner) => some (es.remove name, inner)
  | some _ => none

/-- The table that a header takes over, as it stands below the root. -/
def reclaimed (path : List String) (name : String) (root : Entries) : Option Entries :=
  match path with
  | [] => (reclaim name root).map (·.2)
  | step :: path =>
    match root.lookup step with
    | none => some []
    | some (.value _) => none
    | some (.table _ inner) => reclaimed path name inner
    | some (.rows tables) =>
      match tables.getLast? with
      | none => none
      | some last => reclaimed path name last

def openTable (d : Draft) (key : List String) : Option Draft := do
  let root ← d.settle
  let name ← key.getLast?
  let current ← reclaimed key.dropLast name root
  let root ← Entries.change .implied (fun _ es => (reclaim name es).map (·.1)) key.dropLast
    .header root
  some ⟨root, key, false, current⟩

/-- Whether rows may be added under a name. -/
def acceptsRows (name : String) (_ : Origin) (es : Entries) : Option Entries :=
  match es.lookup name with
  | none => some es
  | some (.rows _) => some es
  | some _ => none

def openRow (d : Draft) (key : List String) : Option Draft := do
  let root ← d.settle
  let name ← key.getLast?
  let root ← Entries.change .implied (acceptsRows name) key.dropLast .header root
  some ⟨root, key, true, []⟩

end Draft

/-- The members of an inline table, given with their keys in order. -/
def inlineTable (pairs : List (List String × Toml)) : Option Toml :=
  (pairs.foldlM (fun (es : Entries) pair => es.define .header pair.1 pair.2) []).map fun es =>
    .table (Entries.toMembers es)

end SecretAccess.Toml
