import SecretAccess.Display.AccessTree
import SecretAccess.Display.Table

/-!
# The public keys as a table

One row for each key. The first row of a principal carries its name and kind;
principals without keys have no row.
-/

namespace SecretAccess.Display.Keys

def rows (t : Theme) (e : KeyEntry) : List (List String) :=
  match e.keys with
  | [] => []
  | key :: keys =>
    [t.paint (principalRole e.id.kind) e.id.name, e.id.kind.label, t.paint .key key] ::
      keys.map fun key => ["", "", t.paint .key key]

def table (t : Theme) (l : KeyListing) : Table :=
  ⟨["Entity", "Type", "Public Key"], l.withKeys.flatMap (rows t)⟩

def render (t : Theme) (l : KeyListing) : String :=
  t.icon "🔑" ++ t.paint .title "Public Keys" ++ "\n" ++ (table t l).render

end SecretAccess.Display.Keys
