import SecretAccess.Display.Theme
import SecretAccess.Display.Tree
import SecretAccess.View

/-!
# The hierarchy as a tree

One section each for users, machines, groups and secrets, left out when there
is nothing in it. Principals show their keys, their groups, and every secret
they can read with the way they came by it.
-/

namespace SecretAccess.Display

def attribution (t : Theme) (r : AccessRecord) : String :=
  let groups := t.list .inherited r.via.toList
  match r.direct, r.inherited with
  | true, false => t.paint .direct "direct"
  | true, true => t.paint .direct "direct" ++ " + via " ++ groups
  | false, _ => "via " ++ groups

def principalRole : PrincipalKind → Role
  | .user => .user
  | .machine => .machine

/-- A branch of its own for a list, or nothing for an empty one. -/
def branch (label : String) : List Tree → List Tree
  | [] => []
  | tree :: trees => [.node label (tree :: trees)]

namespace AccessTree

def accessLeaf (t : Theme) (e : AccessEntry) : Tree :=
  .leaf (t.icon "🔓" ++ t.paint .heading e.secret ++ " (" ++ attribution t e.record ++ ")")

def principal (t : Theme) (p : PrincipalView) : Tree :=
  .node (t.paint (principalRole p.id.kind) p.id.name)
    (branch (t.paint .dim "Public keys") (p.publicKeys.map fun key => .leaf (t.paint .key key)) ++
      (match p.groups with
        | [] => []
        | groups => [.leaf (t.paint .dim "Groups:" ++ " " ++ t.list .group groups)]) ++
      p.secrets.map (accessLeaf t))

def group (t : Theme) (g : GroupView) : Tree :=
  .node (t.paint .group g.name)
    (branch (t.paint .dim "Users")
        (g.users.map fun name => .leaf (t.icon "👤" ++ t.paint .user name)) ++
      branch (t.paint .dim "Machines")
        (g.machines.map fun name => .leaf (t.icon "🖥️ " ++ t.paint .machine name)) ++
      branch (t.paint .dim "Secrets")
        (g.secrets.map fun name => .leaf (t.icon "🔓" ++ t.paint .inherited name)))

def secret (t : Theme) (r : GrantRow) : Tree :=
  .node (t.paint .secret r.secret)
    (branch (t.paint .dim "Access granted to")
      (r.users.map (fun name => .leaf ("User: " ++ t.paint .user name)) ++
        r.machines.map (fun name => .leaf ("Machine: " ++ t.paint .machine name)) ++
        r.groups.map (fun name => .leaf ("Group: " ++ t.paint .group name))))

def heading (t : Theme) (picture text : String) : String := t.icon picture ++ t.paint .heading text

def ofView (t : Theme) (v : HierarchyView) : Tree :=
  .node (t.icon "🔐" ++ t.paint .title "SOPS Access Control Hierarchy")
    (branch (heading t "👥" "Users") (v.users.map (principal t)) ++
      branch (heading t "🖥️ " "Machines") (v.machines.map (principal t)) ++
      branch (heading t "🏢" "Groups") (v.groups.map (group t)) ++
      branch (heading t "🔒" "Secrets") (v.secrets.map (secret t)))

def render (t : Theme) (v : HierarchyView) : String := (ofView t v).render

end AccessTree

end SecretAccess.Display
