import SecretAccess.Graph
import SecretAccess.Json
import SecretAccess.View

/-!
# The machine-readable report

The chosen views of a hierarchy as one JSON object. A view that was not chosen
has no member at all.
-/

namespace SecretAccess

structure Selection where
  tree : Bool
  matrix : Bool
  keys : Bool
  graph : Bool
deriving DecidableEq, Repr

def PrincipalId.members (p : PrincipalId) : List (String × Json) :=
  [("kind", .string p.kind.name), ("name", .string p.name)]

def AccessRecord.members (r : AccessRecord) : List (String × Json) :=
  [("direct", .bool r.direct), ("via_groups", .strings r.via.toList)]

def AccessEntry.toJson (e : AccessEntry) : Json :=
  .object (("secret", .string e.secret) :: e.record.members)

def PrincipalView.toJson (p : PrincipalView) : Json :=
  .object (p.id.members ++
    [("public_keys", .strings p.publicKeys),
     ("groups", .strings p.groups),
     ("secrets", .array (p.secrets.map AccessEntry.toJson))])

def GroupView.toJson (g : GroupView) : Json :=
  .object
    [("name", .string g.name),
     ("users", .strings g.users),
     ("machines", .strings g.machines),
     ("secrets", .strings g.secrets)]

def GrantRow.toJson (r : GrantRow) : Json :=
  .object
    [("secret", .string r.secret),
     ("users", .strings r.users),
     ("machines", .strings r.machines),
     ("groups", .strings r.groups)]

def HierarchyView.toJson (v : HierarchyView) : Json :=
  .object
    [("users", .array (v.users.map PrincipalView.toJson)),
     ("machines", .array (v.machines.map PrincipalView.toJson)),
     ("groups", .array (v.groups.map GroupView.toJson)),
     ("secrets", .array (v.secrets.map GrantRow.toJson))]

def MatrixView.toJson (m : MatrixView) : Json :=
  .object [("rows", .array (m.rows.map GrantRow.toJson))]

def KeyEntry.toJson (e : KeyEntry) : Json :=
  .object (e.id.members ++ [("keys", .strings e.keys)])

def KeyListing.toJson (l : KeyListing) : Json :=
  .object [("entries", .array (l.entries.map KeyEntry.toJson))]

def Node.toJson (n : Node) : Json :=
  .object
    [("id", .string n.id),
     ("kind", .string n.kind.name),
     ("name", .string n.name),
     ("key_preview", (n.keyPreview.map Json.string).getD .null)]

def Edge.toJson (e : Edge) : Json :=
  .object
    [("from", .string e.start),
     ("to", .string e.target),
     ("kind", .string e.kind.name),
     ("source", .string e.source.name)]

def Graph.toJson (g : Graph) : Json :=
  .object
    [("nodes", .array (g.nodes.map Node.toJson)),
     ("edges", .array (g.edges.map Edge.toJson))]

def Summary.toJson (s : Summary) : Json :=
  .object
    [("users", .ofNat s.users),
     ("machines", .ofNat s.machines),
     ("groups", .ofNat s.groups),
     ("secrets", .ofNat s.secrets),
     ("user_grants", .ofNat s.userGrants),
     ("machine_grants", .ofNat s.machineGrants),
     ("group_grants", .ofNat s.groupGrants),
     ("access_records", .ofNat s.accessRecords)]

structure Report where
  hierarchy : Option HierarchyView
  matrix : Option MatrixView
  keys : Option KeyListing
  graph : Option Graph
  summary : Option Summary
deriving DecidableEq

namespace Report

def build (h : Hierarchy) (chosen : Selection) (withSummary : Bool) : Report where
  hierarchy := if chosen.tree then some h.view else none
  matrix := if chosen.matrix then some h.matrix else none
  keys := if chosen.keys then some h.keyListing else none
  graph := if chosen.graph then some h.graph else none
  summary := if withSummary then some h.summary else none

def member (name : String) (toJson : α → Json) : Option α → List (String × Json)
  | none => []
  | some a => [(name, toJson a)]

def toJson (r : Report) : Json :=
  .object (member "hierarchy" HierarchyView.toJson r.hierarchy ++
    member "matrix" MatrixView.toJson r.matrix ++
    member "keys" KeyListing.toJson r.keys ++
    member "graph" Graph.toJson r.graph ++
    member "summary" Summary.toJson r.summary)

end Report

end SecretAccess
