import SecretAccess.Hierarchy

/-!
# The access graph

One node for each registered principal, declared group and declared secret,
and an edge for each membership and each grant between two of them. Node names
carry their kind in front, so that a user, a group and a secret of one name
are three nodes.
-/

namespace SecretAccess

inductive NodeKind where
  | user
  | machine
  | group
  | secret
deriving DecidableEq, Repr

namespace NodeKind

def all : List NodeKind := [.user, .machine, .group, .secret]

def name : NodeKind → String
  | .user => "user"
  | .machine => "machine"
  | .group => "group"
  | .secret => "secret"

def ofPrincipal : PrincipalKind → NodeKind
  | .user => .user
  | .machine => .machine

def nodeId (kind : NodeKind) (name : String) : String := kind.name ++ "_" ++ name

end NodeKind

def PrincipalId.nodeId (p : PrincipalId) : String := (NodeKind.ofPrincipal p.kind).nodeId p.name

structure Node where
  id : String
  kind : NodeKind
  name : String
  keyPreview : Option String
deriving DecidableEq, Repr

inductive EdgeKind where
  | member
  | access
deriving DecidableEq, Repr

def EdgeKind.name : EdgeKind → String
  | .member => "member"
  | .access => "access"

/-- An edge between two node ids; `source` is the kind of the node it leaves. -/
structure Edge where
  start : String
  target : String
  kind : EdgeKind
  source : NodeKind
deriving DecidableEq, Repr

structure Graph where
  nodes : List Node
  edges : List Edge
deriving DecidableEq, Repr

def Graph.nodesOf (g : Graph) (kind : NodeKind) : List Node := g.nodes.filter (·.kind = kind)

namespace Hierarchy

/-- The first eight characters of a key stand for it in a drawing. -/
def keyPreview (key : String) : String := String.ofList (key.toList.take 8) ++ "..."

def principalNode (p : Principal) : Node where
  id := p.id.nodeId
  kind := .ofPrincipal p.id.kind
  name := p.id.name
  keyPreview := p.publicKeys.head?.map keyPreview

def groupNode (g : GroupName) : Node := ⟨NodeKind.group.nodeId g, .group, g, none⟩

def secretNode (s : SecretName) : Node := ⟨NodeKind.secret.nodeId s, .secret, s, none⟩

def memberEdges (h : Hierarchy) (g : GroupName) : List Edge :=
  ((h.membersOf g).toList.filter h.isKnown).map fun p =>
    ⟨p.nodeId, NodeKind.group.nodeId g, .member, .ofPrincipal p.kind⟩

def accessEdges (h : Hierarchy) (s : SecretName) : List Edge :=
  (((h.directPrincipals s).toList.filter h.isKnown).map fun p =>
    ⟨p.nodeId, NodeKind.secret.nodeId s, .access, .ofPrincipal p.kind⟩) ++
  ((h.grantedGroups s).toList.filter h.isKnownGroup).map fun g =>
    ⟨NodeKind.group.nodeId g, NodeKind.secret.nodeId s, .access, .group⟩

def graph (h : Hierarchy) : Graph where
  nodes := h.catalog.values.map principalNode ++ h.groups.toList.map groupNode ++
    h.secrets.toList.map secretNode
  edges := h.groups.toList.flatMap h.memberEdges ++ h.secrets.toList.flatMap h.accessEdges

end Hierarchy

end SecretAccess
