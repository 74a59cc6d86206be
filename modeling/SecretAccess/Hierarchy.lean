import SecretAccess.Principal
import SecretAccess.Relation

/-!
# The hierarchy of a repository

What is declared: principals with their keys, groups with their members, and
secrets with the principals and groups they are granted to. Members and
grants may name principals that are not registered and groups that are not
declared; such names are kept here and left out where the hierarchy is shown.

Every hierarchy of interest is built by `run` from the empty one, and `Step`
lists all the ways it can grow.
-/

namespace SecretAccess

abbrev Catalog := SortedMap PrincipalId Principal

namespace Catalog

/-- A principal registered again keeps its place and takes the new keys. -/
def register (c : Catalog) (p : PrincipalId) (keys : List String) : Catalog :=
  c.insert p ⟨p, keys⟩

def ofKind (c : Catalog) (kind : PrincipalKind) : List Principal :=
  c.values.filter (·.id.kind = kind)

def count (c : Catalog) (kind : PrincipalKind) : Nat := (c.ofKind kind).length

end Catalog

structure Grants where
  principals : SortedSet PrincipalId
  groups : SortedSet GroupName
deriving DecidableEq

namespace Grants

def ofKind (g : Grants) (kind : PrincipalKind) : List PrincipalId :=
  g.principals.toList.filter (·.kind = kind)

def isEmpty (g : Grants) : Bool := g.principals.isEmpty && g.groups.isEmpty

end Grants

structure Hierarchy where
  catalog : Catalog
  groups : SortedSet GroupName
  membership : Relation GroupName PrincipalId
  secrets : SortedSet SecretName
  direct : Relation SecretName PrincipalId
  viaGroup : Relation SecretName GroupName
deriving DecidableEq

namespace Hierarchy

def empty : Hierarchy := ⟨∅, ∅, ∅, ∅, ∅, ∅⟩

instance : EmptyCollection Hierarchy := ⟨empty⟩

def register (h : Hierarchy) (p : PrincipalId) (keys : List String) : Hierarchy :=
  { h with catalog := h.catalog.register p keys }

def declareGroup (h : Hierarchy) (g : GroupName) : Hierarchy :=
  { h with groups := h.groups.add g }

/-- Naming a member declares the group. -/
def addMember (h : Hierarchy) (g : GroupName) (p : PrincipalId) : Hierarchy :=
  { h.declareGroup g with membership := h.membership.relate g p }

def declareSecret (h : Hierarchy) (s : SecretName) : Hierarchy :=
  { h with secrets := h.secrets.add s }

def grantDirect (h : Hierarchy) (s : SecretName) (p : PrincipalId) : Hierarchy :=
  { h.declareSecret s with direct := h.direct.relate s p }

/-- The secret is declared by this, the group is not. -/
def grantViaGroup (h : Hierarchy) (s : SecretName) (g : GroupName) : Hierarchy :=
  { h.declareSecret s with viaGroup := h.viaGroup.relate s g }

def isKnown (h : Hierarchy) (p : PrincipalId) : Bool := h.catalog.contains p

def isKnownGroup (h : Hierarchy) (g : GroupName) : Bool := h.groups.contains g

def isSecret (h : Hierarchy) (s : SecretName) : Bool := h.secrets.contains s

def membersOf (h : Hierarchy) (g : GroupName) : SortedSet PrincipalId := h.membership.image g

def groupsOf (h : Hierarchy) (p : PrincipalId) : SortedSet GroupName := h.membership.preimage p

def isMember (h : Hierarchy) (g : GroupName) (p : PrincipalId) : Bool := h.membership.holds g p

def directPrincipals (h : Hierarchy) (s : SecretName) : SortedSet PrincipalId := h.direct.image s

def grantedGroups (h : Hierarchy) (s : SecretName) : SortedSet GroupName := h.viaGroup.image s

def secretsOf (h : Hierarchy) (g : GroupName) : SortedSet SecretName := h.viaGroup.preimage g

def grantsOn (h : Hierarchy) (s : SecretName) : Grants :=
  ⟨h.directPrincipals s, h.grantedGroups s⟩

def grants? (h : Hierarchy) (s : SecretName) : Option Grants :=
  if h.isSecret s then some (h.grantsOn s) else none

end Hierarchy

inductive Step where
  | register (p : PrincipalId) (keys : List String)
  | declareGroup (g : GroupName)
  | addMember (g : GroupName) (p : PrincipalId)
  | declareSecret (s : SecretName)
  | grantDirect (s : SecretName) (p : PrincipalId)
  | grantViaGroup (s : SecretName) (g : GroupName)
deriving DecidableEq, Repr

namespace Hierarchy

def apply (h : Hierarchy) : Step → Hierarchy
  | .register p keys => h.register p keys
  | .declareGroup g => h.declareGroup g
  | .addMember g p => h.addMember g p
  | .declareSecret s => h.declareSecret s
  | .grantDirect s p => h.grantDirect s p
  | .grantViaGroup s g => h.grantViaGroup s g

/-- Whether a step adds a pair to its relation; a declaration adds none. -/
def adds (h : Hierarchy) : Step → Bool
  | .addMember g p => !h.membership.holds g p
  | .grantDirect s p => !h.direct.holds s p
  | .grantViaGroup s g => !h.viaGroup.holds s g
  | .register .. | .declareGroup _ | .declareSecret _ => false

def run (steps : List Step) : Hierarchy := steps.foldl apply ∅

end Hierarchy

end SecretAccess
