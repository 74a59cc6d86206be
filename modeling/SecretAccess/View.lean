import SecretAccess.Access

/-!
# Views of a hierarchy

What a reader is shown. The hierarchy view lists every registered principal
with its resolved access, every declared group and every declared secret; the
matrix shows the grants as they were declared; the key listing shows public
keys. A name that is not registered, or a group that is not declared, appears
in none of them, and every view filters for itself.
-/

namespace SecretAccess

structure AccessEntry where
  secret : SecretName
  record : AccessRecord
deriving DecidableEq

structure PrincipalView where
  id : PrincipalId
  publicKeys : List String
  groups : List GroupName
  secrets : List AccessEntry
deriving DecidableEq

structure GroupView where
  name : GroupName
  users : List String
  machines : List String
  secrets : List SecretName
deriving DecidableEq

/-- The grants declared on one secret, by the kind of the grantee. -/
structure GrantRow where
  secret : SecretName
  users : List String
  machines : List String
  groups : List GroupName
deriving DecidableEq

def GrantRow.isEmpty (r : GrantRow) : Bool :=
  r.users.isEmpty && r.machines.isEmpty && r.groups.isEmpty

structure HierarchyView where
  users : List PrincipalView
  machines : List PrincipalView
  groups : List GroupView
  secrets : List GrantRow
deriving DecidableEq

namespace HierarchyView

def principals (v : HierarchyView) : List PrincipalView := v.users ++ v.machines

def principal? (v : HierarchyView) (p : PrincipalId) : Option PrincipalView :=
  v.principals.find? (·.id = p)

end HierarchyView

structure MatrixView where
  rows : List GrantRow
deriving DecidableEq

def MatrixView.row? (m : MatrixView) (s : SecretName) : Option GrantRow :=
  m.rows.find? (·.secret = s)

structure KeyEntry where
  id : PrincipalId
  keys : List String
deriving DecidableEq

structure KeyListing where
  entries : List KeyEntry
deriving DecidableEq

def KeyListing.withKeys (l : KeyListing) : List KeyEntry :=
  l.entries.filter (!·.keys.isEmpty)

structure Summary where
  users : Nat
  machines : Nat
  groups : Nat
  secrets : Nat
  userGrants : Nat
  machineGrants : Nat
  groupGrants : Nat
  accessRecords : Nat
deriving DecidableEq, Repr

namespace Hierarchy

def knownNames (h : Hierarchy) (ps : List PrincipalId) (kind : PrincipalKind) : List String :=
  (ps.filter fun p => p.kind = kind && h.isKnown p).map (·.name)

def principalView (h : Hierarchy) (r : Resolution) (p : Principal) : PrincipalView where
  id := p.id
  publicKeys := p.publicKeys
  groups := (h.groupsOf p.id).toList
  secrets := (r.accessOf p.id).map fun e => ⟨e.1, e.2⟩

def groupView (h : Hierarchy) (g : GroupName) : GroupView where
  name := g
  users := h.knownNames (h.membersOf g).toList .user
  machines := h.knownNames (h.membersOf g).toList .machine
  secrets := (h.secretsOf g).toList

def grantRow (h : Hierarchy) (s : SecretName) : GrantRow where
  secret := s
  users := h.knownNames (h.directPrincipals s).toList .user
  machines := h.knownNames (h.directPrincipals s).toList .machine
  groups := (h.grantedGroups s).toList.filter h.isKnownGroup

def grantRows (h : Hierarchy) : List GrantRow := h.secrets.toList.map h.grantRow

def view (h : Hierarchy) : HierarchyView :=
  let r := h.resolve
  { users := (h.catalog.ofKind .user).map (h.principalView r)
    machines := (h.catalog.ofKind .machine).map (h.principalView r)
    groups := h.groups.toList.map h.groupView
    secrets := h.grantRows }

def matrix (h : Hierarchy) : MatrixView := ⟨h.grantRows⟩

def keyListing (h : Hierarchy) : KeyListing :=
  ⟨h.catalog.values.map fun p => ⟨p.id, p.publicKeys⟩⟩

def grantCount (size : GrantRow → Nat) (rows : List GrantRow) : Nat :=
  rows.foldr (fun r n => size r + n) 0

/-- Access records are counted for registered principals only. -/
def summary (h : Hierarchy) : Summary where
  users := h.catalog.count .user
  machines := h.catalog.count .machine
  groups := h.groups.size
  secrets := h.secrets.size
  userGrants := grantCount (·.users.length) h.grantRows
  machineGrants := grantCount (·.machines.length) h.grantRows
  groupGrants := grantCount (·.groups.length) h.grantRows
  accessRecords := (h.resolve.entries.filter fun e => h.isKnown e.1.principal).length

end Hierarchy

end SecretAccess
