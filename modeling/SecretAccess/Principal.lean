/-!
# Principals

A principal is a user or a machine. It is known by its kind and name together,
so a user and a machine may share a name. Users come before machines, and
within a kind names are ordered by code point.
-/

namespace SecretAccess

inductive PrincipalKind where
  | user
  | machine
deriving DecidableEq, Repr

namespace PrincipalKind

def all : List PrincipalKind := [.user, .machine]

def name : PrincipalKind → String
  | .user => "user"
  | .machine => "machine"

/-- The kind as a column of a table or the front of a line shows it. -/
def label : PrincipalKind → String
  | .user => "User"
  | .machine => "Machine"

/-- The directory that holds one entry per principal of the kind. -/
def directory : PrincipalKind → String
  | .user => "users"
  | .machine => "machines"

def rank : PrincipalKind → Nat
  | .user => 0
  | .machine => 1

theorem rank_injective {k l : PrincipalKind} (h : k.rank = l.rank) : k = l := by
  cases k <;> cases l <;> simp_all [rank]

instance : Ord PrincipalKind := ⟨compareOn rank⟩

instance : Std.TransOrd PrincipalKind := inferInstanceAs (Std.TransCmp (compareOn rank))

instance : Std.LawfulEqOrd PrincipalKind where
  eq_of_compare {k _} h := rank_injective (Std.compare_eq_iff_eq (a := k.rank) |>.mp h)

end PrincipalKind

abbrev GroupName := String

abbrev SecretName := String

structure PrincipalId where
  kind : PrincipalKind
  name : String
deriving DecidableEq, Repr

namespace PrincipalId

instance : Ord PrincipalId := ⟨compareLex (compareOn kind) (compareOn name)⟩

instance : Std.TransOrd PrincipalId :=
  inferInstanceAs (Std.TransCmp (compareLex (compareOn kind) (compareOn name)))

instance : Std.LawfulEqOrd PrincipalId where
  eq_of_compare {p q} h := by
    obtain ⟨hk, hn⟩ := Ordering.then_eq_eq.mp h
    have hk : p.kind = q.kind := Std.compare_eq_iff_eq.mp hk
    have hn : p.name = q.name := Std.compare_eq_iff_eq.mp hn
    cases p
    cases q
    simp_all

def text (p : PrincipalId) : String := p.kind.name ++ ":" ++ p.name

end PrincipalId

structure Principal where
  id : PrincipalId
  publicKeys : List String
deriving DecidableEq, Repr

end SecretAccess
