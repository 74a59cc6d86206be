import SecretAccess.Hierarchy

/-!
# Resolved access

A principal has access to a secret by a direct grant, through groups, or both.
The resolution holds one record for each such pair of principal and secret; it
is what a list of contributions, one per grant and per member of a granted
group, amounts to. Principals that are not registered are resolved too.
-/

namespace SecretAccess

structure AccessRecord where
  direct : Bool
  via : SortedSet GroupName
deriving DecidableEq

namespace AccessRecord

def inherited (r : AccessRecord) : Bool := !r.via.isEmpty

def text (r : AccessRecord) : String :=
  let groups := ", ".intercalate r.via.toList
  match r.direct, r.inherited with
  | true, false => "direct"
  | true, true => "direct + via " ++ groups
  | false, _ => "via " ++ groups

end AccessRecord

structure AccessKey where
  principal : PrincipalId
  secret : SecretName
deriving DecidableEq

namespace AccessKey

instance : Ord AccessKey := ⟨compareLex (compareOn principal) (compareOn secret)⟩

instance : Std.TransOrd AccessKey :=
  inferInstanceAs (Std.TransCmp (compareLex (compareOn principal) (compareOn secret)))

instance : Std.LawfulEqOrd AccessKey where
  eq_of_compare {j k} h := by
    obtain ⟨hp, hs⟩ := Ordering.then_eq_eq.mp h
    have hp : j.principal = k.principal := Std.compare_eq_iff_eq.mp hp
    have hs : j.secret = k.secret := Std.compare_eq_iff_eq.mp hs
    cases j
    cases k
    simp_all

end AccessKey

inductive Contribution where
  | direct (p : PrincipalId) (s : SecretName)
  | via (p : PrincipalId) (s : SecretName) (g : GroupName)
deriving DecidableEq

namespace Contribution

def key : Contribution → AccessKey
  | .direct p s => ⟨p, s⟩
  | .via p s _ => ⟨p, s⟩

/-- What a contribution makes of the record that is there, if any. -/
def onto : Contribution → Option AccessRecord → AccessRecord
  | .direct _ _, none => ⟨true, ∅⟩
  | .direct _ _, some r => { r with direct := true }
  | .via _ _ g, none => ⟨false, .singleton g⟩
  | .via _ _ g, some r => { r with via := r.via.add g }

end Contribution

abbrev Resolution := SortedMap AccessKey AccessRecord

namespace Resolution

def contribute (r : Resolution) (c : Contribution) : Resolution := r.upsert c.key c.onto

def ofContributions (cs : List Contribution) : Resolution := cs.foldl contribute ∅

/-- The records of one principal stand together: they begin at its empty
secret name and end with the first other principal. -/
def accessOf (r : Resolution) (p : PrincipalId) : List (SecretName × AccessRecord) :=
  (r.entries.dropWhile fun e => compare e.1 ⟨p, ""⟩ = .lt)
    |>.takeWhile (fun e => e.1.principal = p)
    |>.map fun e => (e.1.secret, e.2)

def accessTo (r : Resolution) (s : SecretName) : List (PrincipalId × AccessRecord) :=
  (r.entries.filter fun e => e.1.secret = s).map fun e => (e.1.principal, e.2)

end Resolution

namespace Hierarchy

def directContributions (h : Hierarchy) : List Contribution :=
  h.secrets.toList.flatMap fun s =>
    (h.directPrincipals s).toList.map fun p => .direct p s

def groupContributions (h : Hierarchy) : List Contribution :=
  h.secrets.toList.flatMap fun s =>
    (h.grantedGroups s).toList.flatMap fun g =>
      (h.membersOf g).toList.map fun p => .via p s g

def resolve (h : Hierarchy) : Resolution :=
  .ofContributions (h.directContributions ++ h.groupContributions)

end Hierarchy

end SecretAccess
