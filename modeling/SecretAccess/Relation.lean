import SecretAccess.Sorted.Set

/-!
# Finite relations, read both ways

A relation keeps the row of everything on its left side and the row of
everything on its right side, so that both directions are one look-up. The
backward row is written only when the pair is new.
-/

namespace SecretAccess

structure Relation (α β : Type) [Ord α] [Ord β] where
  forward : SortedMap α (SortedSet β)
  backward : SortedMap β (SortedSet α)
deriving DecidableEq

namespace Relation

variable {α β : Type} [Ord α] [Ord β]

def empty : Relation α β := ⟨∅, ∅⟩

instance : EmptyCollection (Relation α β) := ⟨empty⟩

def image (r : Relation α β) (a : α) : SortedSet β := (r.forward.get? a).getD ∅

def preimage (r : Relation α β) (b : β) : SortedSet α := (r.backward.get? b).getD ∅

def holds (r : Relation α β) (a : α) (b : β) : Bool := (r.image a).contains b

variable [Std.TransOrd α] [Std.TransOrd β]

def relate (r : Relation α β) (a : α) (b : β) : Relation α β :=
  if r.holds a b then r
  else
    { forward := r.forward.insert a ((r.image a).add b)
      backward := r.backward.insert b ((r.preimage b).add a) }

end Relation

end SecretAccess
