import SecretAccess.Sorted.Map

/-!
# Finite sets in order

A set is a map whose keys are its members, so that a set is listed in
increasing order and without repetition.
-/

namespace SecretAccess

abbrev SortedSet (α : Type) [Ord α] := SortedMap α Unit

namespace SortedSet

variable {α : Type} [Ord α]

def add [Std.TransOrd α] (s : SortedSet α) (a : α) : SortedSet α := s.insert a ()

def toList (s : SortedSet α) : List α := s.keys

def singleton [Std.TransOrd α] (a : α) : SortedSet α := add ∅ a

end SortedSet

end SecretAccess
