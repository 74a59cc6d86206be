/-!
# Finite maps in key order

A map is its list of entries, strictly increasing by key. Walking a map walks
its keys in order, whatever the order of the insertions was.
-/

namespace SecretAccess

structure SortedMap (κ α : Type) [Ord κ] where
  entries : List (κ × α)
  sorted : entries.Pairwise (fun x y => compare x.1 y.1 = .lt)

namespace SortedMap

variable {κ α β : Type} [Ord κ]

instance [DecidableEq κ] [DecidableEq α] : DecidableEq (SortedMap κ α) :=
  fun m n => decidable_of_iff (m.entries = n.entries) (by cases m; cases n; simp)

/-- Writes one entry: `f` sees what was stored under the key, if anything. -/
def upsertEntries (k : κ) (f : Option α → α) : List (κ × α) → List (κ × α)
  | [] => [(k, f none)]
  | (key, a) :: rest =>
    match compare k key with
    | .lt => (k, f none) :: (key, a) :: rest
    | .eq => (key, f (some a)) :: rest
    | .gt => (key, a) :: upsertEntries k f rest

theorem key_of_mem_upsertEntries {k : κ} {f : Option α → α} {l : List (κ × α)} {e : κ × α}
    (h : e ∈ upsertEntries k f l) : e.1 = k ∨ ∃ e' ∈ l, e'.1 = e.1 := by
  induction l with
  | nil => simp_all [upsertEntries]
  | cons hd tl ih =>
    obtain ⟨key, a⟩ := hd
    rw [upsertEntries] at h
    split at h
    · rcases List.mem_cons.mp h with rfl | h
      · exact .inl rfl
      · exact .inr ⟨e, h, rfl⟩
    · rcases List.mem_cons.mp h with rfl | h
      · exact .inr ⟨(key, a), List.mem_cons_self, rfl⟩
      · exact .inr ⟨e, List.mem_cons_of_mem _ h, rfl⟩
    · rcases List.mem_cons.mp h with rfl | h
      · exact .inr ⟨(key, a), List.mem_cons_self, rfl⟩
      · rcases ih h with h | ⟨e', hm, he⟩
        · exact .inl h
        · exact .inr ⟨e', List.mem_cons_of_mem _ hm, he⟩

theorem pairwise_upsertEntries [Std.TransOrd κ] (k : κ) (f : Option α → α) {l : List (κ × α)}
    (h : l.Pairwise (fun x y => compare x.1 y.1 = .lt)) :
    (upsertEntries k f l).Pairwise (fun x y => compare x.1 y.1 = .lt) := by
  induction l with
  | nil => simp [upsertEntries]
  | cons hd tl ih =>
    obtain ⟨key, a⟩ := hd
    rw [upsertEntries]
    obtain ⟨hh, ht⟩ := List.pairwise_cons.mp h
    split
    case h_1 hc =>
      refine List.pairwise_cons.mpr ⟨fun e he => ?_, h⟩
      rcases List.mem_cons.mp he with rfl | he
      · exact hc
      · exact Std.TransCmp.lt_trans hc (hh e he)
    case h_2 => exact List.pairwise_cons.mpr ⟨hh, ht⟩
    case h_3 hc =>
      refine List.pairwise_cons.mpr ⟨fun e he => ?_, ih ht⟩
      rcases key_of_mem_upsertEntries he with he | ⟨e', hm, he⟩
      · rw [he]; exact Std.OrientedCmp.lt_of_gt hc
      · rw [← he]; exact hh e' hm

def empty : SortedMap κ α := ⟨[], .nil⟩

instance : EmptyCollection (SortedMap κ α) := ⟨empty⟩

def upsert [Std.TransOrd κ] (m : SortedMap κ α) (k : κ) (f : Option α → α) : SortedMap κ α :=
  ⟨upsertEntries k f m.entries, pairwise_upsertEntries k f m.sorted⟩

def insert [Std.TransOrd κ] (m : SortedMap κ α) (k : κ) (a : α) : SortedMap κ α :=
  m.upsert k fun _ => a

def lookup (k : κ) : List (κ × α) → Option α
  | [] => none
  | (key, a) :: rest =>
    match compare k key with
    | .lt => none
    | .eq => some a
    | .gt => lookup k rest

def get? (m : SortedMap κ α) (k : κ) : Option α := lookup k m.entries

def contains (m : SortedMap κ α) (k : κ) : Bool := (m.get? k).isSome

def keys (m : SortedMap κ α) : List κ := m.entries.map (·.1)

def values (m : SortedMap κ α) : List α := m.entries.map (·.2)

def size (m : SortedMap κ α) : Nat := m.entries.length

def isEmpty (m : SortedMap κ α) : Bool := m.entries.isEmpty

end SortedMap

end SecretAccess
