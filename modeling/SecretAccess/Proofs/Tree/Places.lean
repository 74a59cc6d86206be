import Mathlib.Data.List.Infix
import SecretAccess.Proofs.Tree.Reader

/-!
# The lines of a drawn tree

A place in a tree says which child to go to at each node, from the root on, and
the drawing has a line for each place, in order. What a line shows in front of
its label follows from the place alone: whether there is a place beside it, and
beside each of the places above it. Such a line can be read whatever its label
is, and the tree can be read back from all of them (`render_readable`).
-/

namespace SecretAccess.Display.Tree

abbrev Place := List Nat

/-- The part of a tree that begins at a place. -/
def at? (t : Tree) : Place → Option Tree
  | [] => some t
  | i :: rest => t.children[i]?.bind (·.at? rest)

mutual
/-- All places of a tree. A place comes before those below it, and these come
before the places beside it. -/
def places : Tree → List Place
  | .node _ children => [] :: forestPlaces 0 children
def forestPlaces (i : Nat) : List Tree → List Place
  | [] => []
  | tree :: trees => (places tree).map (i :: ·) ++ forestPlaces (i + 1) trees
end

def labelAt (t : Tree) (place : Place) : String := ((t.at? place).map label).getD ""

/-- The place where a sibling would follow. -/
def nextSibling (place : Place) : Place := place.dropLast ++ [place.getLastD 0 + 1]

/-- No sibling follows. -/
def isLastAt (t : Tree) (place : Place) : Bool := (t.at? (nextSibling place)).isNone

/-- The places on the way from the root to a place, without these two. -/
def above (place : Place) : List Place := place.inits.tail.dropLast

def lineAt (t : Tree) : Place → String
  | [] => t.label
  | i :: rest =>
    lead ((above (i :: rest)).map t.isLastAt) ++ connector (t.isLastAt (i :: rest)) ++
      t.labelAt (i :: rest)

-- ---------------------------------------------------------------------------
-- Places
-- ---------------------------------------------------------------------------

theorem at?_append (t : Tree) (place rest : Place) :
    t.at? (place ++ rest) = (t.at? place).bind (·.at? rest) := by
  induction place generalizing t with
  | nil => rfl
  | cons i place ih =>
    rw [List.cons_append, at?, at?]
    cases t.children[i]? with
    | none => rfl
    | some child => exact ih child

theorem at?_child {t : Tree} {place : Place} {label : String} {children : List Tree}
    (h : t.at? place = some (.node label children)) (i : Nat) :
    t.at? (place ++ [i]) = children[i]? := by
  rw [at?_append, h, Option.bind_some, at?, Tree.children]
  cases children[i]? <;> rfl

theorem mem_forestPlaces {trees : List Tree} {first : Nat} {place : Place} :
    place ∈ forestPlaces first trees ↔
      ∃ i rest t, place = (first + i) :: rest ∧ trees[i]? = some t ∧ rest ∈ t.places := by
  induction trees generalizing first with
  | nil => simp [forestPlaces]
  | cons tree trees ih =>
    rw [forestPlaces, List.mem_append, List.mem_map, ih]
    constructor
    · rintro (⟨rest, hr, rfl⟩ | ⟨i, rest, t, rfl, ht, hr⟩)
      · exact ⟨0, rest, tree, rfl, rfl, hr⟩
      · exact ⟨i + 1, rest, t, by rw [Nat.add_right_comm, Nat.add_assoc], ht, hr⟩
    · rintro ⟨_ | i, rest, t, rfl, ht, hr⟩
      · obtain rfl : tree = t := Option.some.inj ht
        exact .inl ⟨rest, hr, rfl⟩
      · exact .inr ⟨i, rest, t, by rw [Nat.add_right_comm, Nat.add_assoc], ht, hr⟩

theorem mem_places {t : Tree} {place : Place} :
    place ∈ t.places ↔ ∃ s, t.at? place = some s := by
  induction place generalizing t with
  | nil =>
    cases t
    simp [places, at?]
  | cons i rest ih =>
    obtain ⟨label, children⟩ := t
    rw [places, at?, Tree.children]
    simp only [List.mem_cons, reduceCtorEq, false_or, mem_forestPlaces, Nat.zero_add,
      List.cons.injEq, Option.bind_eq_some_iff]
    constructor
    · rintro ⟨_, _, child, ⟨rfl, rfl⟩, hc, hr⟩
      obtain ⟨s, hs⟩ := ih.mp hr
      exact ⟨s, child, hc, hs⟩
    · rintro ⟨s, child, hc, hs⟩
      exact ⟨i, rest, child, ⟨rfl, rfl⟩, hc, ih.mpr ⟨s, hs⟩⟩

mutual
theorem pairwise_places (t : Tree) : t.places.Pairwise (· < ·) := by
  cases t with
  | node label children =>
    rw [places, List.pairwise_cons]
    refine ⟨fun place hp => ?_, pairwise_forestPlaces 0 children⟩
    obtain ⟨i, rest, -, rfl, -⟩ := mem_forestPlaces.mp hp
    exact List.nil_lt_cons _ _
theorem pairwise_forestPlaces (first : Nat) (trees : List Tree) :
    (forestPlaces first trees).Pairwise (· < ·) := by
  cases trees with
  | nil => exact .nil
  | cons tree trees =>
    rw [forestPlaces, List.pairwise_append]
    refine ⟨?_, pairwise_forestPlaces (first + 1) trees, ?_⟩
    · refine List.pairwise_map.mpr ((pairwise_places tree).imp fun {p q} hlt => ?_)
      exact List.cons_lt_cons_iff.mpr (.inr ⟨rfl, hlt⟩)
    · intro p hp q hq
      obtain ⟨rest, -, rfl⟩ := List.mem_map.mp hp
      obtain ⟨i, rest', -, rfl, -⟩ := mem_forestPlaces.mp hq
      exact List.cons_lt_cons_iff.mpr (.inl (by omega))
end

-- ---------------------------------------------------------------------------
-- Lines
-- ---------------------------------------------------------------------------

/-- What a place puts in front of the lines below it, for itself and for the
places above. -/
def margins (t : Tree) (place : Place) : List Bool := place.inits.tail.map t.isLastAt

theorem inits_concat (place : Place) (i : Nat) :
    (place ++ [i]).inits.tail = place.inits.tail ++ [place ++ [i]] := by
  rw [List.inits_append]
  cases place <;> rfl

theorem margins_concat (t : Tree) (place : Place) (i : Nat) :
    t.margins (place ++ [i]) = t.margins place ++ [t.isLastAt (place ++ [i])] := by
  rw [margins, inits_concat, List.map_append]
  rfl

theorem lineAt_concat (t : Tree) (place : Place) (i : Nat) :
    t.lineAt (place ++ [i]) = lead (t.margins place) ++ connector (t.isLastAt (place ++ [i])) ++
      t.labelAt (place ++ [i]) := by
  obtain ⟨j, rest, he⟩ := List.exists_cons_of_ne_nil (List.append_ne_nil_of_right_ne_nil place
    (List.cons_ne_nil i []))
  rw [he, lineAt, ← he, above, inits_concat, List.dropLast_concat]
  rfl

theorem isLastAt_concat (t : Tree) (place : Place) (i : Nat) :
    t.isLastAt (place ++ [i]) = (t.at? (place ++ [i + 1])).isNone := by
  simp [isLastAt, nextSibling]

mutual
theorem branchLines_eq {t s : Tree} {place : Place} {i : Nat} (hs : t.at? (place ++ [i]) = some s) :
    branchLines (lead (t.margins place)) (t.isLastAt (place ++ [i])) s =
      s.places.map fun rest => t.lineAt (place ++ [i] ++ rest) := by
  cases s with
  | node label children =>
    have hl : lead (t.margins place) ++ margin (t.isLastAt (place ++ [i])) =
        lead (t.margins (place ++ [i])) := by
      simp [lead, margins_concat]
    have hlabel : t.labelAt (place ++ [i]) = label := by
      rw [labelAt, hs]
      rfl
    rw [branchLines, places, List.map_cons, List.append_nil, lineAt_concat, hlabel, hl]
    exact congrArg _ (forestLines_eq fun k => by rw [Nat.zero_add, at?_child hs])
theorem forestLines_eq {t : Tree} {trees : List Tree} {place : Place} {first : Nat}
    (h : ∀ k, t.at? (place ++ [first + k]) = trees[k]?) :
    forestLines (lead (t.margins place)) trees =
      (forestPlaces first trees).map fun rest => t.lineAt (place ++ rest) := by
  cases trees with
  | nil => rfl
  | cons tree trees =>
    have hfirst : t.at? (place ++ [first]) = some tree := h 0
    have hlast : t.isLastAt (place ++ [first]) = trees.isEmpty := by
      rw [isLastAt_concat, h 1]
      cases trees <;> rfl
    have hrest : ∀ k, t.at? (place ++ [first + 1 + k]) = trees[k]? := fun k => by
      rw [Nat.add_assoc, Nat.add_comm 1 k, h (k + 1)]
      rfl
    rw [forestLines, forestPlaces, List.map_append, List.map_map, ← hlast, branchLines_eq hfirst,
      forestLines_eq hrest]
    simp [Function.comp_def]
end

/-- A drawing has a line for each place. -/
theorem lines_eq (t : Tree) : t.lines = t.places.map t.lineAt := by
  obtain ⟨label, children⟩ := t
  rw [lines, places, List.map_cons]
  have hchildren : ∀ k, (Tree.node label children).at? ([] ++ [0 + k]) = children[k]? := fun k => by
    rw [Nat.zero_add, at?_child rfl]
  exact congrArg _ (forestLines_eq hchildren)

theorem readLine_lineAt {t : Tree} {place : Place} (h : place ≠ []) :
    readLine (t.lineAt place).toList =
      some ⟨place.length - 1, t.isLastAt place, t.labelAt place⟩ := by
  obtain ⟨i, rest, rfl⟩ := List.exists_cons_of_ne_nil h
  rw [lineAt, readLine_lead]
  simp [above]

/-- A tree is drawn with one line for each of its places, in depth-first order.
A line shows, for each place above it but the root, whether another one follows
beside it, then the same for its own place, and then its label. Read up to the
connector, it says all this again, whatever its label is. From all lines
together the tree can be read back. -/
theorem render_readable {t : Tree} (ht : t.OneLine) :
    (∀ place, place ∈ t.places ↔ ∃ s, t.at? place = some s) ∧
      t.places.Pairwise (· < ·) ∧
      linesOf t.render = t.places.map (fun place => (t.lineAt place).toList) ∧
      (∀ place ∈ t.places, place ≠ [] → readLine (t.lineAt place).toList =
        some ⟨place.length - 1, t.isLastAt place, t.labelAt place⟩) ∧
      read t.render = some t := by
  refine ⟨fun _ => mem_places, pairwise_places t, ?_, fun _ _ => readLine_lineAt, read_render ht⟩
  rw [render, linesOf_join (newline_notMem_lines ht), lines_eq, List.map_map]
  rfl

/-- Labels that look like margins and connectors. -/
def misleading : Tree :=
  .node "│   root" [.node "└── a" [.leaf "", .leaf "    ├── "], .leaf "│   "]

theorem misleading_readable :
    misleading.OneLine ∧
      misleading.places = [[], [0], [0, 0], [0, 1], [1]] ∧
      linesOf misleading.render =
        ["│   root", "├── └── a", "│   ├── ", "│   └──     ├── ", "└── │   "].map String.toList ∧
      read misleading.render = some misleading := by
  have hone : misleading.OneLine := by
    simp [misleading, oneLine_node_iff, oneLine_leaf_iff]
  obtain ⟨-, -, hlines, -, hread⟩ := render_readable hone
  exact ⟨hone, rfl, hlines.trans (by decide), hread⟩

end SecretAccess.Display.Tree
