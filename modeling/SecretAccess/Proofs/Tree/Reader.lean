import SecretAccess.Display.Tree
import Mathlib.Data.List.Basic

/-!
# Reading a drawn tree back

A line is read up to its connector: what stands before says how deep the node
lies, what follows is its label, whatever characters this is made of. From the
depths alone the nesting is built up again, beginning at the last line. Labels
must not break lines, and then a tree can be read back from its text
(`read_render`).
-/

namespace SecretAccess.Display.Tree

mutual
def labels : Tree → List String
  | .node label children => label :: forestLabels children
def forestLabels : List Tree → List String
  | [] => []
  | tree :: trees => labels tree ++ forestLabels trees
end

/-- No label breaks its line. -/
def OneLine (t : Tree) : Prop := ∀ label ∈ t.labels, '\n' ∉ label.toList

/-- What a line says about its node. -/
structure Line where
  depth : Nat
  isLast : Bool
  label : String
deriving DecidableEq, Repr

theorem forall_mem_forestLabels {P : String → Prop} {trees : List Tree} :
    (∀ label ∈ forestLabels trees, P label) ↔ ∀ t ∈ trees, ∀ label ∈ t.labels, P label := by
  induction trees with
  | nil => simp [forestLabels]
  | cons t trees ih => rw [forestLabels, List.forall_mem_append, ih, List.forall_mem_cons]

theorem oneLine_node_iff {label : String} {children : List Tree} :
    (Tree.node label children).OneLine ↔
      '\n' ∉ label.toList ∧ ∀ t ∈ children, t.OneLine := by
  rw [OneLine, labels, List.forall_mem_cons, forall_mem_forestLabels]
  rfl

theorem oneLine_leaf_iff {label : String} :
    (Tree.leaf label).OneLine ↔ '\n' ∉ label.toList := by
  simp [leaf, oneLine_node_iff]

mutual
def branchOutline (depth : Nat) (isLast : Bool) : Tree → List Line
  | .node label children => ⟨depth, isLast, label⟩ :: forestOutline (depth + 1) children
def forestOutline (depth : Nat) : List Tree → List Line
  | [] => []
  | tree :: trees => branchOutline depth trees.isEmpty tree ++ forestOutline depth trees
end

-- ---------------------------------------------------------------------------
-- Lines
-- ---------------------------------------------------------------------------

def Line.deeper (l : Line) : Line := { l with depth := l.depth + 1 }

/-- The margins in front, up to the first connector. -/
def readLine : List Char → Option Line
  | '│' :: ' ' :: ' ' :: ' ' :: cs => (readLine cs).map .deeper
  | ' ' :: ' ' :: ' ' :: ' ' :: cs => (readLine cs).map .deeper
  | '├' :: '─' :: '─' :: ' ' :: cs => some ⟨0, false, String.ofList cs⟩
  | '└' :: '─' :: '─' :: ' ' :: cs => some ⟨0, true, String.ofList cs⟩
  | _ => none

def lead (margins : List Bool) : String := String.join (margins.map margin)

theorem readLine_margin (isLast : Bool) (s : String) :
    readLine (margin isLast ++ s).toList = (readLine s.toList).map .deeper := by
  cases isLast <;> simp [margin, readLine]

theorem readLine_lead (margins : List Bool) (isLast : Bool) (label : String) :
    readLine (lead margins ++ connector isLast ++ label).toList =
      some ⟨margins.length, isLast, label⟩ := by
  induction margins with
  | nil => cases isLast <;> simp [lead, connector, readLine]
  | cons m margins ih =>
    have hl : lead (m :: margins) ++ connector isLast ++ label =
        margin m ++ (lead margins ++ connector isLast ++ label) := by
      simp [lead, String.append_assoc]
    rw [hl, readLine_margin, ih]
    simp [Line.deeper]

mutual
theorem readLine_branchLines (margins : List Bool) (isLast : Bool) (t : Tree) :
    (branchLines (lead margins) isLast t).map (readLine ·.toList) =
      (branchOutline margins.length isLast t).map some := by
  cases t with
  | node label children =>
    have hl : lead margins ++ margin isLast = lead (margins ++ [isLast]) := by simp [lead]
    have ih := readLine_forestLines (margins ++ [isLast]) children
    rw [List.length_append, List.length_singleton] at ih
    rw [branchLines, branchOutline, List.map_cons, List.map_cons, readLine_lead, hl, ih]
theorem readLine_forestLines (margins : List Bool) (trees : List Tree) :
    (forestLines (lead margins) trees).map (readLine ·.toList) =
      (forestOutline margins.length trees).map some := by
  cases trees with
  | nil => rfl
  | cons t trees =>
    rw [forestLines, forestOutline, List.map_append, List.map_append, readLine_branchLines,
      readLine_forestLines]
end

theorem newline_notMem_lead (margins : List Bool) : '\n' ∉ (lead margins).toList := by
  induction margins with
  | nil => simp [lead]
  | cons m margins ih =>
    have hm : '\n' ∉ (margin m).toList := by cases m <;> decide
    have hl : lead (m :: margins) = margin m ++ lead margins := by simp [lead]
    simp [hl, hm, ih]

theorem newline_notMem_line (margins : List Bool) (isLast : Bool) {label : String}
    (hl : '\n' ∉ label.toList) :
    '\n' ∉ (lead margins ++ connector isLast ++ label).toList := by
  have hc : '\n' ∉ (connector isLast).toList := by cases isLast <;> decide
  simp [newline_notMem_lead, hc, hl]

mutual
theorem newline_notMem_branchLines (margins : List Bool) (isLast : Bool) (t : Tree)
    (ht : ∀ label ∈ t.labels, '\n' ∉ label.toList) :
    ∀ line ∈ branchLines (lead margins) isLast t, '\n' ∉ line.toList := by
  cases t with
  | node label children =>
    have hl : lead margins ++ margin isLast = lead (margins ++ [isLast]) := by simp [lead]
    rw [labels, List.forall_mem_cons] at ht
    rw [branchLines, List.forall_mem_cons, hl]
    exact ⟨newline_notMem_line margins isLast ht.1,
      newline_notMem_forestLines (margins ++ [isLast]) children ht.2⟩
theorem newline_notMem_forestLines (margins : List Bool) (trees : List Tree)
    (ht : ∀ label ∈ forestLabels trees, '\n' ∉ label.toList) :
    ∀ line ∈ forestLines (lead margins) trees, '\n' ∉ line.toList := by
  cases trees with
  | nil => simp [forestLines]
  | cons t trees =>
    rw [forestLabels, List.forall_mem_append] at ht
    rw [forestLines, List.forall_mem_append]
    exact ⟨newline_notMem_branchLines margins trees.isEmpty t ht.1,
      newline_notMem_forestLines margins trees ht.2⟩
end

theorem newline_notMem_lines {t : Tree} (ht : t.OneLine) :
    ∀ line ∈ t.lines, '\n' ∉ line.toList := by
  obtain ⟨label, children⟩ := t
  rw [OneLine, labels, List.forall_mem_cons] at ht
  rw [lines, List.forall_mem_cons]
  exact ⟨ht.1, newline_notMem_forestLines [] children ht.2⟩

-- ---------------------------------------------------------------------------
-- Nesting
-- ---------------------------------------------------------------------------

/-- A node, put in front of the trees that follow it. Those that lie deeper are
below it. -/
def plant (l : Line) (found : List (Nat × Tree)) : List (Nat × Tree) :=
  (l.depth, .node l.label ((found.takeWhile (l.depth < ·.1)).map (·.2))) ::
    found.dropWhile (l.depth < ·.1)

theorem plant_children {depth : Nat} {isLast : Bool} {label : String} {children : List Tree}
    {found : List (Nat × Tree)} (hf : ∀ f ∈ found, f.1 ≤ depth) :
    plant ⟨depth, isLast, label⟩ (children.map (depth + 1, ·) ++ found) =
      (depth, .node label children) :: found := by
  have hc : ∀ f ∈ children.map ((depth + 1, ·) : Tree → Nat × Tree), decide (depth < f.1) := by
    simp
  have hn : ∀ f ∈ found, decide (depth < f.1) = false := fun f h => by simpa using hf f h
  have ht : found.takeWhile (depth < ·.1) = [] := by
    cases found with
    | nil => rfl
    | cons f found => rw [List.takeWhile_cons, hn f (by simp)]; rfl
  have hd : found.dropWhile (depth < ·.1) = found := by
    cases found with
    | nil => rfl
    | cons f found => rw [List.dropWhile_cons, hn f (by simp)]; rfl
  simp only [plant]
  rw [List.takeWhile_append_of_pos hc, List.dropWhile_append_of_pos hc, ht, hd]
  simp [Function.comp_def]

mutual
theorem foldr_plant_branch {depth : Nat} {isLast : Bool} {t : Tree} {found : List (Nat × Tree)}
    (hf : ∀ f ∈ found, f.1 ≤ depth) :
    (branchOutline depth isLast t).foldr plant found = (depth, t) :: found := by
  cases t with
  | node label children =>
    have hf' : ∀ f ∈ found, f.1 ≤ depth + 1 := fun f h => Nat.le_succ_of_le (hf f h)
    rw [branchOutline, List.foldr_cons, foldr_plant_forest hf', plant_children hf]
theorem foldr_plant_forest {depth : Nat} {trees : List Tree} {found : List (Nat × Tree)}
    (hf : ∀ f ∈ found, f.1 ≤ depth) :
    (forestOutline depth trees).foldr plant found = trees.map (depth, ·) ++ found := by
  cases trees with
  | nil => rfl
  | cons t trees =>
    have hf' : ∀ f ∈ trees.map ((depth, ·) : Tree → Nat × Tree) ++ found, f.1 ≤ depth := by
      intro f h
      rcases List.mem_append.mp h with h | h
      · obtain ⟨t, -, rfl⟩ := List.mem_map.mp h
        exact Nat.le_refl _
      · exact hf f h
    rw [forestOutline, List.foldr_append, foldr_plant_forest hf, foldr_plant_branch hf']
    rfl
end

-- ---------------------------------------------------------------------------
-- Texts
-- ---------------------------------------------------------------------------

/-- What stands behind the last line break is no line. -/
def linesOf (text : String) : List (List Char) := (text.toList.splitOn '\n').dropLast

def read (text : String) : Option Tree :=
  match linesOf text with
  | [] => none
  | root :: lines => (lines.mapM readLine).map fun outline =>
    .node (String.ofList root) ((outline.foldr plant []).map (·.2))

theorem splitOn_lines {lines : List String} (hl : ∀ line ∈ lines, '\n' ∉ line.toList) :
    (String.join (lines.map (· ++ "\n"))).toList.splitOn '\n' = lines.map (·.toList) ++ [[]] := by
  induction lines with
  | nil => simp
  | cons line lines ih =>
    obtain ⟨h, hl⟩ := List.forall_mem_cons.mp hl
    have ht : (String.join ((line :: lines).map (· ++ "\n"))).toList =
        line.toList ++ '\n' :: (String.join (lines.map (· ++ "\n"))).toList := by
      simp
    rw [ht, List.splitOn_append_cons_self_of_not_mem h, ih hl]
    rfl

theorem linesOf_join {lines : List String} (hl : ∀ line ∈ lines, '\n' ∉ line.toList) :
    linesOf (String.join (lines.map (· ++ "\n"))) = lines.map (·.toList) := by
  rw [linesOf, splitOn_lines hl, List.dropLast_concat]

theorem mapM_eq_some_of_map {α β : Type} {f : α → Option β} {l : List α} {m : List β}
    (h : l.map f = m.map some) : l.mapM f = some m := by
  induction l generalizing m with
  | nil => cases m with
    | nil => rfl
    | cons => cases h
  | cons a l ih => cases m with
    | nil => cases h
    | cons b m =>
      obtain ⟨hb, hm⟩ := List.cons.inj h
      rw [List.mapM_cons, hb, ih hm]
      rfl

theorem read_render {t : Tree} (ht : t.OneLine) : read t.render = some t := by
  have hlines := newline_notMem_lines ht
  obtain ⟨label, children⟩ := t
  have hout : ((forestLines "" children).map (·.toList)).mapM readLine =
      some (forestOutline 0 children) := by
    refine mapM_eq_some_of_map ?_
    rw [List.map_map]
    exact readLine_forestLines [] children
  rw [read, render, linesOf_join hlines, lines]
  simp only [List.map_cons, hout, Option.map_some]
  rw [foldr_plant_forest (by simp)]
  simp [Function.comp_def]

/-- Trees that are drawn the same are the same. -/
theorem eq_of_render_eq {s t : Tree} (hs : s.OneLine) (ht : t.OneLine)
    (h : s.render = t.render) : s = t := by
  have hr := congrArg read h
  rwa [read_render hs, read_render ht, Option.some.injEq] at hr

end SecretAccess.Display.Tree
