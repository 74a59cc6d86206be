import SecretAccess.Proofs.Decoration

/-!
# The drawn hierarchy without its decoration

The two themes draw the same tree, and the rich one decorates its labels. What
is drawn by the rich theme is stripped of its codes and read as a tree; the
icons are dropped where the theme puts them, and the tree is drawn again. This
is what the plain theme draws (`undecorate_render`).
-/

namespace SecretAccess.Display

open Text

namespace Tree

variable {t : Tree} {f : String → String}

mutual
def mapLabels (f : String → String) : Tree → Tree
  | .node label children => .node (f label) (mapForest f children)
def mapForest (f : String → String) : List Tree → List Tree
  | [] => []
  | tree :: trees => mapLabels f tree :: mapForest f trees
end

theorem mapForest_eq_map (f : String → String) (trees : List Tree) :
    mapForest f trees = trees.map (mapLabels f) := by
  induction trees with
  | nil => rfl
  | cons t trees ih => rw [mapForest, ih, List.map_cons]

@[simp] theorem mapLabels_node (f : String → String) (label : String) (children : List Tree) :
    (Tree.node label children).mapLabels f = .node (f label) (children.map (mapLabels f)) := by
  rw [mapLabels, mapForest_eq_map]

@[simp] theorem mapLabels_leaf (f : String → String) (label : String) :
    (Tree.leaf label).mapLabels f = .leaf (f label) := by
  simp [leaf]

mutual
theorem labels_mapLabels (f : String → String) (t : Tree) :
    (t.mapLabels f).labels = t.labels.map f := by
  cases t with
  | node label children => rw [mapLabels, labels, labels, labels_mapForest, List.map_cons]
theorem labels_mapForest (f : String → String) (trees : List Tree) :
    forestLabels (mapForest f trees) = (forestLabels trees).map f := by
  cases trees with
  | nil => rfl
  | cons t trees =>
    rw [mapForest, forestLabels, forestLabels, labels_mapLabels, labels_mapForest, List.map_append]
end

def mapRoot (f : String → String) : Tree → Tree
  | .node label children => .node (f label) children

def mapChildren (f : Tree → Tree) : Tree → Tree
  | .node label children => .node label (children.map f)

-- ---------------------------------------------------------------------------
-- Legible labels
-- ---------------------------------------------------------------------------

def Legible (t : Tree) : Prop := ∀ label ∈ t.labels, Text.Legible label

theorem legible_node_iff {label : String} {children : List Tree} :
    (Tree.node label children).Legible ↔ Text.Legible label ∧ ∀ t ∈ children, t.Legible := by
  rw [Legible, labels, List.forall_mem_cons, forall_mem_forestLabels]
  rfl

theorem legible_leaf_iff {label : String} : (Tree.leaf label).Legible ↔ Text.Legible label := by
  simp [leaf, legible_node_iff]

theorem strip_line {lead label : String} (isLast : Bool) (hlead : Printable lead)
    (hl : Text.Legible label) : Ansi.strip (lead ++ connector isLast ++ label) =
      lead ++ connector isLast ++ Ansi.strip label := by
  have hc : Printable (connector isLast) := by cases isLast <;> decide
  exact (((ShownAs.refl hlead).append (.refl hc)).append hl.shownAs).strip

mutual
theorem strip_branchLines {lead : String} (hlead : Printable lead) (isLast : Bool) (t : Tree)
    (ht : ∀ label ∈ t.labels, Text.Legible label) : (branchLines lead isLast t).map Ansi.strip =
      branchLines lead isLast (t.mapLabels Ansi.strip) := by
  cases t with
  | node label children =>
    have hm : Printable (margin isLast) := by cases isLast <;> decide
    rw [labels, List.forall_mem_cons] at ht
    rw [mapLabels, branchLines, branchLines, List.map_cons, strip_line isLast hlead ht.1,
      strip_forestLines (hlead.append hm) children ht.2]
theorem strip_forestLines {lead : String} (hlead : Printable lead) (trees : List Tree)
    (ht : ∀ label ∈ forestLabels trees, Text.Legible label) :
    (forestLines lead trees).map Ansi.strip = forestLines lead (mapForest Ansi.strip trees) := by
  cases trees with
  | nil => rfl
  | cons t trees =>
    rw [forestLabels, List.forall_mem_append] at ht
    have he : (mapForest Ansi.strip trees).isEmpty = trees.isEmpty := by cases trees <;> rfl
    rw [mapForest, forestLines, forestLines, List.map_append, he,
      strip_branchLines hlead trees.isEmpty t ht.1, strip_forestLines hlead trees ht.2]
end

theorem strip_render (ht : t.Legible) :
    Ansi.strip t.render = (t.mapLabels Ansi.strip).render := by
  obtain ⟨label, children⟩ := t
  have ht' := ht
  rw [Legible, labels, List.forall_mem_cons] at ht'
  have hf := strip_forestLines (by decide : Printable "") children ht'.2
  rw [render, Ansi.strip_lines, render, mapLabels, lines, lines, ← hf]
  simp [Function.comp_def]

theorem oneLine_mapLabels (ht : t.Legible) : (t.mapLabels Ansi.strip).OneLine := by
  rw [OneLine, labels_mapLabels]
  refine List.forall_mem_map.mpr fun label hl => ?_
  exact (ht label hl).shownAs.printable.newline_notMem

/-- What is drawn with styling is read without it. -/
theorem read_strip_render (ht : t.Legible) :
    read (Ansi.strip t.render) = some (t.mapLabels Ansi.strip) := by
  rw [strip_render ht, read_render (oneLine_mapLabels ht)]

end Tree

theorem map_branch {g h : Tree → Tree} {label label' : String}
    (hn : ∀ children, g (.node label children) = .node label' (children.map h))
    (trees : List Tree) : (branch label trees).map g = branch label' (trees.map h) := by
  cases trees with
  | nil => rfl
  | cons t trees => simp [branch, hn]

theorem map_mapLabels_branch {f : String → String} {label label' : String} (hl : f label = label')
    (trees : List Tree) : (branch label trees).map (Tree.mapLabels f) =
      branch label' (trees.map (Tree.mapLabels f)) :=
  map_branch (fun children => by rw [Tree.mapLabels_node, hl]) trees

theorem map_mapRoot_branch {f : String → String} {label label' : String} (hl : f label = label')
    (trees : List Tree) : (branch label trees).map (Tree.mapRoot f) = branch label' trees := by
  cases trees with
  | nil => rfl
  | cons t trees => simp [branch, Tree.mapRoot, hl]

theorem map_mapChildren_branch (g : Tree → Tree) (label : String) (trees : List Tree) :
    (branch label trees).map (Tree.mapChildren g) = branch label (trees.map g) :=
  map_branch (fun _ => rfl) trees

namespace AccessTree

variable {t : Theme} {v : HierarchyView}

-- ---------------------------------------------------------------------------
-- Dropping icons
-- ---------------------------------------------------------------------------

/-- Access has icons right below a principal, and members and secrets have them
below the branches of a group. The names of secrets and their grantees have none. -/
def dropIconsBelow (part : Tree) : Tree :=
  let perPrincipal := Tree.mapChildren (Tree.mapRoot dropIcon)
  if part.label = "Users" || part.label = "Machines" then
    part.mapChildren perPrincipal
  else if part.label = "Groups" then
    part.mapChildren (Tree.mapChildren (Tree.mapChildren (Tree.mapRoot dropIcon)))
  else part

def dropIcons (t : Tree) : Tree :=
  ((t.mapRoot dropIcon).mapChildren (Tree.mapRoot dropIcon)).mapChildren dropIconsBelow

/-- Takes out the codes and drops the icons of a drawn hierarchy. -/
def undecorate (text : String) : Option String :=
  (Tree.read (Ansi.strip text)).map fun t => (dropIcons t).render

-- ---------------------------------------------------------------------------
-- Labels
-- ---------------------------------------------------------------------------

theorem shownAs_iconed {picture name : String} (hp : picture ∈ pictures) (role : Role)
    (hn : Printable name) :
    ShownAs (t.icon picture ++ t.paint role name) (t.icon picture ++ name) :=
  (shownAs_icon hp).append (Theme.shownAs_paint hn)

theorem shownAs_heading {picture text : String} (hp : picture ∈ pictures) (ht : Printable text) :
    ShownAs (heading t picture text) (t.icon picture ++ text) :=
  shownAs_iconed hp .heading ht

theorem shownAs_access {e : AccessEntry} (hs : Printable e.secret)
    (hv : ∀ g ∈ e.record.via.toList, Printable g) :
    ShownAs (t.icon "🔓" ++ t.paint .heading e.secret ++ " (" ++ attribution t e.record ++ ")")
      (t.icon "🔓" ++ e.secret ++ " (" ++ e.record.text ++ ")") :=
  ((((shownAs_icon (by decide)).append (Theme.shownAs_paint hs)).append (.refl (by decide))).append
    (shownAs_attribution hv)).append (.refl (by decide))

theorem shownAs_groups {groups : List GroupName} (hg : ∀ g ∈ groups, Printable g) :
    ShownAs (t.paint .dim "Groups:" ++ " " ++ t.list .group groups)
      ("Groups:" ++ " " ++ ", ".intercalate groups) :=
  ((Theme.shownAs_paint (by decide)).append (.refl (by decide))).append (Theme.shownAs_list hg)

theorem shownAs_fronted {front name : String} (hf : Printable front) (role : Role)
    (hn : Printable name) : ShownAs (front ++ t.paint role name) (front ++ name) :=
  (ShownAs.refl hf).append (Theme.shownAs_paint hn)

-- ---------------------------------------------------------------------------
-- The parts of the tree are legible
-- ---------------------------------------------------------------------------

theorem legible_of_mem_branch {label : String} {trees : List Tree} (hl : Text.Legible label)
    (h : ∀ t ∈ trees, t.Legible) : ∀ t ∈ branch label trees, t.Legible := by
  cases trees with
  | nil => simp [branch]
  | cons t trees => simpa [branch, Tree.legible_node_iff, hl] using h

theorem legible_leaves {α : Type} {f g : α → String} {l : List α}
    (h : ∀ a ∈ l, ShownAs (f a) (g a)) : ∀ t ∈ l.map fun a => Tree.leaf (f a), t.Legible :=
  List.forall_mem_map.mpr fun a ha => Tree.legible_leaf_iff.mpr ⟨_, h a ha⟩

theorem legible_principal {p : PrincipalView} (hp : p.Clean) : (principal t p).Legible := by
  rw [principal, Tree.legible_node_iff]
  simp only [List.forall_mem_append]
  refine ⟨⟨_, Theme.shownAs_paint hp.name⟩, ⟨legible_of_mem_branch ?_ ?_, ?_⟩, ?_⟩
  · exact ⟨_, Theme.shownAs_paint (by decide)⟩
  · exact legible_leaves fun key hk => Theme.shownAs_paint (hp.keys key hk)
  · cases hg : p.groups with
    | nil => simp
    | cons g groups =>
      have hg : ∀ n ∈ g :: groups, Printable n := hg ▸ hp.groups
      exact List.forall_mem_singleton.mpr (Tree.legible_leaf_iff.mpr ⟨_, shownAs_groups hg⟩)
  · exact legible_leaves fun e he => shownAs_access (hp.secrets e he) (hp.via e he)

theorem legible_group {g : GroupView} (hg : g.Clean) : (group t g).Legible := by
  have hl : ∀ text, Printable text → Text.Legible (t.paint .dim text) := fun _ h =>
    ⟨_, Theme.shownAs_paint h⟩
  rw [group, Tree.legible_node_iff]
  simp only [List.forall_mem_append]
  refine ⟨⟨_, Theme.shownAs_paint hg.name⟩, ⟨?_, ?_⟩, ?_⟩
  · exact legible_of_mem_branch (hl _ (by decide)) (legible_leaves fun n hn =>
      shownAs_iconed (by decide) .user (hg.users n hn))
  · exact legible_of_mem_branch (hl _ (by decide)) (legible_leaves fun n hn =>
      shownAs_iconed (by decide) .machine (hg.machines n hn))
  · exact legible_of_mem_branch (hl _ (by decide)) (legible_leaves fun s hs =>
      shownAs_iconed (by decide) .inherited (hg.secrets s hs))

theorem legible_secret {r : GrantRow} (hr : r.Clean) : (secret t r).Legible := by
  rw [secret, Tree.legible_node_iff]
  refine ⟨⟨_, Theme.shownAs_paint hr.secret⟩, legible_of_mem_branch ?_ ?_⟩
  · exact ⟨_, Theme.shownAs_paint (by decide)⟩
  · simp only [List.forall_mem_append]
    refine ⟨⟨?_, ?_⟩, ?_⟩
    · exact legible_leaves fun n hn => shownAs_fronted (by decide) .user (hr.users n hn)
    · exact legible_leaves fun n hn => shownAs_fronted (by decide) .machine (hr.machines n hn)
    · exact legible_leaves fun g hg => shownAs_fronted (by decide) .group (hr.groups g hg)

theorem legible_ofView (hv : v.Closed) (h : v.Clean) : (ofView t v).Legible := by
  have hl : ∀ picture ∈ pictures, ∀ text, Printable text → Text.Legible (heading t picture text) :=
    fun _ hp _ ht => ⟨_, shownAs_heading hp ht⟩
  rw [ofView, Tree.legible_node_iff]
  simp only [List.forall_mem_append]
  refine ⟨⟨_, shownAs_iconed (by decide) .title (by decide)⟩, ⟨⟨?_, ?_⟩, ?_⟩, ?_⟩
  · exact legible_of_mem_branch (hl _ (by decide) _ (by decide)) (List.forall_mem_map.mpr
      fun p hp => legible_principal (h.principalView hv (List.mem_append_left _ hp)))
  · exact legible_of_mem_branch (hl _ (by decide) _ (by decide)) (List.forall_mem_map.mpr
      fun p hp => legible_principal (h.principalView hv (List.mem_append_right _ hp)))
  · exact legible_of_mem_branch (hl _ (by decide) _ (by decide)) (List.forall_mem_map.mpr
      fun g hg => legible_group (h.groupView hv hg))
  · exact legible_of_mem_branch (hl _ (by decide) _ (by decide)) (List.forall_mem_map.mpr
      fun r hr => legible_secret (h.grantRow hv hr))

-- ---------------------------------------------------------------------------
-- The parts of the tree without their decoration
-- ---------------------------------------------------------------------------

theorem map_leaves {α : Type} {f g : α → String} {l : List α} {h : Tree → Tree}
    (hl : ∀ a ∈ l, h (.leaf (f a)) = .leaf (g a)) :
    (l.map fun a => Tree.leaf (f a)).map h = l.map fun a => .leaf (g a) := by
  rw [List.map_map]
  exact List.map_congr_left hl

/-- Codes are taken out of leaves that are shown as others. -/
theorem strip_leaves {α : Type} {f g : α → String} {l : List α}
    (h : ∀ a ∈ l, ShownAs (f a) (g a)) :
    (l.map fun a => Tree.leaf (f a)).map (Tree.mapLabels Ansi.strip) =
      l.map fun a => .leaf (g a) :=
  map_leaves fun a ha => by rw [Tree.mapLabels_leaf, (h a ha).strip]

theorem dropIcon_leaves {α : Type} {picture : String} {g : α → String} {l : List α}
    (hp : picture ∈ pictures) :
    (l.map fun a => Tree.leaf (Theme.rich.icon picture ++ g a)).map (Tree.mapRoot dropIcon) =
      l.map fun a => .leaf (g a) :=
  map_leaves fun a _ => by rw [Tree.leaf, Tree.mapRoot, dropIcon_icon hp]; rfl

/-- A branch of leaves that carry no icon. -/
theorem bare_branch {α : Type} {text : String} {f g : α → String} {l : List α}
    (ht : Printable text) (hd : dropIcon text = text) (h : ∀ a ∈ l, ShownAs (f a) (g a)) :
    ((branch (Theme.rich.paint .dim text) (l.map fun a => .leaf (f a))).map
      (Tree.mapLabels Ansi.strip)).map (Tree.mapRoot dropIcon) =
        branch text (l.map fun a => .leaf (g a)) := by
  rw [map_mapLabels_branch (Theme.shownAs_paint ht).strip, strip_leaves h, map_mapRoot_branch hd]

theorem dropIcon_groups (text : String) :
    dropIcon ("Groups:" ++ " " ++ text) = "Groups:" ++ " " ++ text :=
  dropIcon_of_expect (by simp [pictures, Theme.icon, Reading.expect])

/-- A branch of leaves that carry an icon each. -/
theorem bare_iconed_branch {text picture : String} {names : List String} (ht : Printable text)
    (hp : picture ∈ pictures) (role : Role) (hn : ∀ name ∈ names, Printable name) :
    ((branch (Theme.rich.paint .dim text) (names.map fun name =>
        .leaf (Theme.rich.icon picture ++ Theme.rich.paint role name))).map
      (Tree.mapLabels Ansi.strip)).map (Tree.mapChildren (Tree.mapRoot dropIcon)) =
        branch text (names.map fun name => .leaf name) := by
  rw [map_mapLabels_branch (Theme.shownAs_paint ht).strip,
    strip_leaves fun name h => shownAs_iconed hp role (hn name h), map_mapChildren_branch,
    dropIcon_leaves hp]

theorem bare_groups {groups : List GroupName} (hg : ∀ g ∈ groups, Printable g) :
    ((Tree.leaf (Theme.rich.paint .dim "Groups:" ++ " " ++
      Theme.rich.list .group groups)).mapLabels Ansi.strip).mapRoot dropIcon =
        .leaf ("Groups:" ++ " " ++ ", ".intercalate groups) := by
  rw [Tree.mapLabels_leaf, (shownAs_groups hg).strip, Tree.leaf, Tree.mapRoot, dropIcon_groups]

theorem bare_access {l : List AccessEntry} (hs : ∀ e ∈ l, Printable e.secret)
    (hv : ∀ e ∈ l, ∀ g ∈ e.record.via.toList, Printable g) :
    ((l.map (accessLeaf .rich)).map (Tree.mapLabels Ansi.strip)).map (Tree.mapRoot dropIcon) =
      l.map (accessLeaf .plain) := by
  rw [List.map_map, List.map_map]
  refine List.map_congr_left fun e he => ?_
  have hl : (accessLeaf .rich e).mapLabels Ansi.strip =
      .leaf (Theme.rich.icon "🔓" ++ (e.secret ++ " (" ++ e.record.text ++ ")")) := by
    rw [accessLeaf, Tree.mapLabels_leaf, (shownAs_access (hs e he) (hv e he)).strip]
    simp [String.append_assoc]
  rw [Function.comp_apply, Function.comp_apply, hl, Tree.leaf, Tree.mapRoot,
    dropIcon_icon (by decide), accessLeaf, attribution_plain]
  simp [Tree.leaf]

theorem bare_principal {p : PrincipalView} (hp : p.Clean) :
    ((principal .rich p).mapLabels Ansi.strip).mapChildren (Tree.mapRoot dropIcon) =
      principal .plain p := by
  rw [principal, principal, Tree.mapLabels_node, Tree.mapChildren,
    (Theme.shownAs_paint hp.name).strip]
  simp only [List.map_append, bare_access hp.secrets hp.via]
  rw [bare_branch (by decide) (by decide) fun key hk => Theme.shownAs_paint (hp.keys key hk)]
  cases hg : p.groups with
  | nil => simp
  | cons g groups =>
    have hg : ∀ n ∈ g :: groups, Printable n := hg ▸ hp.groups
    simp only [List.map_cons, List.map_nil, bare_groups hg, Theme.paint_plain, Theme.list_plain]

theorem bare_group {g : GroupView} (hg : g.Clean) :
    ((group .rich g).mapLabels Ansi.strip).mapChildren
      (Tree.mapChildren (Tree.mapRoot dropIcon)) = group .plain g := by
  rw [group, group, Tree.mapLabels_node, Tree.mapChildren, (Theme.shownAs_paint hg.name).strip]
  simp only [List.map_append]
  rw [bare_iconed_branch (by decide) (by decide) .user hg.users,
    bare_iconed_branch (by decide) (by decide) .machine hg.machines,
    bare_iconed_branch (by decide) (by decide) .inherited hg.secrets]
  simp

theorem bare_secret {r : GrantRow} (hr : r.Clean) :
    (secret .rich r).mapLabels Ansi.strip = secret .plain r := by
  rw [secret, secret, Tree.mapLabels_node, (Theme.shownAs_paint hr.secret).strip,
    map_mapLabels_branch (Theme.shownAs_paint (by decide)).strip]
  simp only [List.map_append]
  rw [strip_leaves fun n hn => shownAs_fronted (by decide) .user (hr.users n hn),
    strip_leaves fun n hn => shownAs_fronted (by decide) .machine (hr.machines n hn),
    strip_leaves fun g hg => shownAs_fronted (by decide) .group (hr.groups g hg)]
  simp

theorem dropIconsBelow_users (children : List Tree) :
    dropIconsBelow (.node "Users" children) =
      .node "Users" (children.map (Tree.mapChildren (Tree.mapRoot dropIcon))) := by
  simp [dropIconsBelow, Tree.label, Tree.mapChildren]

theorem dropIconsBelow_machines (children : List Tree) :
    dropIconsBelow (.node "Machines" children) =
      .node "Machines" (children.map (Tree.mapChildren (Tree.mapRoot dropIcon))) := by
  simp [dropIconsBelow, Tree.label, Tree.mapChildren]

theorem dropIconsBelow_groups (children : List Tree) :
    dropIconsBelow (.node "Groups" children) = .node "Groups"
      (children.map (Tree.mapChildren (Tree.mapChildren (Tree.mapRoot dropIcon)))) := by
  simp [dropIconsBelow, Tree.label, Tree.mapChildren]

theorem dropIconsBelow_secrets (children : List Tree) :
    dropIconsBelow (.node "Secrets" children) = .node "Secrets" (children.map id) := by
  simp [dropIconsBelow, Tree.label]

/-- A section, given how icons are dropped below its heading. -/
theorem bare_section {α : Type} {picture text : String} {rich plain : α → Tree} {l : List α}
    {h : Tree → Tree} (hp : picture ∈ pictures) (ht : Printable text)
    (hb : ∀ children, dropIconsBelow (.node text children) = .node text (children.map h))
    (hl : ∀ a ∈ l, h ((rich a).mapLabels Ansi.strip) = plain a) :
    (((branch (heading .rich picture text) (l.map rich)).map (Tree.mapLabels Ansi.strip)).map
      (Tree.mapRoot dropIcon)).map dropIconsBelow = branch text (l.map plain) := by
  rw [map_mapLabels_branch (shownAs_heading hp ht).strip,
    map_mapRoot_branch (dropIcon_icon hp text), map_branch hb, List.map_map, List.map_map]
  exact congrArg _ (List.map_congr_left hl)

theorem dropIcons_ofView (hv : v.Closed) (h : v.Clean) :
    dropIcons ((ofView .rich v).mapLabels Ansi.strip) = ofView .plain v := by
  have hroot : Ansi.strip (Theme.rich.icon "🔐" ++
      Theme.rich.paint .title "SOPS Access Control Hierarchy") =
        Theme.rich.icon "🔐" ++ "SOPS Access Control Hierarchy" :=
    (shownAs_iconed (by decide) .title (by decide)).strip
  rw [ofView, ofView, Tree.mapLabels_node, dropIcons, Tree.mapRoot, Tree.mapChildren,
    Tree.mapChildren, hroot, dropIcon_icon (by decide)]
  simp only [List.map_append]
  rw [bare_section (by decide) (by decide) dropIconsBelow_users fun p hp =>
      bare_principal (h.principalView hv (List.mem_append_left _ hp)),
    bare_section (by decide) (by decide) dropIconsBelow_machines fun p hp =>
      bare_principal (h.principalView hv (List.mem_append_right _ hp)),
    bare_section (by decide) (by decide) dropIconsBelow_groups fun g hg =>
      bare_group (h.groupView hv hg),
    bare_section (by decide) (by decide) dropIconsBelow_secrets fun r hr =>
      bare_secret (h.grantRow hv hr)]
  rfl

/-- The drawing of the rich theme is that of the plain one with decoration. -/
theorem undecorate_render (hv : v.Closed) (h : v.Clean) :
    undecorate (render .rich v) = some (render .plain v) := by
  rw [undecorate, render, Tree.read_strip_render (legible_ofView hv h), Option.map_some,
    dropIcons_ofView hv h, render]

end AccessTree

end SecretAccess.Display
