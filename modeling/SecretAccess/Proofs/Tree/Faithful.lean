import SecretAccess.Display.AccessTree
import SecretAccess.Proofs.CrossReference
import SecretAccess.Proofs.Reading
import SecretAccess.Proofs.Tree.Reader

/-!
# The drawn hierarchy says what the view says

Some lines of the drawn hierarchy can be read in more than one way: a list of
groups does not say where one name ends, and a secret may be named like such a
list. What the other lines say is enough. The keys of a principal have a branch
of their own, its groups are those that list it as a member, and its access
follows from the grants (`accessShown_eq`).
-/

namespace SecretAccess.Display

@[simp] theorem Theme.paint_plain (role : Role) (text : String) :
    Theme.plain.paint role text = text := rfl

@[simp] theorem Theme.icon_plain (picture : String) : Theme.plain.icon picture = "" := rfl

@[simp] theorem Theme.list_plain (role : Role) (names : List String) :
    Theme.plain.list role names = ", ".intercalate names := by
  rw [Theme.list, List.map_congr_left fun name _ => Theme.paint_plain role name, List.map_id']

-- ---------------------------------------------------------------------------
-- Branches
-- ---------------------------------------------------------------------------

/-- What hangs below the nodes of this label. -/
def childrenUnder (label : String) (trees : List Tree) : List Tree :=
  (trees.filter (·.label = label)).flatMap Tree.children

@[simp] theorem childrenUnder_append (label : String) (s t : List Tree) :
    childrenUnder label (s ++ t) = childrenUnder label s ++ childrenUnder label t := by
  simp [childrenUnder]

@[simp] theorem childrenUnder_branch_self (label : String) (trees : List Tree) :
    childrenUnder label (branch label trees) = trees := by
  cases trees <;> simp [childrenUnder, branch, Tree.label, Tree.children]

theorem childrenUnder_branch_of_ne {label other : String} (h : other ≠ label)
    (trees : List Tree) : childrenUnder label (branch other trees) = [] := by
  cases trees <;> simp [childrenUnder, branch, Tree.label, h]

/-- A leaf has nothing below it, whatever its label is. -/
@[simp] theorem childrenUnder_leaf_cons (label text : String) (trees : List Tree) :
    childrenUnder label (.leaf text :: trees) = childrenUnder label trees := by
  by_cases h : text = label <;> simp [childrenUnder, Tree.leaf, Tree.label, Tree.children, h]

theorem childrenUnder_leaves (label : String) {α : Type} (f : α → String) (l : List α) :
    childrenUnder label (l.map fun a => .leaf (f a)) = [] := by
  induction l with
  | nil => rfl
  | cons a l ih => rw [List.map_cons, childrenUnder_leaf_cons, ih]

def leafLabels (trees : List Tree) : List String := trees.map Tree.label

theorem leafLabels_leaves (names : List String) :
    leafLabels (names.map fun name => .leaf name) = names := by
  simp [leafLabels, Tree.leaf, Tree.label, Function.comp_def]

/-- The names behind this text on the leaves that begin with it. -/
def namesAfter (front : String) (leaves : List Tree) : List String :=
  leaves.filterMap fun t => (Reading.expect front.toList t.label.toList).map String.ofList

@[simp] theorem namesAfter_append (front : String) (s t : List Tree) :
    namesAfter front (s ++ t) = namesAfter front s ++ namesAfter front t := by
  simp [namesAfter]

theorem namesAfter_self (front : String) (names : List String) :
    namesAfter front (names.map fun name => .leaf (front ++ name)) = names := by
  simp [namesAfter, Tree.leaf, Tree.label, List.filterMap_map]

theorem namesAfter_of_expect {front other : String}
    (h : ∀ cs, Reading.expect front.toList (other.toList ++ cs) = none) (names : List String) :
    namesAfter front (names.map fun name => .leaf (other ++ name)) = [] := by
  simp [namesAfter, Tree.leaf, Tree.label, List.filterMap_map, h]

namespace AccessTree

/-- What a drawn hierarchy says without a look at the lines on access. -/
structure Contents where
  users : List (String × List String)
  machines : List (String × List String)
  groups : List GroupView
  secrets : List GrantRow
deriving DecidableEq

def keysOf (p : PrincipalView) : String × List String := (p.id.name, p.publicKeys)

def contents (v : HierarchyView) : Contents :=
  ⟨v.users.map keysOf, v.machines.map keysOf, v.groups, v.secrets⟩

-- ---------------------------------------------------------------------------
-- Reading the sections
-- ---------------------------------------------------------------------------

def readPrincipal (t : Tree) : String × List String :=
  (t.label, leafLabels (childrenUnder "Public keys" t.children))

def readGroup (t : Tree) : GroupView where
  name := t.label
  users := leafLabels (childrenUnder "Users" t.children)
  machines := leafLabels (childrenUnder "Machines" t.children)
  secrets := leafLabels (childrenUnder "Secrets" t.children)

def readRow (t : Tree) : GrantRow :=
  let leaves := childrenUnder "Access granted to" t.children
  { secret := t.label
    users := namesAfter "User: " leaves
    machines := namesAfter "Machine: " leaves
    groups := namesAfter "Group: " leaves }

def readContents (t : Tree) : Contents where
  users := (childrenUnder "Users" t.children).map readPrincipal
  machines := (childrenUnder "Machines" t.children).map readPrincipal
  groups := (childrenUnder "Groups" t.children).map readGroup
  secrets := (childrenUnder "Secrets" t.children).map readRow

theorem readPrincipal_principal (p : PrincipalView) :
    readPrincipal (principal .plain p) = keysOf p := by
  have hs : childrenUnder "Public keys" (p.secrets.map (accessLeaf .plain)) = [] :=
    childrenUnder_leaves _ _ p.secrets
  -- the line on groups is a leaf too, if there is one
  cases h : p.groups with
  | nil | cons =>
    simp [readPrincipal, principal, Tree.children, Tree.label, keysOf, leafLabels_leaves, hs, h]

theorem readGroup_group (g : GroupView) : readGroup (group .plain g) = g := by
  have hm : ∀ trees, childrenUnder "Users" (branch "Machines" trees) = [] :=
    childrenUnder_branch_of_ne (by decide)
  simp [readGroup, group, Tree.children, Tree.label, childrenUnder_branch_of_ne, leafLabels_leaves]

theorem readRow_secret (r : GrantRow) : readRow (secret .plain r) = r := by
  simp [readRow, secret, Tree.children, Tree.label, namesAfter_self, namesAfter_of_expect,
    Reading.expect]

theorem readContents_ofView (v : HierarchyView) :
    readContents (ofView .plain v) = contents v := by
  simp [readContents, ofView, heading, Tree.children, childrenUnder_branch_of_ne, contents,
    Function.comp_def, readPrincipal_principal, readGroup_group, readRow_secret]

-- ---------------------------------------------------------------------------
-- Labels on one line
-- ---------------------------------------------------------------------------

theorem newline_notMem_intercalate {names : List String}
    (h : ∀ name ∈ names, '\n' ∉ name.toList) :
    '\n' ∉ [',', ' '].intercalate (names.map String.toList) := by
  induction names with
  | nil => simp
  | cons name names ih =>
    obtain ⟨hn, h⟩ := List.forall_mem_cons.mp h
    cases names with
    | nil => simpa using hn
    | cons next names =>
      have ih := ih h
      rw [List.map_cons] at ih
      rw [List.map_cons, List.map_cons, List.intercalate_cons_of_ne_nil (List.cons_ne_nil _ _)]
      simp [hn, ih]

theorem newline_notMem_attribution {r : AccessRecord}
    (h : ∀ g ∈ r.via.toList, '\n' ∉ g.toList) : '\n' ∉ (attribution .plain r).toList := by
  have hl := newline_notMem_intercalate h
  unfold attribution
  cases r.direct <;> cases r.inherited <;> simp [hl]

theorem oneLine_of_mem_branch {label : String} {trees : List Tree} (hl : '\n' ∉ label.toList)
    (h : ∀ t ∈ trees, t.OneLine) : ∀ t ∈ branch label trees, t.OneLine := by
  cases trees with
  | nil => simp [branch]
  | cons t trees => simpa [branch, Tree.oneLine_node_iff, hl] using h

end AccessTree

end SecretAccess.Display

namespace SecretAccess

namespace HierarchyView

theorem mem_principals_of_mem_ofKind {v : HierarchyView} {kind : PrincipalKind} {p : PrincipalView}
    (hp : p ∈ v.ofKind kind) : p ∈ v.principals := by
  cases kind with
  | user => exact List.mem_append_left _ hp
  | machine => exact List.mem_append_right _ hp

/-- No name and no key that is shown breaks a line. -/
structure OneLine (v : HierarchyView) : Prop where
  principals : ∀ p ∈ v.principals, '\n' ∉ p.id.name.toList
  keys : ∀ p ∈ v.principals, ∀ key ∈ p.publicKeys, '\n' ∉ key.toList
  groups : ∀ g ∈ v.groups, '\n' ∉ g.name.toList
  secrets : ∀ r ∈ v.secrets, '\n' ∉ r.secret.toList

namespace OneLine

variable {v : HierarchyView}

theorem principal (h : v.OneLine) {kind : PrincipalKind} {n : String}
    (hn : OneEntry (v.ofKind kind) (·.id) ⟨kind, n⟩) : '\n' ∉ n.toList := by
  obtain ⟨p, hp, hid⟩ := hn.exists_mem
  have hname : p.id.name = n := congrArg PrincipalId.name hid
  exact hname ▸ h.principals p (mem_principals_of_mem_ofKind hp)

theorem group (h : v.OneLine) {g : GroupName} (hg : OneEntry v.groups (·.name) g) :
    '\n' ∉ g.toList := by
  obtain ⟨w, hw, rfl⟩ := hg.exists_mem
  exact h.groups w hw

theorem secret (h : v.OneLine) {s : SecretName} (hs : OneEntry v.secrets (·.secret) s) :
    '\n' ∉ s.toList := by
  obtain ⟨r, hr, rfl⟩ := hs.exists_mem
  exact h.secrets r hr

end OneLine

end HierarchyView

namespace Display.AccessTree

variable {v : HierarchyView}

theorem oneLine_leaves {names : List String} {front : String} (hf : '\n' ∉ front.toList)
    (h : ∀ name ∈ names, '\n' ∉ name.toList) :
    ∀ t ∈ names.map fun name => Tree.leaf (front ++ name), t.OneLine := by
  refine List.forall_mem_map.mpr fun name hn => ?_
  simp [Tree.oneLine_leaf_iff, hf, h name hn]

theorem oneLine_accessLeaf {e : AccessEntry} (hs : '\n' ∉ e.secret.toList)
    (hv : ∀ g ∈ e.record.via.toList, '\n' ∉ g.toList) : (accessLeaf .plain e).OneLine := by
  rw [accessLeaf, Tree.oneLine_leaf_iff]
  simp [hs, newline_notMem_attribution hv]

theorem oneLine_principal (hv : v.Closed) (h : v.OneLine) {p : PrincipalView}
    (hp : p ∈ v.principals) : (principal .plain p).OneLine := by
  have hgroups : ∀ g ∈ p.groups, '\n' ∉ g.toList := fun g hg => h.group (hv.groups p hp g hg)
  rw [principal, Tree.oneLine_node_iff]
  simp only [List.forall_mem_append]
  refine ⟨h.principals p hp, ⟨oneLine_of_mem_branch (by decide) ?_, ?_⟩, ?_⟩
  · simpa [Tree.oneLine_leaf_iff] using h.keys p hp
  · cases hg : p.groups with
    | nil => simp
    | cons g groups =>
      have hl := newline_notMem_intercalate (hg ▸ hgroups)
      simpa [Tree.oneLine_leaf_iff] using hl
  · refine List.forall_mem_map.mpr fun e he => oneLine_accessLeaf ?_ fun g hg => ?_
    · exact h.secret (hv.secrets p hp e he)
    · exact h.group (hv.via p hp e he g hg)

theorem oneLine_group (hv : v.Closed) (h : v.OneLine) {g : GroupView} (hg : g ∈ v.groups) :
    (group .plain g).OneLine := by
  rw [group, Tree.oneLine_node_iff]
  simp only [List.forall_mem_append]
  refine ⟨h.groups g hg, ⟨?_, ?_⟩, ?_⟩
  · exact oneLine_of_mem_branch (by decide) (oneLine_leaves (by decide) fun n hn =>
      h.principal (hv.members g hg .user n hn))
  · exact oneLine_of_mem_branch (by decide) (oneLine_leaves (by decide) fun n hn =>
      h.principal (hv.members g hg .machine n hn))
  · exact oneLine_of_mem_branch (by decide) (oneLine_leaves (by decide) fun s hs =>
      h.secret (hv.groupSecrets g hg s hs))

theorem oneLine_secret (hv : v.Closed) (h : v.OneLine) {r : GrantRow} (hr : r ∈ v.secrets) :
    (secret .plain r).OneLine := by
  rw [secret, Tree.oneLine_node_iff]
  refine ⟨h.secrets r hr, oneLine_of_mem_branch (by decide) ?_⟩
  simp only [List.forall_mem_append]
  refine ⟨⟨?_, ?_⟩, ?_⟩
  · exact oneLine_leaves (by decide) fun n hn => h.principal (hv.grantees r hr .user n hn)
  · exact oneLine_leaves (by decide) fun n hn => h.principal (hv.grantees r hr .machine n hn)
  · exact oneLine_leaves (by decide) fun g hg => h.group (hv.rowGroups r hr g hg)

theorem oneLine_ofView (hv : v.Closed) (h : v.OneLine) : (ofView .plain v).OneLine := by
  rw [ofView, Tree.oneLine_node_iff]
  simp only [List.forall_mem_append]
  refine ⟨by decide, ⟨⟨?_, ?_⟩, ?_⟩, ?_⟩
  · exact oneLine_of_mem_branch (by decide) (List.forall_mem_map.mpr fun p hp =>
      oneLine_principal hv h (List.mem_append_left _ hp))
  · exact oneLine_of_mem_branch (by decide) (List.forall_mem_map.mpr fun p hp =>
      oneLine_principal hv h (List.mem_append_right _ hp))
  · exact oneLine_of_mem_branch (by decide) (List.forall_mem_map.mpr fun g hg =>
      oneLine_group hv h hg)
  · exact oneLine_of_mem_branch (by decide) (List.forall_mem_map.mpr fun r hr =>
      oneLine_secret hv h hr)

end Display.AccessTree

/-- Lists are equal when a function that tells their elements apart makes them so. -/
theorem eq_of_map_eq {α β : Type} {f : α → β} {l m : List α}
    (hf : ∀ a ∈ l, ∀ b ∈ m, f a = f b → a = b) (h : l.map f = m.map f) : l = m := by
  induction l generalizing m with
  | nil => exact (List.map_eq_nil_iff.mp h.symm).symm
  | cons a l ih =>
    cases m with
    | nil => cases h
    | cons b m =>
      obtain ⟨hab, hlm⟩ := List.cons.inj h
      obtain rfl := hf a (by simp) b (by simp) hab
      rw [ih (fun c hc d hd => hf c (by simp [hc]) d (by simp [hd])) hlm]

theorem AccessEntry.parts_injective : Function.Injective AccessEntry.parts := by
  intro e f h
  obtain ⟨s, ⟨d, via⟩⟩ := e
  obtain ⟨s', ⟨d', via'⟩⟩ := f
  obtain ⟨rfl, h⟩ := Prod.mk.inj h
  obtain ⟨rfl, h⟩ := Prod.mk.inj h
  obtain rfl : via = via' := SortedSet.ext_contains fun g => by
    rw [Bool.eq_iff_iff, ← SortedSet.mem_toList_iff, ← SortedSet.mem_toList_iff, h]
  rfl

namespace HierarchyView

/-- The groups that list a principal as a member. -/
def groupsShown (v : HierarchyView) (p : PrincipalId) : List GroupName :=
  (v.groups.filter fun g => p.name ∈ g.membersOf p.kind).map (·.name)

theorem accessShown_congr {v w : HierarchyView} {p q : PrincipalView} (hs : v.secrets = w.secrets)
    (hid : p.id = q.id) (hg : p.groups = q.groups) : v.accessShown p = w.accessShown q := by
  have ha : accessShown? p = accessShown? q := by
    funext r
    rw [accessShown?, accessShown?, hid, hg]
  rw [accessShown, accessShown, hs, ha]

end HierarchyView

namespace Hierarchy

open Display

variable {steps steps' : List Step}

theorem groupsShown_view {p : PrincipalView} (hp : p ∈ (run steps).view.principals) :
    (run steps).view.groupsShown p.id = p.groups := by
  obtain ⟨q, hq, rfl⟩ := mem_principals_view.mp hp
  have hm : ∀ g, decide (q.id.name ∈ ((run steps).groupView g).membersOf q.id.kind) =
      (run steps).isMember g q.id := by
    intro g
    rw [Bool.eq_iff_iff, decide_eq_true_eq, mem_membersOf_groupView]
    exact ⟨And.left, fun h => ⟨h, isKnown_of_mem_values hq⟩⟩
  calc
    ((run steps).groups.toList.map (run steps).groupView |>.filter fun g =>
        decide (q.id.name ∈ g.membersOf q.id.kind)).map (·.name)
      = (run steps).groups.toList.filter fun g => (run steps).isMember g q.id := by
        simp only [List.filter_map, List.map_map, Function.comp_def, hm]
        exact List.map_id _
    _ = ((run steps).groupsOf q.id).toList := (toList_groupsOf_run steps q.id).symm

theorem accessShown_view {p : PrincipalView} (hp : p ∈ (run steps).view.principals) :
    (run steps).view.accessShown p = p.secrets.map (·.parts) := by
  refine HierarchyView.accessShown_eq (closed_view steps) (consistent_view steps)
    (pairwise_secrets_view _) hp ?_
  obtain ⟨q, -, rfl⟩ := mem_principals_view.mp hp
  exact pairwise_secrets_principalView _ q

/-- Where groups and secrets are shown alike, a principal with the same keys is
shown alike. -/
theorem principal_eq_of_groups_of_secrets (hg : (run steps).view.groups = (run steps').view.groups)
    (hs : (run steps).view.secrets = (run steps').view.secrets) {p q : PrincipalView}
    (hp : p ∈ (run steps).view.principals) (hq : q ∈ (run steps').view.principals)
    (hid : p.id = q.id) (hkeys : p.publicKeys = q.publicKeys) : p = q := by
  have hgroups : p.groups = q.groups := by
    rw [← groupsShown_view hp, ← groupsShown_view hq, hid, HierarchyView.groupsShown,
      HierarchyView.groupsShown, hg]
  have hsecrets : p.secrets = q.secrets := by
    refine AccessEntry.parts_injective.list_map ?_
    rw [← accessShown_view hp, ← accessShown_view hq]
    exact HierarchyView.accessShown_congr hs hid hgroups
  cases p
  cases q
  simp_all

theorem kind_of_mem_ofKind {h : Hierarchy} {kind : PrincipalKind} {p : PrincipalView}
    (hp : p ∈ h.view.ofKind kind) : p.id.kind = kind := by
  rw [ofKind_view] at hp
  obtain ⟨q, hq, rfl⟩ := List.mem_map.mp hp
  exact of_decide_eq_true (List.mem_filter.mp hq).2

theorem ofKind_view_eq (hg : (run steps).view.groups = (run steps').view.groups)
    (hs : (run steps).view.secrets = (run steps').view.secrets) {kind : PrincipalKind}
    (h : ((run steps).view.ofKind kind).map AccessTree.keysOf =
      ((run steps').view.ofKind kind).map AccessTree.keysOf) :
    (run steps).view.ofKind kind = (run steps').view.ofKind kind := by
  refine eq_of_map_eq (fun p hp q hq hpq => ?_) h
  obtain ⟨hname, hkeys⟩ := Prod.mk.inj hpq
  refine principal_eq_of_groups_of_secrets hg hs (HierarchyView.mem_principals_of_mem_ofKind hp)
    (HierarchyView.mem_principals_of_mem_ofKind hq) ?_ hkeys
  rw [PrincipalId.mk.injEq]
  exact ⟨(kind_of_mem_ofKind hp).trans (kind_of_mem_ofKind hq).symm, hname⟩

/-- The view of a hierarchy follows from what the drawing says for sure. -/
theorem view_eq_of_contents_eq
    (h : AccessTree.contents (run steps).view = AccessTree.contents (run steps').view) :
    (run steps).view = (run steps').view := by
  obtain ⟨hu, hm, hg, hs⟩ := AccessTree.Contents.mk.inj h
  rw [HierarchyView.mk.injEq]
  exact ⟨@ofKind_view_eq _ _ hg hs .user hu, @ofKind_view_eq _ _ hg hs .machine hm, hg, hs⟩

/-- Two hierarchies are drawn the same in plain text just when they show the
same: names and keys may hold any characters but line breaks. -/
theorem tree_text_faithful {steps steps' : List Step} (h : (run steps).view.OneLine)
    (h' : (run steps').view.OneLine) :
    AccessTree.render .plain (run steps).view = AccessTree.render .plain (run steps').view ↔
      (run steps).view = (run steps').view := by
  constructor
  · intro ht
    have hd : AccessTree.ofView .plain (run steps).view =
        AccessTree.ofView .plain (run steps').view :=
      Tree.eq_of_render_eq (AccessTree.oneLine_ofView (closed_view steps) h)
        (AccessTree.oneLine_ofView (closed_view steps') h') ht
    refine view_eq_of_contents_eq ?_
    rw [← AccessTree.readContents_ofView, ← AccessTree.readContents_ofView, hd]
  · exact congrArg _

/-- Names that imitate the lines of a drawing. -/
def imitating : List Step :=
  [.register ⟨.user, "└── Public keys"⟩ ["Groups: a, b", " (direct) "],
    .addMember "a, b" ⟨.user, "└── Public keys"⟩,
    .addMember "a, b" ⟨.machine, "gone"⟩,
    .grantViaGroup "Groups: a, b (direct)" "a, b",
    .grantDirect "Public keys" ⟨.user, "└── Public keys"⟩]

/-- The same in another order, and without the machine that is not registered. -/
def imitatingAgain : List Step :=
  [.grantDirect "Public keys" ⟨.user, "└── Public keys"⟩,
    .grantViaGroup "Groups: a, b (direct)" "a, b",
    .addMember "a, b" ⟨.user, "└── Public keys"⟩,
    .register ⟨.user, "└── Public keys"⟩ ["Groups: a, b", " (direct) "]]

theorem imitating_drawn_alike :
    (run imitating).view.OneLine ∧ (run imitatingAgain).view.OneLine ∧
      AccessTree.render .plain (run imitating).view =
        AccessTree.render .plain (run imitatingAgain).view ∧
      (run imitating).view = (run imitatingAgain).view := by
  have h : (run imitating).view.OneLine := by
    constructor <;> decide +kernel
  have h' : (run imitatingAgain).view.OneLine := by
    constructor <;> decide +kernel
  have ht : AccessTree.render .plain (run imitating).view =
      AccessTree.render .plain (run imitatingAgain).view := by
    decide +kernel
  exact ⟨h, h', ht, (tree_text_faithful h h').mp ht⟩

end Hierarchy

end SecretAccess
