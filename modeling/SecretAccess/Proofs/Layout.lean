import Mathlib
import SecretAccess.Proofs.Following
import SecretAccess.Proofs.Refinement
import SecretAccess.Scan

/-!
# What a layout declares

A tree of directories says which entities there are and how they are related,
and a scan finds just this, however the host lists its directories. Entities
are directories, or links to some, as far as the host follows their paths.
Members and grants are names, whatever the entries are that carry them. What
cannot be listed or read is as good as empty (`scan_exact`).
-/

namespace SecretAccess

open Host (FileTree Path.join Path.isHidden)

namespace KeyFile

variable {tree : FileTree} {path : String}

theorem load_of_not_pathExists (types : List String) (h : tree.pathExists path = false) :
    ∃ f, load tree path types = .error (.unreadable path f) := by
  cases hf : tree.find path with
  | error f =>
    exact ⟨f, by simp [load, FileTree.readText, FileTree.readBytes, hf, bind, Except.bind]⟩
  | ok found => simp [FileTree.pathExists, hf, Except.isOk, Except.toBool] at h

/-- A file that is missing counts like one that cannot be used. -/
theorem keys_attempt (tree : FileTree) (path : String) (types : List String) :
    (attempt tree path types).keys =
      match load tree path types with
      | .ok keys => keys
      | .error _ => [] := by
  unfold attempt
  split
  case isTrue => cases load tree path types <;> rfl
  case isFalse h =>
    obtain ⟨f, hf⟩ := load_of_not_pathExists types (Bool.eq_false_iff.mpr h)
    rw [hf]
    rfl

end KeyFile

namespace Scan

/-- The directory can be listed, and an entry has this name, which does not begin
with a dot. -/
def Visible (tree : FileTree) (directory name : String) : Prop :=
  ∃ d, tree.Listable directory d ∧ tree.IsEntry d (Text.Utf8.encode name) ∧
    name.toList.head? ≠ some '.'

/-- A visible entry is a directory, or a link that leads to one. -/
def VisibleDirectory (tree : FileTree) (directory name : String) : Prop :=
  Visible tree directory name ∧
    ∃ d, tree.FollowedTo directory d ∧ tree.IsOrLinksToDirectory d name

/-- The entry stands for an entity: the host can also follow its path. -/
def EntityDirectory (tree : FileTree) (directory name : String) : Prop :=
  VisibleDirectory tree directory name ∧ tree.Followable (Path.join directory name)

/-- The keys that a directory holds: those of its key file, and none when this is
missing, unreadable or malformed. -/
inductive HoldsKeys (tree : FileTree) (directory : String) (types : List String) :
    List String → Prop
  | loaded {contents keys} : tree.readText (Path.join directory "key.json") = .ok contents →
    KeyFile.parse types contents = .ok keys → HoldsKeys tree directory types keys
  | unreadable {f} : tree.readText (Path.join directory "key.json") = .error f →
    HoldsKeys tree directory types []
  | malformed {contents problem} :
    tree.readText (Path.join directory "key.json") = .ok contents →
    KeyFile.parse types contents = .error problem → HoldsKeys tree directory types []

/-- Where a layout has the principals of a kind. -/
def placeOf : PrincipalKind → String
  | .user => "users"
  | .machine => "machines"

/-- The relations that the directories below a root stand for. -/
def layout (tree : FileTree) (root : String) : PlainRelations :=
  let groups := Path.join root "groups"
  let secrets := Path.join root "secrets"
  { groups := {g | EntityDirectory tree groups g}
    members := {m | EntityDirectory tree groups m.1 ∧
      Visible tree (Path.join (Path.join groups m.1) (placeOf m.2.kind)) m.2.name}
    secrets := {s | EntityDirectory tree secrets s}
    direct := {d | EntityDirectory tree secrets d.1 ∧
      Visible tree (Path.join (Path.join secrets d.1) (placeOf d.2.kind)) d.2.name}
    viaGroup := {v | EntityDirectory tree secrets v.1 ∧
      Visible tree (Path.join (Path.join secrets v.1) "groups") v.2} }

/-- The keys that a directory holds in its key file. -/
def keysIn (tree : FileTree) (directory : String) (types : List String) : List String :=
  match KeyFile.load tree (Path.join directory KeyFile.fileName) types with
  | .ok keys => keys
  | .error _ => []

variable {tree : FileTree} {root directory name : String} {types : List String} {x : Step}

-- ---------------------------------------------------------------------------
-- What one directory lists
-- ---------------------------------------------------------------------------

theorem mem_visible {names : List Host.FileName} :
    name ∈ visible names ↔ Text.Utf8.encode name ∈ names ∧ Path.isHidden name = false := by
  simp [visible, Text.Utf8.decode?_eq_some_iff]

theorem isHidden_eq_false_iff : Path.isHidden name = false ↔ name.toList.head? ≠ some '.' := by
  simp [Path.isHidden]

theorem visible_iff : Visible tree directory name ↔
    ∃ names, tree.list directory = .ok names ∧ Text.Utf8.encode name ∈ names ∧
      name.toList.head? ≠ some '.' := by
  simp only [Visible, FileTree.list_eq_ok_iff, ← FileTree.mem_childrenAt]
  constructor
  · rintro ⟨d, hd, hm, hdot⟩
    exact ⟨_, ⟨d, hd, rfl⟩, hm, hdot⟩
  · rintro ⟨_, ⟨d, hd, rfl⟩, hm, hdot⟩
    exact ⟨d, hd, hm, hdot⟩

theorem mem_entries : name ∈ (entries tree directory).value ↔ Visible tree directory name := by
  rw [visible_iff]
  unfold entries
  cases h : tree.list directory with
  | ok names => simp [mem_visible, isHidden_eq_false_iff]
  | error f => cases f <;> simp

theorem entityDirectory_iff : EntityDirectory tree directory name ↔
    Visible tree directory name ∧ tree.isDirectory (Path.join directory name) := by
  rw [EntityDirectory, VisibleDirectory, and_assoc]
  refine and_congr_right fun ⟨d, hd, ⟨hn, _⟩, _⟩ => ?_
  rw [FileTree.isDirectory_join_iff hd.followed hn]
  refine and_congr_left fun _ => ⟨?_, fun hx => ⟨d, hd.followed, hx⟩⟩
  rintro ⟨d', hd', hx⟩
  exact hd.followed.unique hd' ▸ hx

theorem mem_subdirectories :
    name ∈ (subdirectories tree directory).value ↔ EntityDirectory tree directory name := by
  simp [subdirectories, mem_entries, entityDirectory_iff]

-- ---------------------------------------------------------------------------
-- What a whole layout says
-- ---------------------------------------------------------------------------

/-- The steps that a layout calls for, by the entries that stand for them. -/
inductive Declared (tree : FileTree) (root : String) (types : List String) : Step → Prop
  | principal {kind name} : EntityDirectory tree (Path.join root kind.directory) name →
    Declared tree root types (.register ⟨kind, name⟩
      (keysIn tree (Path.join (Path.join root kind.directory) name) types))
  | group {g} : EntityDirectory tree (Path.join root groupsDirectory) g →
    Declared tree root types (.declareGroup g)
  | member {g kind name} : EntityDirectory tree (Path.join root groupsDirectory) g →
    Visible tree (Path.join (Path.join (Path.join root groupsDirectory) g) kind.directory) name →
    Declared tree root types (.addMember g ⟨kind, name⟩)
  | secret {s} : EntityDirectory tree (Path.join root secretsDirectory) s →
    Declared tree root types (.declareSecret s)
  | direct {s kind name} : EntityDirectory tree (Path.join root secretsDirectory) s →
    Visible tree (Path.join (Path.join (Path.join root secretsDirectory) s) kind.directory) name →
    Declared tree root types (.grantDirect s ⟨kind, name⟩)
  | viaGroup {s g} : EntityDirectory tree (Path.join root secretsDirectory) s →
    Visible tree (Path.join (Path.join (Path.join root secretsDirectory) s) groupsDirectory) g →
    Declared tree root types (.grantViaGroup s g)

theorem mem_kinds (kind : PrincipalKind) : kind ∈ PrincipalKind.all := by
  cases kind <;> decide

theorem mem_all {rs : List (Reported (List Step))} :
    x ∈ (Reported.all rs).value ↔ ∃ r ∈ rs, x ∈ r.value := by
  simp [Reported.all]

theorem mem_marked {step : PrincipalId → Step} {kind : PrincipalKind} :
    x ∈ (marked tree directory step kind).value ↔
      ∃ name, Visible tree (Path.join directory kind.directory) name ∧ step ⟨kind, name⟩ = x := by
  simp [marked, mem_entries]

theorem mem_principals {kind : PrincipalKind} :
    x ∈ (principals tree types root kind).value ↔
      ∃ name, EntityDirectory tree (Path.join root kind.directory) name ∧
        .register ⟨kind, name⟩
          (keysIn tree (Path.join (Path.join root kind.directory) name) types) = x := by
  simp [principals, mem_all, mem_subdirectories, principal, KeyFile.keys_attempt, keysIn, eq_comm]

theorem mem_groups :
    x ∈ (groups tree root).value ↔
      ∃ g, EntityDirectory tree (Path.join root groupsDirectory) g ∧
        (.declareGroup g = x ∨ ∃ kind name,
          Visible tree (Path.join (Path.join (Path.join root groupsDirectory) g) kind.directory)
            name ∧ .addMember g ⟨kind, name⟩ = x) := by
  simp [groups, group, mem_all, mem_subdirectories, mem_marked, mem_kinds, eq_comm]

theorem mem_secrets :
    x ∈ (secrets tree root).value ↔
      ∃ s, EntityDirectory tree (Path.join root secretsDirectory) s ∧
        (.declareSecret s = x ∨
          (∃ kind name, Visible tree
            (Path.join (Path.join (Path.join root secretsDirectory) s) kind.directory) name ∧
              .grantDirect s ⟨kind, name⟩ = x) ∨
          ∃ g, Visible tree
            (Path.join (Path.join (Path.join root secretsDirectory) s) groupsDirectory) g ∧
              .grantViaGroup s g = x) := by
  simp [secrets, secret, mem_all, mem_subdirectories, mem_marked, mem_kinds, markedGroups,
    mem_entries, eq_comm]

/-- A scan takes just the steps that the layout calls for. -/
theorem mem_steps_iff : x ∈ (steps tree root types).value ↔ Declared tree root types x := by
  have hs : x ∈ (steps tree root types).value ↔
      (∃ kind, x ∈ (principals tree types root kind).value) ∨ x ∈ (groups tree root).value ∨
        x ∈ (secrets tree root).value := by
    simp [steps, mem_all, mem_kinds, or_and_right, exists_or]
  rw [hs, mem_groups, mem_secrets]
  simp only [mem_principals]
  constructor
  · rintro (⟨kind, name, hv, rfl⟩ | ⟨g, hv, rfl | ⟨kind, name, hn, rfl⟩⟩ |
      ⟨s, hv, rfl | ⟨kind, name, hn, rfl⟩ | ⟨g, hn, rfl⟩⟩)
    · exact .principal hv
    · exact .group hv
    · exact .member hv hn
    · exact .secret hv
    · exact .direct hv hn
    · exact .viaGroup hv hn
  · rintro (hv | hv | ⟨hv, hn⟩ | hv | ⟨hv, hn⟩ | ⟨hv, hn⟩)
    · exact .inl ⟨_, _, hv, rfl⟩
    · exact .inr (.inl ⟨_, hv, .inl rfl⟩)
    · exact .inr (.inl ⟨_, hv, .inr ⟨_, _, hn, rfl⟩⟩)
    · exact .inr (.inr ⟨_, hv, .inl rfl⟩)
    · exact .inr (.inr ⟨_, hv, .inr (.inl ⟨_, _, hn, rfl⟩)⟩)
    · exact .inr (.inr ⟨_, hv, .inr (.inr ⟨_, hn, rfl⟩)⟩)

theorem placeOf_eq : placeOf = PrincipalKind.directory := by
  funext kind
  cases kind <;> rfl

theorem ofSteps_steps (tree : FileTree) (root : String) (types : List String) :
    PlainRelations.ofSteps (steps tree root types).value = layout tree root := by
  simp only [PlainRelations.ofSteps, layout, placeOf_eq, PlainRelations.mk.injEq, Set.ext_iff,
    Set.mem_ofPred_eq, mem_steps_iff]
  refine ⟨fun g => ⟨?_, fun h => .inl (.group h)⟩, fun ⟨g, p⟩ => ⟨?_, fun h => .member h.1 h.2⟩,
    fun s => ⟨?_, fun h => .inl (.secret h)⟩, fun ⟨s, p⟩ => ⟨?_, fun h => .direct h.1 h.2⟩,
    fun ⟨s, g⟩ => ⟨?_, fun h => .viaGroup h.1 h.2⟩⟩
  · rintro (h | ⟨p, h⟩)
    · cases h with | group hv => exact hv
    · cases h with | member hv _ => exact hv
  · intro h
    cases h with | member hv hn => exact ⟨hv, hn⟩
  · rintro (h | ⟨p, h⟩ | ⟨g, h⟩)
    · cases h with | secret hv => exact hv
    · cases h with | direct hv _ => exact hv
    · cases h with | viaGroup hv _ => exact hv
  · intro h
    cases h with | direct hv hn => exact ⟨hv, hn⟩
  · intro h
    cases h with | viaGroup hv hn => exact ⟨hv, hn⟩

-- ---------------------------------------------------------------------------
-- Principals and their keys
-- ---------------------------------------------------------------------------

theorem mem_keysFor?_steps {p : PrincipalId} {keys : List String} :
    keys ∈ (steps tree root types).value.filterMap (Step.keysFor? p) ↔
      EntityDirectory tree (Path.join root p.kind.directory) p.name ∧
        keys = keysIn tree (Path.join (Path.join root p.kind.directory) p.name) types := by
  simp only [List.mem_filterMap, mem_steps_iff]
  constructor
  · rintro ⟨x, hx, hk⟩
    cases hx with
    | principal hv =>
      obtain ⟨rfl, rfl⟩ := by simpa [Step.keysFor?] using hk
      exact ⟨hv, rfl⟩
    | group | member | secret | direct | viaGroup => cases hk
  · rintro ⟨hv, rfl⟩
    exact ⟨_, .principal hv, by simp [Step.keysFor?]⟩

/-- Every registration of a principal gives it the same keys, so the last one does. -/
theorem lastKeys?_steps {p : PrincipalId} {keys : List String} :
    Step.lastKeys? (steps tree root types).value p = some keys ↔
      EntityDirectory tree (Path.join root p.kind.directory) p.name ∧
        keys = keysIn tree (Path.join (Path.join root p.kind.directory) p.name) types := by
  rw [← mem_keysFor?_steps]
  refine ⟨List.mem_of_getLast?, fun hk => ?_⟩
  cases hl : Step.lastKeys? (steps tree root types).value p with
  | none => simp [List.getLast?_eq_none_iff.mp hl] at hk
  | some keys' =>
    have hk' := mem_keysFor?_steps.mp (List.mem_of_getLast? hl)
    rw [hk'.2, (mem_keysFor?_steps.mp hk).2]

theorem get?_catalog_hierarchy {p : PrincipalId} {q : Principal} :
    (hierarchy tree root types).catalog.get? p = some q ↔
      EntityDirectory tree (Path.join root p.kind.directory) p.name ∧
        ⟨p, keysIn tree (Path.join (Path.join root p.kind.directory) p.name) types⟩ = q := by
  rw [hierarchy, Hierarchy.get?_catalog_run, Option.map_eq_some_iff]
  simp only [lastKeys?_steps]
  constructor
  · rintro ⟨keys, ⟨hv, rfl⟩, rfl⟩
    exact ⟨hv, rfl⟩
  · rintro ⟨hv, rfl⟩
    exact ⟨_, ⟨hv, rfl⟩, rfl⟩

theorem isKnown_hierarchy {p : PrincipalId} :
    (hierarchy tree root types).isKnown p ↔
      EntityDirectory tree (Path.join root p.kind.directory) p.name := by
  rw [Hierarchy.isKnown, SortedMap.contains, Option.isSome_iff_exists]
  simp only [get?_catalog_hierarchy]
  constructor
  · rintro ⟨_, hv, -⟩
    exact hv
  · exact fun hv => ⟨_, hv, rfl⟩

theorem holdsKeys_iff {keys : List String} :
    HoldsKeys tree directory types keys ↔ keys = keysIn tree directory types := by
  have hname : KeyFile.fileName = "key.json" := rfl
  unfold keysIn KeyFile.load
  rw [hname]
  constructor
  · rintro (⟨hr, hp⟩ | hr | ⟨hr, hp⟩) <;>
      simp [KeyFile.parseAt, Except.mapError, *]
  · rintro rfl
    cases hr : tree.readText (Path.join directory "key.json") with
    | error f => exact .unreadable hr
    | ok contents =>
      cases hp : KeyFile.parse types contents with
      | ok keys => simpa [KeyFile.parseAt, hp, Except.mapError] using HoldsKeys.loaded hr hp
      | error problem =>
        simpa [KeyFile.parseAt, hp, Except.mapError] using HoldsKeys.malformed hr hp

/-- A scan finds what the layout says, and nothing else. A principal is
registered when it has a directory, and its keys are those of its key file, or
none when this is missing, unreadable or malformed. Groups, secrets, members and
grants are read off the names of entries. -/
theorem scan_exact (tree : FileTree) (root : String) (types : List String) :
    (hierarchy tree root types).Refines (layout tree root) ∧
      (∀ p, (hierarchy tree root types).isKnown p ↔
        EntityDirectory tree (Path.join root (placeOf p.kind)) p.name) ∧
      ∀ p q, (hierarchy tree root types).catalog.get? p = some q ↔
        EntityDirectory tree (Path.join root (placeOf p.kind)) p.name ∧ q.id = p ∧
          HoldsKeys tree (Path.join (Path.join root (placeOf p.kind)) p.name) types
            q.publicKeys := by
  rw [placeOf_eq]
  refine ⟨?_, fun p => isKnown_hierarchy, fun p q => get?_catalog_hierarchy.trans ?_⟩
  · rw [← ofSteps_steps tree root types]
    exact Hierarchy.refines_run _
  · rw [holdsKeys_iff]
    obtain ⟨id, keys⟩ := q
    simp only [Principal.mk.injEq, eq_comm]

/-- A key file with one key. -/
def ageKeyText : String := "[\x7b\"type\": \"age\", \"publickey\": \"age1\"\x7d]"

/-- A user with a key file. Among the users there is a file, too. -/
def smallTree : FileTree where
  entries :=
    [(["sops"].map Text.Utf8.encode, .directory),
      (["sops", "users"].map Text.Utf8.encode, .directory),
      (["sops", "users", "ana"].map Text.Utf8.encode, .directory),
      (["sops", "users", "ana", "key.json"].map Text.Utf8.encode,
        .file (Text.Utf8.encode ageKeyText) false),
      (["sops", "users", "notes"].map Text.Utf8.encode, .file [] false)]
  working := []

/-- The user is registered with the key of the key file, and the file is no user. -/
theorem smallTree_scanned :
    (hierarchy smallTree "sops" ["age"]).catalog.get? ⟨.user, "ana"⟩ =
        some ⟨⟨.user, "ana"⟩, ["age1"]⟩ ∧
      ¬ (hierarchy smallTree "sops" ["age"]).isKnown ⟨.user, "notes"⟩ := by
  obtain ⟨-, hknown, hkeys⟩ := scan_exact smallTree "sops" ["age"]
  have hlist : smallTree.list "sops/users" = .ok (["ana", "notes"].map Text.Utf8.encode) := by cbv
  have hvisible : Visible smallTree "sops/users" "ana" :=
    visible_iff.mpr ⟨_, hlist, by simp, by decide⟩
  have hana : smallTree.isDirectory "sops/users/ana" := by cbv
  have hnotes : smallTree.isDirectory "sops/users/notes" = false := by cbv
  have hbytes : smallTree.readBytes "sops/users/ana/key.json" =
      .ok (Text.Utf8.encode ageKeyText) := by
    cbv
  have hread : smallTree.readText "sops/users/ana/key.json" = .ok ageKeyText := by
    simp only [FileTree.readText, hbytes, bind, Except.bind, Text.Utf8.decode?_encode]
  have hparse : KeyFile.parse ["age"] ageKeyText = .ok ["age1"] := by decide +kernel
  have husers : Path.join "sops" (placeOf .user) = "sops/users" := by decide
  have hjoin : Path.join "sops/users" "ana" = "sops/users/ana" := by decide
  have hjoin' : Path.join "sops/users" "notes" = "sops/users/notes" := by decide
  have hfile : Path.join "sops/users/ana" "key.json" = "sops/users/ana/key.json" := by decide
  constructor
  · rw [hkeys]
    simp only [husers, hjoin]
    refine ⟨entityDirectory_iff.mpr ⟨hvisible, hjoin ▸ hana⟩, trivial, ?_⟩
    exact .loaded (hfile ▸ hread) hparse
  · rw [hknown, entityDirectory_iff]
    simp only [husers, hjoin', hnotes]
    simp

-- ---------------------------------------------------------------------------
-- Directories that cannot be reached
-- ---------------------------------------------------------------------------

/-- Somebody's directory is a link. The other links all lead back to where they
are, each by way of the one before, three times over. -/
def windingTree : FileTree where
  entries :=
    [(["a"].map Text.Utf8.encode, .link (Text.Utf8.encode ".")),
      (["b"].map Text.Utf8.encode, .link (Text.Utf8.encode "a/a/a")),
      (["c"].map Text.Utf8.encode, .link (Text.Utf8.encode "b/b/b")),
      (["d"].map Text.Utf8.encode, .link (Text.Utf8.encode "c/c/c")),
      (["people"].map Text.Utf8.encode, .directory),
      (["people", "ana"].map Text.Utf8.encode, .directory),
      (["sops"].map Text.Utf8.encode, .directory),
      (["sops", "users"].map Text.Utf8.encode, .directory),
      (["sops", "users", "ana"].map Text.Utf8.encode,
        .link (Text.Utf8.encode "../../people/ana"))]
  working := []

/-- The directory of the users can be listed, but not searched. -/
def closedTree : FileTree where
  entries :=
    [(["sops"].map Text.Utf8.encode, .directory),
      (["sops", "users"].map Text.Utf8.encode, .directory),
      (["sops", "users", "ana"].map Text.Utf8.encode, .directory)]
  working := []
  denied := [(["sops", "users"].map Text.Utf8.encode, .search)]

set_option maxRecDepth 2000 in
/-- The root is at the end of forty links. -/
theorem find_windingTree : windingTree.find "d/sops/users" =
    .ok (["sops", "users"].map Text.Utf8.encode, .directory) := by
  cbv

set_option maxRecDepth 2000 in
theorem isDirectory_windingTree : windingTree.isDirectory "d/sops/users/ana" = false := by
  cbv

/-- What a path leads to when it is followed without regard to a limit. -/
theorem isOrLinksToDirectory_of_walk {d l : Host.Location} {limit : Nat}
    (h : tree.walk .use limit d [Text.Utf8.encode name] = .ok l) (hl : tree.isDirectoryAt l) :
    tree.IsOrLinksToDirectory d name := by
  have hs : (tree.node? l).isSome := by simp [of_decide_eq_true hl]
  obtain ⟨_, _, hleads, -⟩ := FileTree.exists_leads_of_walk h hs
  exact ⟨_, _, _, hleads, hl⟩

theorem visibleDirectory_windingTree : VisibleDirectory windingTree "d/sops/users" "ana" := by
  have hl : windingTree.list "d/sops/users" = .ok [Text.Utf8.encode "ana"] := by
    rw [FileTree.list, find_windingTree]
    cbv
  have hw : windingTree.walk .use 1 (["sops", "users"].map Text.Utf8.encode)
      [Text.Utf8.encode "ana"] = .ok (["people", "ana"].map Text.Utf8.encode) := by
    cbv
  obtain ⟨hfollowed, -⟩ := FileTree.find_eq_directory_iff.mp find_windingTree
  exact ⟨visible_iff.mpr ⟨_, hl, by simp, by decide⟩, _, hfollowed,
    isOrLinksToDirectory_of_walk hw (by decide +kernel)⟩

theorem visibleDirectory_closedTree : VisibleDirectory closedTree "sops/users" "ana" := by
  have hl : closedTree.list "sops/users" = .ok [Text.Utf8.encode "ana"] := by cbv
  have hf : closedTree.find "sops/users" =
      .ok (["sops", "users"].map Text.Utf8.encode, .directory) := by
    cbv
  have hx : closedTree.node? (["sops", "users", "ana"].map Text.Utf8.encode) =
      some .directory := by
    decide +kernel
  -- what stands in the directory does not depend on who may search it
  have hentry : closedTree.IsOrLinksToDirectory (["sops", "users"].map Text.Utf8.encode) "ana" :=
    ⟨_, _, _, .step (by decide +kernel) (.enter (by decide +kernel) (by decide +kernel) hx (by simp))
      (.done (by decide +kernel)), by decide +kernel⟩
  obtain ⟨hfollowed, -⟩ := FileTree.find_eq_directory_iff.mp hf
  exact ⟨visible_iff.mpr ⟨_, hl, by simp, by decide⟩, _, hfollowed, hentry⟩

theorem not_isKnown_of_not_isDirectory {p : PrincipalId}
    (h : tree.isDirectory (Path.join (Path.join root p.kind.directory) p.name) = false) :
    ¬ (hierarchy tree root types).isKnown p := by
  rw [isKnown_hierarchy, entityDirectory_iff, h]
  simp

/-- A visible entry that is a directory, or links to one, need not be registered:
its path may cross more links than the host follows, or lead through a directory
that may not be searched. -/
theorem visible_directories_not_registered :
    (VisibleDirectory windingTree (Path.join "d/sops" "users") "ana" ∧
      ¬ (hierarchy windingTree "d/sops" ["age"]).isKnown ⟨.user, "ana"⟩) ∧
    VisibleDirectory closedTree (Path.join "sops" "users") "ana" ∧
      ¬ (hierarchy closedTree "sops" ["age"]).isKnown ⟨.user, "ana"⟩ := by
  have hwinding : Path.join "d/sops" PrincipalKind.user.directory = "d/sops/users" := by decide
  have hana : Path.join "d/sops/users" "ana" = "d/sops/users/ana" := by decide
  have hclosed : Path.join "sops" PrincipalKind.user.directory = "sops/users" := by decide
  have hana' : Path.join "sops/users" "ana" = "sops/users/ana" := by decide
  have hd : closedTree.isDirectory "sops/users/ana" = false := by cbv
  refine ⟨⟨hwinding ▸ visibleDirectory_windingTree, not_isKnown_of_not_isDirectory ?_⟩,
    hclosed ▸ visibleDirectory_closedTree, not_isKnown_of_not_isDirectory ?_⟩
  · rw [hwinding, hana, isDirectory_windingTree]
  · rw [hclosed, hana', hd]

end Scan

end SecretAccess
