import Mathlib
import SecretAccess.Proofs.KeyMaterial
import SecretAccess.Proofs.Layout
import SecretAccess.Proofs.Trail

/-!
# Replaced key files

A scan lists the directories of the layout and asks of their entries whether
they are directories; key files are looked at for keys and for nothing else.
So whatever is put in the place of key files, keys are all that changes, and
only those of principals whose key file was replaced. Links can make a key file
a part of the layout, though: this holds as long as no other path of the layout
leads to what is replaced, or through it (`key_material_stays_local`).
-/

namespace SecretAccess

open Host (FileTree Location Path.join)

namespace Scan

open Host.FileTree (SameOutside)

/-- The directories in which each directory stands for an entity. -/
def sections (root : String) : List String :=
  PrincipalKind.all.map (fun kind => Path.join root kind.directory) ++
    [Path.join root groupsDirectory, Path.join root secretsDirectory]

def groupRosters (root : String) (g : GroupName) : List String :=
  PrincipalKind.all.map fun kind =>
    Path.join (Path.join (Path.join root groupsDirectory) g) kind.directory

def secretRosters (root : String) (s : SecretName) : List String :=
  PrincipalKind.all.map (fun kind =>
      Path.join (Path.join (Path.join root secretsDirectory) s) kind.directory) ++
    [Path.join (Path.join (Path.join root secretsDirectory) s) groupsDirectory]

/-- The directories in which each entry stands for a member or a grant. -/
def rosters (tree : FileTree) (root : String) : List String :=
  (subdirectories tree (Path.join root groupsDirectory)).value.flatMap (groupRosters root) ++
    (subdirectories tree (Path.join root secretsDirectory)).value.flatMap (secretRosters root)

/-- Nothing that the layout is read off leads to one of the places. -/
structure LayoutAvoids (places : List Location) (tree : FileTree) (root : String) : Prop where
  sections : ∀ d ∈ sections root, tree.listAvoids places d
  entities : ∀ d ∈ Scan.sections root, ∀ name ∈ (entries tree d).value,
    tree.avoids places (Path.join d name)
  rosters : ∀ d ∈ rosters tree root, tree.listAvoids places d

/-- The keys that the directory of a principal holds, if there is such a directory. -/
def keysOf (tree : FileTree) (root : String) (types : List String) (p : PrincipalId) :
    List String :=
  keysIn tree (Path.join (Path.join root p.kind.directory) p.name) types

def keyFileOf (root : String) (p : PrincipalId) : String :=
  Path.join (Path.join (Path.join root p.kind.directory) p.name) KeyFile.fileName

variable {places : List Location} {tree tree' : FileTree} {root directory : String}
  {types types' : List String}

theorem entries_congr (hs : SameOutside places tree tree')
    (ha : tree.listAvoids places directory) : entries tree' directory = entries tree directory := by
  rw [entries, entries, FileTree.list_congr hs ha]

theorem subdirectories_congr (hs : SameOutside places tree tree')
    (hl : LayoutAvoids places tree root) (hd : directory ∈ sections root) :
    (subdirectories tree' directory).value = (subdirectories tree directory).value := by
  simp only [subdirectories, entries_congr hs (hl.sections directory hd)]
  refine List.filter_congr fun name hname => ?_
  exact FileTree.isDirectory_congr hs (hl.entities directory hd name hname)

-- ---------------------------------------------------------------------------
-- The steps of a scan, section by section
-- ---------------------------------------------------------------------------

theorem value_all (rs : List (Reported (List Step))) :
    (Reported.all rs).value = rs.flatMap (·.value) := rfl

theorem value_principals (kind : PrincipalKind) :
    (principals tree types root kind).value =
      (subdirectories tree (Path.join root kind.directory)).value.map fun name =>
        .register ⟨kind, name⟩ (KeyFile.loadOrEmpty tree (keyFileOf root ⟨kind, name⟩) types) := by
  simp only [principals, value_all, List.flatMap_cons, List.nil_append, List.flatMap_map,
    principal]
  exact List.map_eq_flatMap.symm

theorem value_group (g : GroupName) :
    (group tree directory g).value = .declareGroup g :: PrincipalKind.all.flatMap fun kind =>
      (marked tree (Path.join directory g) (.addMember g) kind).value := by
  simp [group, value_all, List.flatMap_map]

theorem value_groups : (groups tree root).value =
    (subdirectories tree (Path.join root groupsDirectory)).value.flatMap fun g =>
      (group tree (Path.join root groupsDirectory) g).value := by
  simp [groups, value_all, List.flatMap_map]

theorem value_secret (s : SecretName) :
    (secret tree directory s).value = .declareSecret s :: (PrincipalKind.all.flatMap fun kind =>
      (marked tree (Path.join directory s) (.grantDirect s) kind).value) ++
        (markedGroups tree (Path.join directory s) s).value := by
  simp [secret, value_all, List.flatMap_map]

theorem value_secrets : (secrets tree root).value =
    (subdirectories tree (Path.join root secretsDirectory)).value.flatMap fun s =>
      (secret tree (Path.join root secretsDirectory) s).value := by
  simp [secrets, value_all, List.flatMap_map]

theorem value_steps : (steps tree root types).value =
    (PrincipalKind.all.flatMap fun kind => (principals tree types root kind).value) ++
      (groups tree root).value ++ (secrets tree root).value := by
  simp [steps, value_all, List.flatMap_map]

-- ---------------------------------------------------------------------------
-- The same layout in both trees
-- ---------------------------------------------------------------------------

theorem marked_congr (hs : SameOutside places tree tree') {kind : PrincipalKind}
    (ha : tree.listAvoids places (Path.join directory kind.directory)) (step : PrincipalId → Step) :
    (marked tree' directory step kind).value = (marked tree directory step kind).value := by
  simp only [marked, entries_congr hs ha]

theorem groups_congr (hs : SameOutside places tree tree') (hl : LayoutAvoids places tree root) :
    (groups tree' root).value = (groups tree root).value := by
  rw [value_groups, value_groups, subdirectories_congr hs hl (by simp [sections])]
  refine List.flatMap_congr fun g hg => ?_
  have hr : ∀ d ∈ groupRosters root g, tree.listAvoids places d := fun d hd =>
    hl.rosters d (List.mem_append_left _ (List.mem_flatMap.mpr ⟨g, hg, hd⟩))
  rw [value_group, value_group]
  refine congrArg _ (List.flatMap_congr fun kind hk => ?_)
  exact marked_congr hs (hr _ (List.mem_map_of_mem hk)) _

theorem secrets_congr (hs : SameOutside places tree tree') (hl : LayoutAvoids places tree root) :
    (secrets tree' root).value = (secrets tree root).value := by
  rw [value_secrets, value_secrets, subdirectories_congr hs hl (by simp [sections])]
  refine List.flatMap_congr fun s hm => ?_
  have hr : ∀ d ∈ secretRosters root s, tree.listAvoids places d := fun d hd =>
    hl.rosters d (List.mem_append_right _ (List.mem_flatMap.mpr ⟨s, hm, hd⟩))
  have hk : ∀ kind ∈ PrincipalKind.all, tree.listAvoids places
      (Path.join (Path.join (Path.join root secretsDirectory) s) kind.directory) :=
    fun kind hk => hr _ (List.mem_append_left _ (List.mem_map_of_mem hk))
  have hg : tree.listAvoids places
      (Path.join (Path.join (Path.join root secretsDirectory) s) groupsDirectory) :=
    hr _ (by simp [secretRosters])
  rw [value_secret, value_secret, List.flatMap_congr fun kind hm => marked_congr hs (hk kind hm) _]
  simp only [markedGroups, entries_congr hs hg]

/-- Principals are registered in the same order, whatever their keys are. -/
theorem principals_congr (hs : SameOutside places tree tree') (hl : LayoutAvoids places tree root)
    (kind : PrincipalKind) :
    (principals tree types root kind).value.map Step.eraseKeys =
      (principals tree' types' root kind).value.map Step.eraseKeys := by
  have hd : Path.join root kind.directory ∈ sections root :=
    List.mem_append_left _ (List.mem_map_of_mem (mem_kinds kind))
  rw [value_principals, value_principals, subdirectories_congr hs hl hd, List.map_map,
    List.map_map]
  rfl

theorem steps_congr (hs : SameOutside places tree tree') (hl : LayoutAvoids places tree root) :
    (steps tree root types).value.map Step.eraseKeys =
      (steps tree' root types').value.map Step.eraseKeys := by
  rw [value_steps, value_steps, groups_congr hs hl, secrets_congr hs hl]
  simp only [List.map_append, List.map_flatMap]
  rw [List.flatMap_congr fun kind _ => principals_congr hs hl kind]

/-- A key file that is left alone holds the same keys. -/
theorem keysOf_congr (hs : SameOutside places tree tree') {p : PrincipalId}
    (ha : tree.avoids places (keyFileOf root p)) :
    keysOf tree' root types p = keysOf tree root types p := by
  have hr : tree'.readText (keyFileOf root p) = tree.readText (keyFileOf root p) :=
    FileTree.readText_congr hs ha
  unfold keyFileOf at hr
  rw [keysOf, keysOf, keysIn, keysIn, KeyFile.load, KeyFile.load, hr]

theorem lastKeys?_congr (hs : SameOutside places tree tree') (hl : LayoutAvoids places tree root)
    {p : PrincipalId} (hk : keysOf tree root types p = keysOf tree' root types' p) :
    Step.lastKeys? (steps tree root types).value p =
      Step.lastKeys? (steps tree' root types').value p := by
  have heq : (steps tree root types).value.map Step.eraseKeys =
      (steps tree' root types').value.map Step.eraseKeys := steps_congr hs hl
  have hknown : (hierarchy tree' root types').isKnown p = (hierarchy tree root types).isKnown p :=
    congrFun (Hierarchy.sameButKeys_run heq).known p
  have hv : EntityDirectory tree' (Path.join root p.kind.directory) p.name ↔
      EntityDirectory tree (Path.join root p.kind.directory) p.name :=
    isKnown_hierarchy.symm.trans ((iff_of_eq (congrArg (· = true) hknown)).trans isKnown_hierarchy)
  refine Option.ext fun keys => ?_
  rw [lastKeys?_steps, lastKeys?_steps, hv]
  exact and_congr_right fun _ => by rw [keysOf, keysOf] at hk; rw [hk]

/-- Keys are shown and nothing else depends on them. Runs that differ in keys
are alike but for these. So are scans of trees that differ only where the layout
does not look, whatever types of keys are recognised; a principal that has the
same keys in both is shown alike, and those have whose key file is not among
what was replaced. -/
theorem key_material_stays_local :
    (∀ steps steps' : List Step, steps.map Step.eraseKeys = steps'.map Step.eraseKeys →
      (Hierarchy.run steps).AlikeButKeys (Hierarchy.run steps') ∧
        ∀ p, Step.lastKeys? steps p = Step.lastKeys? steps' p →
          (Hierarchy.run steps).SameEntries (Hierarchy.run steps') p) ∧
      ∀ (places : List Location) (tree tree' : FileTree) (root : String),
        SameOutside places tree tree' → LayoutAvoids places tree root →
        (∀ types types', (hierarchy tree root types).AlikeButKeys (hierarchy tree' root types') ∧
          ∀ p, keysOf tree root types p = keysOf tree' root types' p →
            (hierarchy tree root types).SameEntries (hierarchy tree' root types') p) ∧
        ∀ p, tree.avoids places (keyFileOf root p) →
          ∀ types, keysOf tree root types p = keysOf tree' root types p := by
  refine ⟨fun steps steps' heq => ⟨Hierarchy.alikeButKeys_run heq,
    fun p hp => Hierarchy.sameEntries_run heq hp⟩, ?_⟩
  intro places tree tree' root hs hl
  refine ⟨fun types types' => ?_, fun p ha types => (keysOf_congr hs ha).symm⟩
  have heq : (steps tree root types).value.map Step.eraseKeys =
      (steps tree' root types').value.map Step.eraseKeys := steps_congr hs hl
  exact ⟨Hierarchy.alikeButKeys_run heq, fun p hk =>
    Hierarchy.sameEntries_run heq (lastKeys?_congr hs hl hk)⟩

/-- Two users; what stands in the place of one key file is left open. -/
def teamTree (keyFile : Option Host.Node) : FileTree where
  entries :=
    [(["sops"].map Text.Utf8.encode, .directory),
      (["sops", "users"].map Text.Utf8.encode, .directory),
      (["sops", "users", "ana"].map Text.Utf8.encode, .directory),
      (["sops", "users", "bob"].map Text.Utf8.encode, .directory)] ++
    keyFile.toList.map (["sops", "users", "ana", "key.json"].map Text.Utf8.encode, ·)
  working := []

def anaKeyFile : Location := ["sops", "users", "ana", "key.json"].map Text.Utf8.encode

theorem sections_sops :
    sections "sops" = ["sops/users", "sops/machines", "sops/groups", "sops/secrets"] := by
  decide

/-- The key file is a file, whatever it holds. -/
def teamTreeWith (contents : List UInt8) : FileTree := teamTree (some (.file contents false))

theorem layoutAvoids_teamTreeWith (contents : List UInt8) :
    LayoutAvoids [anaKeyFile] (teamTreeWith contents) "sops" where
  sections := List.all_eq_true.mp (by cbv)
  entities := by
    have hu : (entries (teamTreeWith contents) "sops/users").value = ["ana", "bob"] := by cbv
    have hm : (entries (teamTreeWith contents) "sops/machines").value = [] := by cbv
    have hg : (entries (teamTreeWith contents) "sops/groups").value = [] := by cbv
    have hs : (entries (teamTreeWith contents) "sops/secrets").value = [] := by cbv
    have ha : Path.join "sops/users" "ana" = "sops/users/ana" := by decide
    have hb : Path.join "sops/users" "bob" = "sops/users/bob" := by decide
    have hana : (teamTreeWith contents).avoids [anaKeyFile] "sops/users/ana" := by cbv
    have hbob : (teamTreeWith contents).avoids [anaKeyFile] "sops/users/bob" := by cbv
    simp [sections_sops, hu, hm, hg, hs, ha, hb, hana, hbob]
  rosters := List.all_eq_true.mp (by cbv)

def keyedTree : FileTree := teamTreeWith (Text.Utf8.encode ageKeyText)

theorem keysOf_keyedTree : keysOf keyedTree "sops" ["age"] ⟨.user, "ana"⟩ = ["age1"] := by
  have hf : keyFileOf "sops" ⟨.user, "ana"⟩ = "sops/users/ana/key.json" := by decide
  have hb : ∀ contents, (teamTreeWith contents).readBytes "sops/users/ana/key.json" =
      .ok contents := by
    intro contents
    cbv
  have hr : keyedTree.readText "sops/users/ana/key.json" = .ok ageKeyText := by
    rw [FileTree.readText, keyedTree, hb]
    simp only [bind, Except.bind, Text.Utf8.decode?_encode]
  have hp : KeyFile.parse ["age"] ageKeyText = .ok ["age1"] := by decide +kernel
  unfold keyFileOf at hf
  rw [keysOf, keysIn, hf]
  simp [KeyFile.load, hr, KeyFile.parseAt, hp, Except.mapError]

/-- A key file gives way to a directory, and other types of keys are recognised. -/
theorem teamTree_keys_stay_local :
    SameOutside [anaKeyFile] keyedTree (teamTree (some .directory)) ∧
      keysOf keyedTree "sops" ["age"] ⟨.user, "ana"⟩ = ["age1"] ∧
      (hierarchy keyedTree "sops" ["age"]).AlikeButKeys
        (hierarchy (teamTree (some .directory)) "sops" ["pgp"]) ∧
      keysOf keyedTree "sops" ["age"] ⟨.user, "bob"⟩ =
        keysOf (teamTree (some .directory)) "sops" ["age"] ⟨.user, "bob"⟩ ∧
      (hierarchy keyedTree "sops" ["age"]).SameEntries
        (hierarchy (teamTree (some .directory)) "sops" ["age"]) ⟨.user, "bob"⟩ := by
  have hs : SameOutside [anaKeyFile] keyedTree (teamTree (some .directory)) := by
    unfold SameOutside
    decide +kernel
  have hf : keyFileOf "sops" ⟨.user, "bob"⟩ = "sops/users/bob/key.json" := by decide
  have hb : keyedTree.avoids [anaKeyFile] (keyFileOf "sops" ⟨.user, "bob"⟩) := by
    rw [hf]
    cbv
  obtain ⟨halike, hkeys⟩ :=
    key_material_stays_local.2 _ _ _ _ hs (layoutAvoids_teamTreeWith _)
  have hk := hkeys _ hb ["age"]
  exact ⟨hs, keysOf_keyedTree, (halike ["age"] ["pgp"]).1, hk, (halike ["age"] ["age"]).2 _ hk⟩

/-- The directory of a user is a link to where another user keeps a key file. -/
def linkedTree (keyFile : Option Host.Node) : FileTree where
  entries :=
    [(["sops"].map Text.Utf8.encode, .directory),
      (["sops", "users"].map Text.Utf8.encode, .directory),
      (["sops", "users", "ana"].map Text.Utf8.encode, .directory),
      (["sops", "users", "bob"].map Text.Utf8.encode, .link (Text.Utf8.encode "ana/key.json"))] ++
    keyFile.toList.map (["sops", "users", "ana", "key.json"].map Text.Utf8.encode, ·)
  working := []

/-- There the other user is registered or not, as the key file is a directory or
is missing. -/
theorem linkedTree_not_alike :
    SameOutside [anaKeyFile] (linkedTree (some .directory)) (linkedTree none) ∧
      ¬ (hierarchy (linkedTree (some .directory)) "sops" ["age"]).AlikeButKeys
        (hierarchy (linkedTree none) "sops" ["age"]) := by
  have hs : SameOutside [anaKeyFile] (linkedTree (some .directory)) (linkedTree none) := by
    unfold SameOutside
    decide +kernel
  have hu : Path.join "sops" PrincipalKind.user.directory = "sops/users" := by decide
  have hb : Path.join "sops/users" "bob" = "sops/users/bob" := by decide
  have hknown : (hierarchy (linkedTree (some .directory)) "sops" ["age"]).isKnown
      ⟨.user, "bob"⟩ := by
    have hl : (linkedTree (some .directory)).list "sops/users" =
        .ok (["ana", "bob"].map Text.Utf8.encode) := by cbv
    have hd : (linkedTree (some .directory)).isDirectory "sops/users/bob" := by cbv
    rw [isKnown_hierarchy, entityDirectory_iff, hu, hb]
    exact ⟨visible_iff.mpr ⟨_, hl, by simp, by decide⟩, hd⟩
  have hunknown : ¬ (hierarchy (linkedTree none) "sops" ["age"]).isKnown ⟨.user, "bob"⟩ := by
    have hd : (linkedTree none).isDirectory "sops/users/bob" = false := by cbv
    rw [isKnown_hierarchy, entityDirectory_iff, hu, hb, hd]
    simp
  refine ⟨hs, fun h => hunknown ?_⟩
  have hm := Hierarchy.mem_listed_iff.mpr hknown
  rw [← hierarchy, h.listed] at hm
  exact Hierarchy.mem_listed_iff.mp hm

end Scan

end SecretAccess
