import SecretAccess.Proofs.Queries
import SecretAccess.Proofs.Resolution
import SecretAccess.View

/-!
# Cross-references in the hierarchy view

The sections of the hierarchy view are read from different places: the groups
of a principal from one side of the membership, the members of a group from
the other, the grants of a secret and the secrets of a group likewise, and the
access of a principal from the resolution. Every name that one section
mentions has an entry in the section it belongs to, the sections agree, and
all access can be worked out from the memberships and grants that are shown
(`view_self_contained`).
-/

namespace SecretAccess

/-- Just one of the listed entries has the key. -/
def OneEntry {α κ : Type} [DecidableEq κ] (l : List α) (key : α → κ) (k : κ) : Prop :=
  ∃ a, l.filter (fun b => key b = k) = [a]

theorem OneEntry.exists_mem {α κ : Type} [DecidableEq κ] {l : List α} {key : α → κ} {k : κ}
    (h : OneEntry l key k) : ∃ a ∈ l, key a = k := by
  obtain ⟨a, ha⟩ := h
  have hm : a ∈ l.filter (fun b => key b = k) := ha ▸ List.mem_singleton_self a
  exact ⟨a, (List.mem_filter.mp hm).1, of_decide_eq_true (List.mem_filter.mp hm).2⟩

theorem OneEntry.of_sorted {α κ : Type} [Ord κ] [Std.LawfulEqOrd κ] [DecidableEq κ] {l : List α}
    {key : α → κ} {k : κ} (hl : l.Pairwise fun a b => compare (key a) (key b) = .lt) {a : α}
    (ha : a ∈ l) (hk : key a = k) : OneEntry l key k :=
  ⟨a, hk ▸ filter_key_eq_singleton hl ha⟩

def GroupView.membersOf (g : GroupView) : PrincipalKind → List String
  | .user => g.users
  | .machine => g.machines

def GrantRow.granteesOf (r : GrantRow) : PrincipalKind → List String
  | .user => r.users
  | .machine => r.machines

namespace HierarchyView

def ofKind (v : HierarchyView) : PrincipalKind → List PrincipalView
  | .user => v.users
  | .machine => v.machines

/-- Every name that is mentioned has an entry of its own. -/
structure Closed (v : HierarchyView) : Prop where
  groups : ∀ p ∈ v.principals, ∀ g ∈ p.groups, OneEntry v.groups (·.name) g
  via : ∀ p ∈ v.principals, ∀ e ∈ p.secrets, ∀ g ∈ e.record.via.toList,
    OneEntry v.groups (·.name) g
  secrets : ∀ p ∈ v.principals, ∀ e ∈ p.secrets, OneEntry v.secrets (·.secret) e.secret
  groupSecrets : ∀ g ∈ v.groups, ∀ s ∈ g.secrets, OneEntry v.secrets (·.secret) s
  members : ∀ g ∈ v.groups, ∀ kind, ∀ n ∈ g.membersOf kind,
    OneEntry (v.ofKind kind) (·.id) ⟨kind, n⟩
  grantees : ∀ r ∈ v.secrets, ∀ kind, ∀ n ∈ r.granteesOf kind,
    OneEntry (v.ofKind kind) (·.id) ⟨kind, n⟩
  rowGroups : ∀ r ∈ v.secrets, ∀ g ∈ r.groups, OneEntry v.groups (·.name) g

/-- What two sections say of the same pair of names is the same. -/
structure Consistent (v : HierarchyView) : Prop where
  membership : ∀ p ∈ v.principals, ∀ g ∈ v.groups,
    g.name ∈ p.groups ↔ p.id.name ∈ g.membersOf p.id.kind
  grants : ∀ g ∈ v.groups, ∀ r ∈ v.secrets, r.secret ∈ g.secrets ↔ g.name ∈ r.groups
  access : ∀ p ∈ v.principals, ∀ r ∈ v.secrets, (∃ e ∈ p.secrets, e.secret = r.secret) ↔
    p.id.name ∈ r.granteesOf p.id.kind ∨ ∃ g ∈ p.groups, g ∈ r.groups
  oneAccess : ∀ p ∈ v.principals, ∀ e ∈ p.secrets, OneEntry p.secrets (·.secret) e.secret
  attribution : ∀ p ∈ v.principals, ∀ r ∈ v.secrets, ∀ e ∈ p.secrets, e.secret = r.secret →
    (e.record.direct ↔ p.id.name ∈ r.granteesOf p.id.kind) ∧
      e.record.via.toList = p.groups.filter (· ∈ r.groups)

/-- Access to the secret of a row: whether it is direct, and through which of
the principal's groups. -/
def accessShown? (p : PrincipalView) (r : GrantRow) : Option (SecretName × Bool × List GroupName) :=
  let direct := decide (p.id.name ∈ r.granteesOf p.id.kind)
  let via := p.groups.filter (· ∈ r.groups)
  if direct || !via.isEmpty then some (r.secret, direct, via) else none

/-- The access of a principal, worked out from the memberships and the grants
that the view shows. -/
def accessShown (v : HierarchyView) (p : PrincipalView) :
    List (SecretName × Bool × List GroupName) :=
  v.secrets.filterMap (accessShown? p)

end HierarchyView

def AccessEntry.parts (e : AccessEntry) : SecretName × Bool × List GroupName :=
  (e.secret, e.record.direct, e.record.via.toList)

namespace HierarchyView

theorem accessShown?_eq_some_iff {p : PrincipalView} {r : GrantRow}
    {x : SecretName × Bool × List GroupName} :
    accessShown? p r = some x ↔
      (p.id.name ∈ r.granteesOf p.id.kind ∨ ∃ g ∈ p.groups, g ∈ r.groups) ∧
        (r.secret, decide (p.id.name ∈ r.granteesOf p.id.kind),
          p.groups.filter (· ∈ r.groups)) = x := by
  simp [accessShown?]

/-- In a view that is closed and consistent, the access it shows is the access
it implies. -/
theorem accessShown_eq {v : HierarchyView} (hv : v.Closed) (hc : v.Consistent)
    (hr : v.secrets.Pairwise fun a b => compare a.secret b.secret = .lt) {p : PrincipalView}
    (hp : p ∈ v.principals)
    (hs : p.secrets.Pairwise fun a b => compare a.secret b.secret = .lt) :
    v.accessShown p = p.secrets.map (·.parts) := by
  refine SortedMap.entries_eq_of_mem_iff ?_ (List.pairwise_map.mpr hs) fun x => ?_
  · refine hr.filterMap _ fun a b hlt x hx y hy => ?_
    obtain ⟨-, rfl⟩ := accessShown?_eq_some_iff.mp hx
    obtain ⟨-, rfl⟩ := accessShown?_eq_some_iff.mp hy
    exact hlt
  · rw [accessShown, List.mem_filterMap, List.mem_map]
    constructor
    · rintro ⟨r, hr, hx⟩
      obtain ⟨hreach, rfl⟩ := accessShown?_eq_some_iff.mp hx
      obtain ⟨e, he, hes⟩ := (hc.access p hp r hr).mpr hreach
      obtain ⟨hd, hvia⟩ := hc.attribution p hp r hr e he hes
      exact ⟨e, he, by simp [AccessEntry.parts, hes, ← hd, hvia]⟩
    · rintro ⟨e, he, rfl⟩
      obtain ⟨r, hr, hrs⟩ := (hv.secrets p hp e he).exists_mem
      obtain ⟨hd, hvia⟩ := hc.attribution p hp r hr e he hrs.symm
      refine ⟨r, hr, accessShown?_eq_some_iff.mpr ⟨?_, ?_⟩⟩
      · exact (hc.access p hp r hr).mp ⟨e, he, hrs.symm⟩
      · simp [AccessEntry.parts, hrs, ← hd, hvia]

end HierarchyView

namespace Hierarchy

variable {steps : List Step}

-- ---------------------------------------------------------------------------
-- What each section lists
-- ---------------------------------------------------------------------------

theorem mem_knownNames {h : Hierarchy} {ps : List PrincipalId} {kind : PrincipalKind}
    {n : String} : n ∈ h.knownNames ps kind ↔ ⟨kind, n⟩ ∈ ps ∧ h.isKnown ⟨kind, n⟩ := by
  simp only [knownNames, List.mem_map, List.mem_filter, Bool.and_eq_true, decide_eq_true_eq]
  constructor
  · rintro ⟨⟨_, _⟩, ⟨hm, rfl, hk⟩, rfl⟩
    exact ⟨hm, hk⟩
  · rintro ⟨hm, hk⟩
    exact ⟨_, ⟨hm, rfl, hk⟩, rfl⟩

theorem mem_membersOf_groupView {h : Hierarchy} {g : GroupName} {kind : PrincipalKind}
    {n : String} :
    n ∈ (h.groupView g).membersOf kind ↔ h.isMember g ⟨kind, n⟩ ∧ h.isKnown ⟨kind, n⟩ := by
  cases kind <;> simp [GroupView.membersOf, groupView, mem_knownNames, SortedSet.mem_toList_iff]

theorem mem_granteesOf_grantRow {h : Hierarchy} {s : SecretName} {kind : PrincipalKind}
    {n : String} :
    n ∈ (h.grantRow s).granteesOf kind ↔
      h.direct.holds s ⟨kind, n⟩ ∧ h.isKnown ⟨kind, n⟩ := by
  cases kind <;> simp [GrantRow.granteesOf, grantRow, mem_knownNames, SortedSet.mem_toList_iff]

theorem mem_groups_grantRow {h : Hierarchy} {s : SecretName} {g : GroupName} :
    g ∈ (h.grantRow s).groups ↔ h.viaGroup.holds s g ∧ h.isKnownGroup g := by
  simp [grantRow, SortedSet.mem_toList_iff]

theorem mem_secrets_groupView {g : GroupName} {s : SecretName} :
    s ∈ ((run steps).groupView g).secrets ↔ (run steps).viaGroup.holds s g := by
  rw [groupView, SortedSet.mem_toList_iff, (coherent_run steps).contains_secretsOf]

theorem mem_groups_principalView {p : Principal} {g : GroupName} :
    g ∈ ((run steps).principalView (run steps).resolve p).groups ↔
      (run steps).isMember g p.id := by
  rw [principalView, SortedSet.mem_toList_iff, (coherent_run steps).contains_groupsOf]

theorem mem_secrets_principalView {h : Hierarchy} {p : Principal} {e : AccessEntry} :
    e ∈ (h.principalView h.resolve p).secrets ↔
      (⟨p.id, e.secret⟩, e.record) ∈ h.resolve.entries := by
  rw [principalView, List.mem_map, ← Resolution.mem_accessOf_iff]
  constructor
  · rintro ⟨_, hm, rfl⟩
    exact hm
  · exact fun hm => ⟨_, hm, rfl⟩

theorem ofKind_view (h : Hierarchy) (kind : PrincipalKind) :
    h.view.ofKind kind = (h.catalog.ofKind kind).map (h.principalView h.resolve) := by
  cases kind <;> rfl

theorem mem_principals_view {h : Hierarchy} {v : PrincipalView} :
    v ∈ h.view.principals ↔ ∃ p ∈ h.catalog.values, h.principalView h.resolve p = v := by
  simp only [HierarchyView.principals, view, Catalog.ofKind, List.mem_append, List.mem_map,
    List.mem_filter, decide_eq_true_eq]
  constructor
  · rintro (⟨p, ⟨hp, -⟩, rfl⟩ | ⟨p, ⟨hp, -⟩, rfl⟩)
    · exact ⟨p, hp, rfl⟩
    · exact ⟨p, hp, rfl⟩
  · rintro ⟨p, hp, rfl⟩
    cases hk : p.id.kind with
    | user => exact .inl ⟨p, ⟨hp, hk⟩, rfl⟩
    | machine => exact .inr ⟨p, ⟨hp, hk⟩, rfl⟩

-- ---------------------------------------------------------------------------
-- One entry for each name
-- ---------------------------------------------------------------------------

theorem id_of_mem_catalog {k : PrincipalId} {p : Principal}
    (h : (k, p) ∈ (run steps).catalog.entries) : p.id = k := by
  have hk := SortedMap.get?_eq_some_iff.mpr h
  rw [get?_catalog_run, Option.map_eq_some_iff] at hk
  obtain ⟨keys, -, rfl⟩ := hk
  rfl

theorem pairwise_catalog_values (steps : List Step) :
    (run steps).catalog.values.Pairwise fun p q => compare p.id q.id = .lt := by
  refine List.pairwise_map.mpr ((run steps).catalog.sorted.imp_of_mem fun {a b} ha hb h => ?_)
  rwa [id_of_mem_catalog ha, id_of_mem_catalog hb]

theorem exists_mem_values_of_isKnown {p : PrincipalId} (h : (run steps).isKnown p) :
    ∃ q ∈ (run steps).catalog.values, q.id = p := by
  obtain ⟨q, hq⟩ := Option.isSome_iff_exists.mp h
  have hm := SortedMap.get?_eq_some_iff.mp hq
  exact ⟨q, List.mem_map.mpr ⟨_, hm, rfl⟩, id_of_mem_catalog hm⟩

theorem oneEntry_principal {kind : PrincipalKind} {n : String}
    (h : (run steps).isKnown ⟨kind, n⟩) :
    OneEntry ((run steps).view.ofKind kind) (·.id) ⟨kind, n⟩ := by
  obtain ⟨q, hq, hid⟩ := exists_mem_values_of_isKnown h
  rw [ofKind_view]
  have hs : (((run steps).catalog.ofKind kind).map
      ((run steps).principalView (run steps).resolve)).Pairwise
        fun a b => compare a.id b.id = .lt :=
    List.pairwise_map.mpr ((pairwise_catalog_values steps).filter _)
  have hm : q ∈ (run steps).catalog.ofKind kind :=
    List.mem_filter.mpr ⟨hq, by simp [hid]⟩
  exact .of_sorted hs (List.mem_map_of_mem hm) hid

theorem oneEntry_group {h : Hierarchy} {g : GroupName} (hg : h.isKnownGroup g) :
    OneEntry h.view.groups (·.name) g := by
  have hs : (h.groups.toList.map h.groupView).Pairwise
      fun a b => compare a.name b.name = .lt :=
    List.pairwise_map.mpr (SortedSet.pairwise_toList h.groups)
  have hm : g ∈ h.groups.toList := SortedSet.mem_toList_iff.mpr hg
  exact .of_sorted hs (List.mem_map_of_mem hm) rfl

theorem pairwise_secrets_view (h : Hierarchy) :
    h.view.secrets.Pairwise fun a b => compare a.secret b.secret = .lt :=
  List.pairwise_map.mpr (SortedSet.pairwise_toList h.secrets)

theorem oneEntry_secret {h : Hierarchy} {s : SecretName} (hs : h.isSecret s) :
    OneEntry h.view.secrets (·.secret) s := by
  have hm : s ∈ h.secrets.toList := SortedSet.mem_toList_iff.mpr hs
  exact .of_sorted (pairwise_secrets_view h) (List.mem_map_of_mem hm) rfl

/-- The groups of a principal are the declared ones that it is a member of. -/
theorem toList_groupsOf_run (steps : List Step) (p : PrincipalId) :
    ((run steps).groupsOf p).toList =
      (run steps).groups.toList.filter fun g => (run steps).isMember g p := by
  rw [← SortedSet.toList_restrict]
  refine congrArg _ (SortedSet.eq_restrict fun g => ?_)
  rw [(coherent_run steps).contains_groupsOf, Bool.eq_iff_iff, Bool.and_eq_true]
  exact ⟨fun hg => ⟨hg, isKnownGroup_of_isMember hg⟩, And.left⟩

/-- The records of a principal stand in the order of their secrets. -/
theorem pairwise_secrets_principalView (h : Hierarchy) (p : Principal) :
    (h.principalView h.resolve p).secrets.Pairwise
      fun a b => compare a.secret b.secret = .lt := by
  rw [principalView]
  exact List.pairwise_map.mpr (h.resolve.pairwise_accessOf p.id)

theorem isSecret_of_mem_resolve {p : PrincipalId} {s : SecretName} {a : AccessRecord}
    (h : (⟨p, s⟩, a) ∈ (run steps).resolve.entries) : (run steps).isSecret s := by
  rcases exists_mem_entries_resolve_run.mp ⟨a, h⟩ with hd | ⟨g, hg, -⟩
  · exact isSecret_of_direct hd
  · exact isSecret_of_viaGroup hg

-- ---------------------------------------------------------------------------
-- The view as a whole
-- ---------------------------------------------------------------------------

theorem closed_view (steps : List Step) : (run steps).view.Closed where
  groups v hv g hg := by
    obtain ⟨p, -, rfl⟩ := mem_principals_view.mp hv
    exact oneEntry_group (isKnownGroup_of_isMember (mem_groups_principalView.mp hg))
  via v hv e he g hg := by
    obtain ⟨p, -, rfl⟩ := mem_principals_view.mp hv
    have hvia := (mem_entries_resolve_run (mem_secrets_principalView.mp he)).2 g
    exact oneEntry_group (isKnownGroup_of_isMember (hvia.mp (SortedSet.mem_toList_iff.mp hg)).2)
  secrets v hv e he := by
    obtain ⟨p, -, rfl⟩ := mem_principals_view.mp hv
    exact oneEntry_secret (isSecret_of_mem_resolve (mem_secrets_principalView.mp he))
  groupSecrets v hv s hs := by
    obtain ⟨g, -, rfl⟩ := List.mem_map.mp hv
    exact oneEntry_secret (isSecret_of_viaGroup (mem_secrets_groupView.mp hs))
  members v hv kind n hn := by
    obtain ⟨g, -, rfl⟩ := List.mem_map.mp hv
    exact oneEntry_principal (mem_membersOf_groupView.mp hn).2
  grantees v hv kind n hn := by
    obtain ⟨s, -, rfl⟩ := List.mem_map.mp hv
    exact oneEntry_principal (mem_granteesOf_grantRow.mp hn).2
  rowGroups v hv g hg := by
    obtain ⟨s, -, rfl⟩ := List.mem_map.mp hv
    exact oneEntry_group (mem_groups_grantRow.mp hg).2

theorem exists_access_iff {p : Principal} (hp : (run steps).isKnown p.id) (s : SecretName) :
    (∃ e ∈ ((run steps).principalView (run steps).resolve p).secrets, e.secret = s) ↔
      p.id.name ∈ ((run steps).grantRow s).granteesOf p.id.kind ∨
        ∃ g ∈ ((run steps).principalView (run steps).resolve p).groups,
          g ∈ ((run steps).grantRow s).groups := by
  simp only [mem_granteesOf_grantRow, mem_groups_grantRow, mem_groups_principalView]
  have hr : (∃ a, (⟨p.id, s⟩, a) ∈ (run steps).resolve.entries) ↔ _ :=
    exists_mem_entries_resolve_run
  constructor
  · rintro ⟨e, he, rfl⟩
    rcases hr.mp ⟨_, mem_secrets_principalView.mp he⟩ with hd | ⟨g, hg, hm⟩
    · exact .inl ⟨hd, hp⟩
    · exact .inr ⟨g, hm, hg, isKnownGroup_of_isMember hm⟩
  · intro h
    obtain ⟨a, ha⟩ := hr.mpr (h.imp And.left fun ⟨g, hm, hg, _⟩ => ⟨g, hg, hm⟩)
    exact ⟨⟨s, a⟩, mem_secrets_principalView.mpr ha, rfl⟩

theorem attribution_view {p : Principal} (hp : (run steps).isKnown p.id) {e : AccessEntry}
    (he : e ∈ ((run steps).principalView (run steps).resolve p).secrets) :
    (e.record.direct ↔
        p.id.name ∈ ((run steps).grantRow e.secret).granteesOf p.id.kind) ∧
      e.record.via.toList = ((run steps).principalView (run steps).resolve p).groups.filter
        (· ∈ ((run steps).grantRow e.secret).groups) := by
  obtain ⟨hd, hv⟩ := mem_entries_resolve_run (mem_secrets_principalView.mp he)
  constructor
  · rw [hd, mem_granteesOf_grantRow]
    exact ⟨fun h => ⟨h, hp⟩, And.left⟩
  · have hr : e.record.via = ((run steps).groupsOf p.id).restrict
        fun g => g ∈ ((run steps).grantRow e.secret).groups := by
      refine SortedSet.eq_restrict fun g => ?_
      rw [Bool.eq_iff_iff, hv, Bool.and_eq_true, decide_eq_true_eq, mem_groups_grantRow,
        (coherent_run steps).contains_groupsOf]
      constructor
      · rintro ⟨hg, hm⟩
        exact ⟨⟨hg, isKnownGroup_of_isMember hm⟩, hm⟩
      · rintro ⟨⟨hg, -⟩, hm⟩
        exact ⟨hg, hm⟩
    rw [hr, SortedSet.toList_restrict]
    rfl

theorem consistent_view (steps : List Step) : (run steps).view.Consistent where
  membership v hv w hw := by
    obtain ⟨p, hp, rfl⟩ := mem_principals_view.mp hv
    obtain ⟨g, -, rfl⟩ := List.mem_map.mp hw
    rw [mem_groups_principalView, principalView, mem_membersOf_groupView]
    exact ⟨fun h => ⟨h, isKnown_of_mem_values hp⟩, And.left⟩
  grants w hw r hr := by
    obtain ⟨g, hg, rfl⟩ := List.mem_map.mp hw
    obtain ⟨s, -, rfl⟩ := List.mem_map.mp hr
    rw [mem_secrets_groupView, mem_groups_grantRow]
    exact ⟨fun h => ⟨h, SortedSet.mem_toList_iff.mp hg⟩, And.left⟩
  access v hv r hr := by
    obtain ⟨p, hp, rfl⟩ := mem_principals_view.mp hv
    obtain ⟨s, -, rfl⟩ := List.mem_map.mp hr
    exact exists_access_iff (isKnown_of_mem_values hp) s
  oneAccess v hv e he := by
    obtain ⟨p, -, rfl⟩ := mem_principals_view.mp hv
    exact .of_sorted (pairwise_secrets_principalView _ p) he rfl
  attribution v hv r hr e he hs := by
    obtain ⟨p, hp, rfl⟩ := mem_principals_view.mp hv
    obtain ⟨s, -, rfl⟩ := List.mem_map.mp hr
    obtain rfl : e.secret = s := hs
    exact attribution_view (isKnown_of_mem_values hp) he

/-- Every name in the hierarchy view has its own entry there, any two sections
agree on what both of them say, and the access of every principal follows from
the memberships and grants that are shown. -/
theorem view_self_contained (steps : List Step) :
    (run steps).view.Closed ∧ (run steps).view.Consistent ∧
      ∀ p ∈ (run steps).view.principals,
        (run steps).view.accessShown p = p.secrets.map (·.parts) := by
  have hv := closed_view steps
  have hc := consistent_view steps
  refine ⟨hv, hc, fun p hp => ?_⟩
  refine HierarchyView.accessShown_eq hv hc (pairwise_secrets_view _) hp ?_
  obtain ⟨q, -, rfl⟩ := mem_principals_view.mp hp
  exact pairwise_secrets_principalView _ q

end Hierarchy

end SecretAccess
