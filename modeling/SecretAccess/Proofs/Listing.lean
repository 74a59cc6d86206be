import SecretAccess.Proofs.GraphShape

/-!
# Lists in order

Whatever is listed comes in strictly increasing order, so nothing comes twice.
Maps and sets are kept in the order of their keys, and what is made of them
keeps it: a row of a relation read from either end, the part that is known,
the names of one kind, the records of one principal or of one secret. The order
in which entries were added leaves no trace (`listed_in_order`).
-/

namespace SecretAccess

/-- Names are ordered by their code points, as words are by their letters. -/
def NameBefore (m n : String) : Prop := m.toList.map Char.toNat < n.toList.map Char.toNat

/-- Users come before machines, and within a kind principals come by name. -/
def PrincipalId.Before (p q : PrincipalId) : Prop :=
  p.kind = .user ∧ q.kind = .machine ∨ p.kind = q.kind ∧ NameBefore p.name q.name

/-- Records come by principal, and those of one principal by secret. -/
def AccessKey.Before (j k : AccessKey) : Prop :=
  j.principal.Before k.principal ∨
    j.principal = k.principal ∧ NameBefore j.secret k.secret

/-- The list is strictly increasing, and so holds nothing twice. -/
structure InOrder {α : Type} (before : α → α → Prop) (l : List α) : Prop where
  increasing : l.Pairwise before
  nodup : l.Nodup

-- ---------------------------------------------------------------------------
-- Comparing
-- ---------------------------------------------------------------------------

theorem map_toNat_lt_iff {cs ds : List Char} :
    cs.map Char.toNat < ds.map Char.toNat ↔ cs < ds := by
  induction cs generalizing ds with
  | nil => cases ds <;> simp
  | cons c cs ih =>
    cases ds with
    | nil => simp
    | cons d ds =>
      have hlt : c.toNat < d.toNat ↔ c < d := Iff.rfl
      rw [List.map_cons, List.map_cons, List.cons_lt_cons_iff, List.cons_lt_cons_iff, ih, hlt,
        Char.toNat_inj]

theorem nameBefore_of_compare_lt {m n : String} (h : compare m n = .lt) : NameBefore m n :=
  map_toNat_lt_iff.mpr (String.lt_iff.mp (compareOfLessAndEq_eq_lt.mp h))

theorem PrincipalId.before_of_compare_lt {p q : PrincipalId} (h : compare p q = .lt) :
    p.Before q := by
  rcases Ordering.then_eq_lt.mp h with hk | ⟨hk, hn⟩
  · left
    obtain ⟨kind, _⟩ := p
    obtain ⟨kind', _⟩ := q
    cases kind <;> cases kind' <;> first | exact ⟨rfl, rfl⟩ | cases hk
  · exact .inr ⟨Std.LawfulEqCmp.eq_of_compare hk, nameBefore_of_compare_lt hn⟩

theorem AccessKey.before_of_compare_lt {j k : AccessKey} (h : compare j k = .lt) :
    j.Before k := by
  rcases Ordering.then_eq_lt.mp h with hp | ⟨hp, hs⟩
  · exact .inl (PrincipalId.before_of_compare_lt hp)
  · exact .inr ⟨Std.LawfulEqCmp.eq_of_compare hp, nameBefore_of_compare_lt hs⟩

theorem compare_name_of_kind_eq {p q : PrincipalId} (h : compare p q = .lt)
    (hk : p.kind = q.kind) : compare p.name q.name = .lt := by
  rcases Ordering.then_eq_lt.mp h with hlt | ⟨-, hn⟩
  · have heq : compare p.kind q.kind = .eq := hk ▸ Std.ReflCmp.compare_self
    exact absurd (heq.symm.trans hlt) (by decide)
  · exact hn

-- ---------------------------------------------------------------------------
-- Lists in order
-- ---------------------------------------------------------------------------

namespace InOrder

theorem sublist {α : Type} {before : α → α → Prop} {l m : List α} (h : InOrder before m)
    (hl : l.Sublist m) : InOrder before l :=
  ⟨h.increasing.sublist hl, h.nodup.sublist hl⟩

theorem filter {α : Type} {before : α → α → Prop} {l : List α} (h : InOrder before l)
    (keep : α → Bool) : InOrder before (l.filter keep) := h.sublist List.filter_sublist

variable {α κ : Type} [Ord κ] [Std.LawfulEqOrd κ] {before : κ → κ → Prop}

/-- A list that increases by key has its keys in order. -/
theorem map_key (hb : ∀ {j k}, compare j k = .lt → before j k) {key : α → κ} {l : List α}
    (hl : l.Pairwise fun a b => compare (key a) (key b) = .lt) : InOrder before (l.map key) where
  increasing := List.pairwise_map.mpr (hl.imp hb)
  nodup := List.pairwise_map.mpr (pairwise_ne_of_pairwise_lt hl)

theorem keys (hb : ∀ {j k}, compare j k = .lt → before j k) (m : SortedMap κ α) :
    InOrder before m.keys :=
  map_key hb m.sorted

theorem toList (hb : ∀ {j k}, compare j k = .lt → before j k) (s : SortedSet κ) :
    InOrder before s.toList :=
  keys hb s

end InOrder

theorem inOrder_names (s : SortedSet String) : InOrder NameBefore s.toList :=
  .toList nameBefore_of_compare_lt s

theorem inOrder_principals (s : SortedSet PrincipalId) : InOrder PrincipalId.Before s.toList :=
  .toList PrincipalId.before_of_compare_lt s

namespace Hierarchy

/-- Of principals in order, those of one kind that are known have their names in order. -/
theorem inOrder_knownNames (h : Hierarchy) (s : SortedSet PrincipalId) (kind : PrincipalKind) :
    InOrder NameBefore (h.knownNames s.toList kind) := by
  refine .map_key nameBefore_of_compare_lt ?_
  have hk : ∀ p ∈ s.toList.filter fun p => p.kind = kind && h.isKnown p, p.kind = kind := by
    intro p hp
    have hb := (List.mem_filter.mp hp).2
    rw [Bool.and_eq_true] at hb
    exact of_decide_eq_true hb.1
  refine ((SortedSet.pairwise_toList s).filter _).imp_of_mem fun {p q} hp hq hlt => ?_
  exact compare_name_of_kind_eq hlt ((hk p hp).trans (hk q hq).symm)

theorem inOrder_membersOf_groupView (h : Hierarchy) (g : GroupName) (kind : PrincipalKind) :
    InOrder NameBefore ((h.groupView g).membersOf kind) := by
  cases kind
  · exact inOrder_knownNames h (h.membersOf g) .user
  · exact inOrder_knownNames h (h.membersOf g) .machine

theorem inOrder_granteesOf_grantRow (h : Hierarchy) (s : SecretName) (kind : PrincipalKind) :
    InOrder NameBefore ((h.grantRow s).granteesOf kind) := by
  cases kind
  · exact inOrder_knownNames h (h.directPrincipals s) .user
  · exact inOrder_knownNames h (h.directPrincipals s) .machine

theorem inOrder_catalog (steps : List Step) :
    InOrder PrincipalId.Before ((run steps).catalog.values.map (·.id)) :=
  .map_key PrincipalId.before_of_compare_lt (pairwise_catalog_values steps)

theorem inOrder_ofKind_view (steps : List Step) (kind : PrincipalKind) :
    InOrder NameBefore (((run steps).view.ofKind kind).map (·.id.name)) := by
  have hk : ∀ p ∈ (run steps).catalog.ofKind kind, p.id.kind = kind := fun p hp =>
    of_decide_eq_true (List.mem_filter.mp hp).2
  have hp : ((run steps).catalog.ofKind kind).Pairwise fun p q : Principal =>
      compare p.id.name q.id.name = .lt :=
    ((pairwise_catalog_values steps).filter _).imp_of_mem fun hp hq hlt =>
      compare_name_of_kind_eq hlt ((hk _ hp).trans (hk _ hq).symm)
  rw [ofKind_view, List.map_map]
  exact .map_key nameBefore_of_compare_lt hp

-- ---------------------------------------------------------------------------
-- All lists
-- ---------------------------------------------------------------------------

structure RowInOrder (r : GrantRow) : Prop where
  grantees : ∀ kind, InOrder NameBefore (r.granteesOf kind)
  groups : InOrder NameBefore r.groups

structure PrincipalInOrder (p : PrincipalView) : Prop where
  groups : InOrder NameBefore p.groups
  secrets : InOrder NameBefore (p.secrets.map (·.secret))
  via : ∀ e ∈ p.secrets, InOrder NameBefore e.record.via.toList

structure GroupInOrder (g : GroupView) : Prop where
  members : ∀ kind, InOrder NameBefore (g.membersOf kind)
  secrets : InOrder NameBefore g.secrets

/-- Every list of the views, and every list that the indices and the resolution
answer with. -/
structure ListedInOrder (h : Hierarchy) : Prop where
  sections : ∀ kind, InOrder NameBefore ((h.view.ofKind kind).map (·.id.name))
  groups : InOrder NameBefore (h.view.groups.map (·.name))
  secrets : InOrder NameBefore (h.view.secrets.map (·.secret))
  matrix : InOrder NameBefore (h.matrix.rows.map (·.secret))
  ofPrincipals : ∀ p ∈ h.view.principals, PrincipalInOrder p
  ofGroups : ∀ g ∈ h.view.groups, GroupInOrder g
  ofSecrets : ∀ r ∈ h.view.secrets, RowInOrder r
  ofRows : ∀ r ∈ h.matrix.rows, RowInOrder r
  catalog : InOrder PrincipalId.Before (h.catalog.values.map (·.id))
  keyListing : InOrder PrincipalId.Before (h.keyListing.entries.map (·.id))
  membersOf : ∀ g, InOrder PrincipalId.Before (h.membersOf g).toList
  directPrincipals : ∀ s, InOrder PrincipalId.Before (h.directPrincipals s).toList
  accessTo : ∀ s, InOrder PrincipalId.Before ((h.resolve.accessTo s).map (·.1))
  accessOf : ∀ p, InOrder NameBefore ((h.resolve.accessOf p).map (·.1))
  records : InOrder AccessKey.Before h.resolve.keys
  viaGroups : ∀ e ∈ h.resolve.entries, InOrder NameBefore e.2.via.toList

theorem rowInOrder (h : Hierarchy) : ∀ r ∈ h.grantRows, RowInOrder r := by
  intro r hr
  obtain ⟨s, -, rfl⟩ := List.mem_map.mp hr
  exact {
    grantees := inOrder_granteesOf_grantRow h s
    groups := (inOrder_names (h.grantedGroups s)).filter h.isKnownGroup }

theorem principalInOrder (h : Hierarchy) : ∀ p ∈ h.view.principals, PrincipalInOrder p := by
  intro v hv
  obtain ⟨p, -, rfl⟩ := mem_principals_view.mp hv
  exact {
    groups := inOrder_names (h.groupsOf p.id)
    secrets := .map_key nameBefore_of_compare_lt (pairwise_secrets_principalView h p)
    via := fun e _ => inOrder_names e.record.via }

theorem groupInOrder (h : Hierarchy) : ∀ g ∈ h.view.groups, GroupInOrder g := by
  intro v hv
  obtain ⟨g, -, rfl⟩ := List.mem_map.mp hv
  exact ⟨inOrder_membersOf_groupView h g, inOrder_names (h.secretsOf g)⟩

theorem inOrder_groups_view (h : Hierarchy) :
    InOrder NameBefore (h.view.groups.map (·.name)) := by
  have hn : h.view.groups.map (·.name) = h.groups.toList := by
    simp [view, groupView, Function.comp_def]
  rw [hn]
  exact inOrder_names h.groups

theorem inOrder_secrets_view (h : Hierarchy) :
    InOrder NameBefore (h.view.secrets.map (·.secret)) :=
  .map_key nameBefore_of_compare_lt (pairwise_secrets_view h)

theorem inOrder_keyListing (steps : List Step) :
    InOrder PrincipalId.Before ((run steps).keyListing.entries.map (·.id)) := by
  rw [keyListing, List.map_map]
  exact inOrder_catalog steps

/-- However a hierarchy was built, each of its lists is strictly increasing: by
name, by kind and name, or by kind, name and secret. -/
theorem listed_in_order (steps : List Step) : (run steps).ListedInOrder where
  sections := inOrder_ofKind_view steps
  groups := inOrder_groups_view (run steps)
  secrets := inOrder_secrets_view (run steps)
  matrix := inOrder_secrets_view (run steps)
  ofPrincipals := principalInOrder (run steps)
  ofGroups := groupInOrder (run steps)
  ofSecrets := rowInOrder (run steps)
  ofRows := rowInOrder (run steps)
  catalog := inOrder_catalog steps
  keyListing := inOrder_keyListing steps
  membersOf g := inOrder_principals ((run steps).membersOf g)
  directPrincipals s := inOrder_principals ((run steps).directPrincipals s)
  accessTo s :=
    .map_key PrincipalId.before_of_compare_lt ((run steps).resolve.pairwise_accessTo s)
  accessOf p := .map_key nameBefore_of_compare_lt ((run steps).resolve.pairwise_accessOf p)
  records := .keys AccessKey.before_of_compare_lt (run steps).resolve
  viaGroups e _ := inOrder_names e.2.via

end Hierarchy

end SecretAccess
