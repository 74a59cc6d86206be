import SecretAccess.Proofs.Appearance
import SecretAccess.Proofs.Cleaning
import SecretAccess.Proofs.Queries

/-!
# Dangling names are invisible

Every view leaves out what is not registered or not declared, each in a place
of its own. So a hierarchy and its visible part look alike: no reader can tell
that a dangling name was ever there (`clean_invisible`).
-/

namespace SecretAccess.Hierarchy

namespace VisiblePart

variable {v h : Hierarchy}

theorem isKnown (hv : v.VisiblePart h) : v.isKnown = h.isKnown := by
  funext p
  unfold Hierarchy.isKnown
  rw [hv.catalog]

theorem isKnownGroup (hv : v.VisiblePart h) : v.isKnownGroup = h.isKnownGroup := by
  funext g
  unfold Hierarchy.isKnownGroup
  rw [hv.groups]

theorem knownNames (hv : v.VisiblePart h) (ps : List PrincipalId) (kind : PrincipalKind) :
    v.knownNames (ps.filter h.isKnown) kind = h.knownNames ps kind := by
  simp only [Hierarchy.knownNames, hv.isKnown, List.filter_filter, Bool.and_assoc,
    Bool.and_self]

theorem grantRow (hv : v.VisiblePart h) : v.grantRow = h.grantRow := by
  funext s
  simp only [Hierarchy.grantRow, hv.directPrincipals, hv.grantedGroups, hv.knownNames,
    hv.isKnownGroup, SortedSet.toList_restrict, List.filter_filter, Bool.and_self]

theorem grantRows (hv : v.VisiblePart h) : v.grantRows = h.grantRows := by
  rw [Hierarchy.grantRows, Hierarchy.grantRows, hv.secrets, hv.grantRow]

theorem groupView (hv : v.VisiblePart h) {g : GroupName} (hg : h.isKnownGroup g) :
    v.groupView g = h.groupView g := by
  simp only [Hierarchy.groupView, hv.membersOf, SortedSet.toList_restrict, hv.knownNames,
    hv.secretsOf g hg]

theorem principalView (hv : v.VisiblePart h) {p : Principal} (hp : h.isKnown p.id) :
    v.principalView v.resolve p = h.principalView h.resolve p := by
  simp only [Hierarchy.principalView, hv.groupsOf p.id hp, hv.resolve,
    Resolution.accessOf_restrict h.resolve hp]

theorem principalViews (hv : v.VisiblePart h) (hr : ∀ p ∈ h.catalog.values, h.isKnown p.id)
    (kind : PrincipalKind) :
    (v.catalog.ofKind kind).map (v.principalView v.resolve) =
      (h.catalog.ofKind kind).map (h.principalView h.resolve) := by
  rw [hv.catalog]
  -- only registered principals are listed, so their rows and records were kept
  refine List.map_congr_left fun p hp => hv.principalView (hr p ?_)
  exact (List.mem_filter.mp hp).1

theorem groupViews (hv : v.VisiblePart h) :
    v.groups.toList.map v.groupView = h.groups.toList.map h.groupView := by
  rw [hv.groups]
  exact List.map_congr_left fun g hg => hv.groupView (SortedSet.mem_toList_iff.mp hg)

theorem view (hv : v.VisiblePart h) (hr : ∀ p ∈ h.catalog.values, h.isKnown p.id) :
    v.view = h.view := by
  simp only [Hierarchy.view, hv.principalViews hr, hv.groupViews, hv.grantRows]

theorem keyListing (hv : v.VisiblePart h) : v.keyListing = h.keyListing := by
  rw [Hierarchy.keyListing, Hierarchy.keyListing, hv.catalog]

theorem memberEdges (hv : v.VisiblePart h) : v.memberEdges = h.memberEdges := by
  funext g
  simp only [Hierarchy.memberEdges, hv.membersOf, hv.isKnown, SortedSet.toList_restrict,
    List.filter_filter, Bool.and_self]

theorem accessEdges (hv : v.VisiblePart h) : v.accessEdges = h.accessEdges := by
  funext s
  simp only [Hierarchy.accessEdges, hv.directPrincipals, hv.grantedGroups, hv.isKnown,
    hv.isKnownGroup, SortedSet.toList_restrict, List.filter_filter, Bool.and_self]

theorem graph (hv : v.VisiblePart h) : v.graph = h.graph := by
  rw [Hierarchy.graph, Hierarchy.graph, hv.catalog, hv.groups, hv.secrets, hv.memberEdges,
    hv.accessEdges]

theorem resolveEntries (hv : v.VisiblePart h) :
    v.resolve.entries = h.resolve.entries.filter fun e => h.isKnown e.1.principal := by
  rw [hv.resolve, SortedMap.restrict]

theorem summary (hv : v.VisiblePart h) : v.summary = h.summary := by
  simp only [Hierarchy.summary, hv.catalog, hv.groups, hv.secrets, hv.grantRows, hv.isKnown,
    hv.resolveEntries, List.filter_filter, Bool.and_self]

end VisiblePart

/-- Taking the dangling names out of the steps changes nothing that is shown.
Of the resolved records, those of registered principals stay as they are. -/
theorem clean_invisible (steps : List Step) :
    (run (Step.clean steps)).LookAlike (run steps) ∧
      (run (Step.clean steps)).resolve.entries =
        (run steps).resolve.entries.filter fun e => (run steps).isKnown e.1.principal := by
  have hv := visiblePart_run_clean steps
  refine ⟨.of_views ?_ hv.keyListing hv.graph hv.summary, hv.resolveEntries⟩
  exact hv.view fun p => isKnown_of_mem_values

end SecretAccess.Hierarchy
