import SecretAccess.Proofs.Styling
import SecretAccess.Proofs.Tree.Faithful

/-!
# What the rich theme adds

Whatever a theme paints is the text itself with codes around it, and an icon is
a picture with a space behind it that stands in front of a label. So a label is
got back by taking out the codes and dropping one icon.
-/

namespace SecretAccess.Display

open Text

-- ---------------------------------------------------------------------------
-- Painted text
-- ---------------------------------------------------------------------------

theorem Role.lt_of_mem_style {role : Role} {n : Nat} (h : n ∈ role.style) : n < 10000 := by
  revert n
  cases role <;> decide

namespace Theme

variable (t : Theme) (role : Role)

theorem styledAs_paint (text : String) : StyledAs (t.paint role text) text := by
  cases t with
  | plain => exact .refl text
  | rich => exact .paint (fun _ => Role.lt_of_mem_style) text

theorem styledAs_list (names : List String) :
    StyledAs (t.list role names) (", ".intercalate names) :=
  .intercalate ", " (List.forall₂_map_left_iff.mpr (List.forall₂_same.mpr fun name _ =>
    t.styledAs_paint role name))

variable {t role}

theorem shownAs_paint {text : String} (h : Printable text) : ShownAs (t.paint role text) text :=
  ⟨t.styledAs_paint role text, h⟩

theorem shownAs_list {names : List String} (h : ∀ name ∈ names, Printable name) :
    ShownAs (t.list role names) (", ".intercalate names) :=
  ⟨t.styledAs_list role names, .intercalate (by decide) h⟩

end Theme

/-- Two separate pieces of text say the same of a record. -/
theorem attribution_plain (r : AccessRecord) : attribution .plain r = r.text := by
  unfold attribution AccessRecord.text
  rw [Theme.list_plain]
  cases r.direct <;> cases r.inherited <;> rfl

/-- However a record is painted, its text is that of the record, whatever the
names of its groups are. -/
theorem styledAs_attribution (t : Theme) (r : AccessRecord) :
    StyledAs (attribution t r) r.text := by
  have hd : StyledAs (t.paint .direct "direct") "direct" := t.styledAs_paint _ _
  have hl := t.styledAs_list .inherited r.via.toList
  have hv : StyledAs "via " "via " := .refl _
  have hp : StyledAs " + via " " + via " := .refl _
  have hb : "direct + via " = "direct" ++ " + via " := by decide
  unfold attribution AccessRecord.text
  rw [hb]
  cases r.direct <;> cases r.inherited
  · exact hv.append hl
  · exact hv.append hl
  · exact hd
  · exact (hd.append hp).append hl

theorem printable_text {r : AccessRecord} (h : ∀ g ∈ r.via.toList, Printable g) :
    Printable r.text := by
  have hl : Printable (", ".intercalate r.via.toList) := .intercalate (by decide) h
  have hd : Printable "direct" := by decide
  have hv : Printable "via " := by decide
  have hp : Printable "direct + via " := by decide
  unfold AccessRecord.text
  cases r.direct <;> cases r.inherited
  · exact hv.append hl
  · exact hv.append hl
  · exact hd
  · exact hp.append hl

theorem shownAs_attribution {t : Theme} {r : AccessRecord}
    (h : ∀ g ∈ r.via.toList, Printable g) : ShownAs (attribution t r) r.text :=
  ⟨styledAs_attribution t r, printable_text h⟩

-- ---------------------------------------------------------------------------
-- Icons
-- ---------------------------------------------------------------------------

/-- The pictures that stand in front of labels. -/
def pictures : List String := ["🔐", "👥", "🖥️ ", "🏢", "🔒", "🔓", "👤", "📊", "🔑"]

/-- What stands behind the icon that a label begins with, if it begins with one. -/
def dropIcon (label : String) : String :=
  match pictures.findSome? fun picture =>
    Reading.expect (Theme.rich.icon picture).toList label.toList with
  | some rest => String.ofList rest
  | none => label

theorem dropIcon_icon {picture : String} (h : picture ∈ pictures) (label : String) :
    dropIcon (Theme.rich.icon picture ++ label) = label := by
  simp only [pictures, List.mem_cons, List.not_mem_nil, or_false] at h
  rcases h with rfl | rfl | rfl | rfl | rfl | rfl | rfl | rfl | rfl <;>
    simp [dropIcon, pictures, Theme.icon, Reading.expect]

/-- A label that begins with another character has no icon. -/
theorem dropIcon_of_expect {label : String} (h : ∀ picture ∈ pictures,
    Reading.expect (Theme.rich.icon picture).toList label.toList = none) :
    dropIcon label = label := by
  rw [dropIcon, List.findSome?_eq_none_iff.mpr h]

theorem shownAs_icon {t : Theme} {picture : String} (h : picture ∈ pictures) :
    ShownAs (t.icon picture) (t.icon picture) := by
  have hr : ∀ picture ∈ pictures, Printable (Theme.rich.icon picture) := by decide
  have hp : Printable "" := by decide
  cases t with
  | plain => exact .refl hp
  | rich => exact .refl (hr picture h)

end SecretAccess.Display

namespace SecretAccess

open Text

-- ---------------------------------------------------------------------------
-- Views without control characters
-- ---------------------------------------------------------------------------

structure PrincipalView.Clean (p : PrincipalView) : Prop where
  name : Printable p.id.name
  keys : ∀ key ∈ p.publicKeys, Printable key
  groups : ∀ g ∈ p.groups, Printable g
  secrets : ∀ e ∈ p.secrets, Printable e.secret
  via : ∀ e ∈ p.secrets, ∀ g ∈ e.record.via.toList, Printable g

structure GroupView.Clean (g : GroupView) : Prop where
  name : Printable g.name
  users : ∀ n ∈ g.users, Printable n
  machines : ∀ n ∈ g.machines, Printable n
  secrets : ∀ s ∈ g.secrets, Printable s

structure GrantRow.Clean (r : GrantRow) : Prop where
  secret : Printable r.secret
  users : ∀ n ∈ r.users, Printable n
  machines : ∀ n ∈ r.machines, Printable n
  groups : ∀ g ∈ r.groups, Printable g

namespace HierarchyView

/-- No name and no key that is shown holds a control character. -/
structure Clean (v : HierarchyView) : Prop where
  principals : ∀ p ∈ v.principals, Printable p.id.name
  keys : ∀ p ∈ v.principals, ∀ key ∈ p.publicKeys, Printable key
  groups : ∀ g ∈ v.groups, Printable g.name
  secrets : ∀ r ∈ v.secrets, Printable r.secret

namespace Clean

variable {v : HierarchyView}

theorem principal (h : v.Clean) {kind : PrincipalKind} {n : String}
    (hn : OneEntry (v.ofKind kind) (·.id) ⟨kind, n⟩) : Printable n := by
  obtain ⟨p, hp, hid⟩ := hn.exists_mem
  have hname : p.id.name = n := congrArg PrincipalId.name hid
  exact hname ▸ h.principals p (mem_principals_of_mem_ofKind hp)

theorem group (h : v.Clean) {g : GroupName} (hg : OneEntry v.groups (·.name) g) :
    Printable g := by
  obtain ⟨w, hw, rfl⟩ := hg.exists_mem
  exact h.groups w hw

theorem secret (h : v.Clean) {s : SecretName} (hs : OneEntry v.secrets (·.secret) s) :
    Printable s := by
  obtain ⟨r, hr, rfl⟩ := hs.exists_mem
  exact h.secrets r hr

theorem principalView (hv : v.Closed) (h : v.Clean) {p : PrincipalView}
    (hp : p ∈ v.principals) : p.Clean where
  name := h.principals p hp
  keys := h.keys p hp
  groups g hg := h.group (hv.groups p hp g hg)
  secrets e he := h.secret (hv.secrets p hp e he)
  via e he g hg := h.group (hv.via p hp e he g hg)

theorem groupView (hv : v.Closed) (h : v.Clean) {g : GroupView} (hg : g ∈ v.groups) :
    g.Clean where
  name := h.groups g hg
  users n hn := h.principal (hv.members g hg .user n hn)
  machines n hn := h.principal (hv.members g hg .machine n hn)
  secrets s hs := h.secret (hv.groupSecrets g hg s hs)

theorem grantRow (hv : v.Closed) (h : v.Clean) {r : GrantRow} (hr : r ∈ v.secrets) :
    r.Clean where
  secret := h.secrets r hr
  users n hn := h.principal (hv.grantees r hr .user n hn)
  machines n hn := h.principal (hv.grantees r hr .machine n hn)
  groups g hg := h.group (hv.rowGroups r hr g hg)

end Clean

end HierarchyView

end SecretAccess
