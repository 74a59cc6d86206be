import SecretAccess.Proofs.Listing
import SecretAccess.Proofs.Refinement
import SecretAccess.Proofs.Table.Reader

/-!
# The matrix shows the known grants

A cell holds the names that a secret is granted to, joined by commas, or a dash
when there are none. Where no name holds a comma or is itself a dash, every cell
says its names, and the text of the matrix says all of its rows
(`read_render`).
-/

namespace SecretAccess

theorem Hierarchy.isKnown_run_iff {steps : List Step} {p : PrincipalId} :
    (run steps).isKnown p ↔ ∃ keys, .register p keys ∈ steps := by
  rw [isKnown_run, List.any_eq_true]
  constructor
  · rintro ⟨x, hx, hr⟩
    cases x with
    | register q keys =>
      obtain rfl : q = p := of_decide_eq_true hr
      exact ⟨keys, hx⟩
    | declareGroup | addMember | declareSecret | grantDirect | grantViaGroup => cases hr
  · rintro ⟨keys, hx⟩
    exact ⟨_, hx, by simp [Step.registers]⟩

namespace Display.Matrix

open Text Hierarchy

/-- The name can be told from the other names in its cell, and from the dash of
an empty one. -/
structure Listable (name : String) : Prop where
  regular : Regular name
  notEmpty : name ≠ ""
  notDash : name ≠ "-"
  noComma : ',' ∉ name.toList

instance (name : String) : Decidable (Listable name) :=
  decidable_of_iff (Regular name ∧ name ≠ "" ∧ name ≠ "-" ∧ ',' ∉ name.toList)
    ⟨fun ⟨hr, he, hd, hc⟩ => ⟨hr, he, hd, hc⟩, fun ⟨hr, he, hd, hc⟩ => ⟨hr, he, hd, hc⟩⟩

/-- The names between commas that a space follows. What was read of the first
name stands in front. -/
def splitNames (front : List Char) : List Char → List String
  | ',' :: ' ' :: cs => String.ofList front :: splitNames [] cs
  | c :: cs => splitNames (front ++ [c]) cs
  | [] => [String.ofList front]

def namesIn (cell : String) : List String := if cell = "-" then [] else splitNames [] cell.toList

variable {names : List String} {role : Role}

theorem splitNames_append {cs : List Char} (h : ',' ∉ cs) (front rest : List Char) :
    splitNames front (cs ++ rest) = splitNames (front ++ cs) rest := by
  induction cs generalizing front with
  | nil => rw [List.append_nil, List.nil_append]
  | cons c cs ih =>
    obtain ⟨hc, hcs⟩ := not_or.mp (mt List.mem_cons.mpr h)
    rw [List.cons_append, splitNames, ih hcs, List.append_assoc]
    · rfl
    · -- the other cases of the split begin with a comma
      rintro cs' rfl -
      exact hc rfl

theorem splitNames_intercalate (hne : names ≠ []) (h : ∀ name ∈ names, ',' ∉ name.toList) :
    splitNames [] (", ".intercalate names).toList = names := by
  induction names with
  | nil => exact absurd rfl hne
  | cons name names ih =>
    obtain ⟨hname, hnames⟩ := List.forall_mem_cons.mp h
    cases names with
    | nil =>
      have hs := splitNames_append hname [] []
      rw [List.append_nil, List.nil_append] at hs
      rw [String.intercalate_singleton, hs, splitNames, String.ofList_toList]
    | cons next names =>
      have hl : (", ".intercalate (name :: next :: names)).toList =
          name.toList ++ ',' :: ' ' :: (", ".intercalate (next :: names)).toList := by
        rw [String.intercalate_cons_cons]
        simp
      rw [hl, splitNames_append hname, splitNames, ih (by simp) hnames, List.nil_append,
        String.ofList_toList]

theorem cell_cons (role : Role) (name : String) (names : List String) :
    cell .plain role (name :: names) = ", ".intercalate (name :: names) :=
  Theme.list_plain role (name :: names)

theorem namesIn_cell (h : ∀ name ∈ names, Listable name) :
    namesIn (cell .plain role names) = names := by
  cases names with
  | nil => rfl
  | cons name names =>
    have hs := splitNames_intercalate (List.cons_ne_nil name names) fun n hn => (h n hn).noComma
    rw [cell_cons, namesIn, if_neg, hs]
    -- the text of a dash would be a name that is one
    intro hd
    rw [hd] at hs
    have hdash : ["-"] = name :: names := hs
    exact (h name List.mem_cons_self).notDash (List.cons.inj hdash).1.symm

theorem regular_intercalate (h : ∀ name ∈ names, Listable name) :
    Regular (", ".intercalate names) ∧ (names ≠ [] → ", ".intercalate names ≠ "") := by
  induction names with
  | nil => exact ⟨by decide, fun hne => absurd rfl hne⟩
  | cons name names ih =>
    obtain ⟨hname, hnames⟩ := List.forall_mem_cons.mp h
    cases names with
    | nil =>
      rw [String.intercalate_singleton]
      exact ⟨hname.regular, fun _ => hname.notEmpty⟩
    | cons next names =>
      obtain ⟨hr, hne⟩ := ih hnames
      rw [String.intercalate_cons_cons]
      exact ⟨hname.regular.append_comma hr (hne (by simp)), fun _ => by simp⟩

theorem regular_cell (h : ∀ name ∈ names, Listable name) : Regular (cell .plain role names) := by
  have hdash : Regular "-" := by decide
  cases names with
  | nil => exact hdash
  | cons name names =>
    rw [cell_cons]
    exact (regular_intercalate h).1

-- ---------------------------------------------------------------------------
-- Rows
-- ---------------------------------------------------------------------------

def titles : List String := ["Secret", "Users", "Machines", "Groups"]

def readRow : List String → Option GrantRow
  | [secret, users, machines, groups] =>
    some ⟨secret, namesIn users, namesIn machines, namesIn groups⟩
  | _ => none

/-- All names of the row can be told apart in it. -/
structure ListableRow (r : GrantRow) : Prop where
  secret : Regular r.secret
  grantees : ∀ kind, ∀ name ∈ r.granteesOf kind, Listable name
  groups : ∀ name ∈ r.groups, Listable name

instance (r : GrantRow) : Decidable (ListableRow r) :=
  decidable_of_iff (Regular r.secret ∧
      (∀ kind ∈ PrincipalKind.all, ∀ name ∈ r.granteesOf kind, Listable name) ∧
        ∀ name ∈ r.groups, Listable name)
    ⟨fun ⟨hs, hn, hg⟩ => ⟨hs, fun kind => hn kind (by cases kind <;> decide), hg⟩,
      fun ⟨hs, hn, hg⟩ => ⟨hs, fun kind _ => hn kind, hg⟩⟩

variable {r : GrantRow} {m : MatrixView}

theorem readRow_row (h : ListableRow r) : readRow (row .plain r) = some r := by
  have hu : namesIn (cell .plain .user r.users) = r.users := namesIn_cell (h.grantees .user)
  have hm : namesIn (cell .plain .machine r.machines) = r.machines :=
    namesIn_cell (h.grantees .machine)
  rw [row, readRow, hu, hm, namesIn_cell h.groups, Theme.paint_plain]

theorem regular_row (h : ListableRow r) : ∀ text ∈ row .plain r, Regular text := by
  have hu : Regular (cell .plain .user r.users) := regular_cell (h.grantees .user)
  have hm : Regular (cell .plain .machine r.machines) := regular_cell (h.grantees .machine)
  simp [row, h.secret, hu, hm, regular_cell h.groups]

theorem full_table (hm : ∀ r ∈ m.rows, ListableRow r) : (table .plain m).Full where
  titles := by
    have htitles : ∀ title ∈ titles, Regular title ∧ Table.isTitle title := by decide
    exact htitles
  rows cells hc := by
    obtain ⟨r, hr, rfl⟩ := List.mem_map.mp hc
    exact ⟨rfl, regular_row (hm r hr)⟩

theorem read_render (hm : ∀ r ∈ m.rows, ListableRow r) :
    Table.read titles (render .plain m) =
      some ((table .plain m).starts, m.rows.map (row .plain)) := by
  rw [render, Theme.icon_plain, Theme.paint_plain, String.empty_append]
  exact (full_table hm).read_titled "Secret Access Matrix" (by decide)

/-- What a text shows of the grants that were declared. -/
structure Shows (steps : List Step) (text : String) : Prop where
  rows : ∃ rows, Table.read titles text =
      some ((table .plain (run steps).matrix).starts, rows) ∧
    rows.mapM readRow = some (run steps).matrix.rows
  secrets : ∀ s, s ∈ (run steps).matrix.rows.map (·.secret) ↔
    s ∈ (PlainRelations.ofSteps steps).secrets
  ordered : InOrder NameBefore ((run steps).matrix.rows.map (·.secret))
  lists : ∀ r ∈ (run steps).matrix.rows, RowInOrder r
  grantees : ∀ r ∈ (run steps).matrix.rows, ∀ kind name,
    name ∈ r.granteesOf kind ↔ (r.secret, ⟨kind, name⟩) ∈ (PlainRelations.ofSteps steps).direct ∧
      ∃ keys, .register ⟨kind, name⟩ keys ∈ steps
  groups : ∀ r ∈ (run steps).matrix.rows, ∀ g,
    g ∈ r.groups ↔ (r.secret, g) ∈ (PlainRelations.ofSteps steps).viaGroup ∧
      g ∈ (PlainRelations.ofSteps steps).groups
  notInherited : ∀ r ∈ (run steps).matrix.rows, ∀ kind name a,
    (⟨⟨kind, name⟩, r.secret⟩, a) ∈ (run steps).resolve.entries → a.direct = false →
      name ∉ r.granteesOf kind

/-- Cut at the columns of the table, with a dash read as no name and all other cells
split where a comma and a space stand, the text gives back the rows of the matrix:
every secret with the known names it is granted to directly, and no others. -/
theorem matrix_exact (steps : List Step)
    (h : ∀ r ∈ (run steps).matrix.rows, ListableRow r) :
    Shows steps (render .plain (run steps).matrix) where
  rows := by
    refine ⟨_, read_render h, Tree.mapM_eq_some_of_map ?_⟩
    rw [List.map_map]
    exact List.map_congr_left fun r hr => readRow_row (h r hr)
  secrets s := by
    have hs : (run steps).matrix.rows.map (·.secret) =
        (run steps).secrets.toList := by
      simp [matrix, grantRows, grantRow, Function.comp_def]
    rw [hs]
    exact (refines_run steps).secrets s
  ordered := inOrder_secrets_view (run steps)
  lists := rowInOrder (run steps)
  grantees := by
    intro r hr kind name
    obtain ⟨s, -, rfl⟩ := List.mem_map.mp hr
    rw [mem_granteesOf_grantRow, holds_direct_run, isKnown_run_iff]
    rfl
  groups := by
    intro r hr g
    obtain ⟨s, -, rfl⟩ := List.mem_map.mp hr
    rw [mem_groups_grantRow, holds_viaGroup_run, isKnownGroup_run_iff]
    rfl
  notInherited := by
    intro r hr kind name a ha hd hn
    obtain ⟨s, -, rfl⟩ := List.mem_map.mp hr
    have hdirect := (mem_entries_resolve_run ha).1.mpr (mem_granteesOf_grantRow.mp hn).1
    exact absurd hdirect (by simp [hd])

/-- Grants to known names and to unknown ones, and access that is inherited. -/
def mixedGrants : List Step :=
  [.register ⟨.user, "an na"⟩ [], .register ⟨.user, "日本"⟩ ["k"], .register ⟨.machine, "e\u0301"⟩ [],
    .addMember "--" ⟨.user, "an na"⟩, .declareGroup "ops", .declareSecret "unshared",
    .grantDirect "key" ⟨.user, "日本"⟩, .grantDirect "key" ⟨.user, "an na"⟩,
    .grantDirect "key" ⟨.user, "gone"⟩, .grantDirect "" ⟨.machine, "e\u0301"⟩,
    .grantViaGroup "key" "ops", .grantViaGroup "key" "--", .grantViaGroup "key" "gone",
    .grantViaGroup "" "--"]

theorem matrix_exact_mixed :
    (∀ r ∈ (run mixedGrants).matrix.rows, ListableRow r) ∧
      Shows mixedGrants (render .plain (run mixedGrants).matrix) :=
  have h : ∀ r ∈ (run mixedGrants).matrix.rows, ListableRow r := by decide +kernel
  ⟨h, matrix_exact mixedGrants h⟩

end Display.Matrix

end SecretAccess
