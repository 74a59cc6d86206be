import SecretAccess.Proofs.Listing
import SecretAccess.Proofs.Table.Reader

/-!
# The key table lists the declared keys

A row with a kind begins a principal, and the rows without one go on with its
keys. So names and keys may be empty or come twice, and the text still says
which principal has which keys (`read_render`).
-/

namespace SecretAccess

namespace Hierarchy

/-- What the catalog holds is what was last registered. -/
theorem mem_values_run {steps : List Step} {p : PrincipalId} {keys : List String} :
    ⟨p, keys⟩ ∈ (run steps).catalog.values ↔ Step.lastKeys? steps p = some keys := by
  have hget : Step.lastKeys? steps p = some keys ↔
      (run steps).catalog.get? p = some ⟨p, keys⟩ := by
    rw [get?_catalog_run, Option.map_eq_some_iff]
    constructor
    · exact fun h => ⟨keys, h, rfl⟩
    · rintro ⟨keys', h, heq⟩
      cases heq
      exact h
  rw [hget, SortedMap.get?_eq_some_iff]
  constructor
  · intro h
    obtain ⟨⟨q, a⟩, he, rfl⟩ := List.mem_map.mp h
    have hq : p = q := id_of_mem_catalog he
    rwa [← hq] at he
  · exact fun h => List.mem_map.mpr ⟨_, h, rfl⟩

theorem mem_withKeys_run {steps : List Step} {p : PrincipalId} {keys : List String} :
    ⟨p, keys⟩ ∈ (run steps).keyListing.withKeys ↔
      Step.lastKeys? steps p = some keys ∧ keys ≠ [] := by
  rw [KeyListing.withKeys, List.mem_filter, keyListing, List.mem_map, ← mem_values_run]
  constructor
  · rintro ⟨⟨q, hq, heq⟩, hk⟩
    cases heq
    exact ⟨hq, by simpa using hk⟩
  · rintro ⟨hp, hk⟩
    exact ⟨⟨_, hp, rfl⟩, by simpa using hk⟩

end Hierarchy

namespace Display.Keys

open Text Hierarchy

def titles : List String := ["Entity", "Type", "Public Key"]

def labelled? (label : String) : Option PrincipalKind := PrincipalKind.all.find? (·.label = label)

/-- The keys at the beginning of the rows, up to the first row with a kind, and
the entries from there on. -/
def gather : List (List String) → Option (List String × List KeyEntry)
  | [] => some ([], [])
  | [name, label, key] :: rows => do
    let (keys, entries) ← gather rows
    if label = "" then some (key :: keys, entries)
    else (labelled? label).map fun kind => ([], ⟨⟨kind, name⟩, key :: keys⟩ :: entries)
  | _ :: _ => none

/-- The entries that rows amount to, if every key belongs to one. -/
def entries? (rows : List (List String)) : Option (List KeyEntry) :=
  match gather rows with
  | some ([], entries) => some entries
  | _ => none

/-- What a text lists of the keys that were registered. -/
structure Lists (steps : List Step) (text : String) : Prop where
  rows : ∃ rows, Table.read titles text =
      some ((table .plain (run steps).keyListing).starts, rows) ∧
    entries? rows = some (run steps).keyListing.withKeys ∧
    rows.length = ((run steps).keyListing.withKeys.map (·.keys.length)).sum
  declared : ∀ p keys, ⟨p, keys⟩ ∈ (run steps).keyListing.withKeys ↔
    Step.lastKeys? steps p = some keys ∧ keys ≠ []
  ordered : InOrder PrincipalId.Before ((run steps).keyListing.withKeys.map (·.id))

structure RegularEntry (e : KeyEntry) : Prop where
  name : Regular e.id.name
  keys : ∀ key ∈ e.keys, Regular key

instance (e : KeyEntry) : Decidable (RegularEntry e) :=
  decidable_of_iff (Regular e.id.name ∧ ∀ key ∈ e.keys, Regular key)
    ⟨fun ⟨hn, hk⟩ => ⟨hn, hk⟩, fun ⟨hn, hk⟩ => ⟨hn, hk⟩⟩

variable {e : KeyEntry} {es : List KeyEntry} {l : KeyListing} {keys : List String}

-- ---------------------------------------------------------------------------
-- Rows and entries
-- ---------------------------------------------------------------------------

theorem label_ne_empty (kind : PrincipalKind) : kind.label ≠ "" := by cases kind <;> decide

theorem labelled?_label (kind : PrincipalKind) : labelled? kind.label = some kind := by
  cases kind <;> decide

theorem gather_keys {rest : List (List String)} {pending : List String}
    (h : gather rest = some (pending, es)) (keys : List String) :
    gather (keys.map (fun key => ["", "", key]) ++ rest) = some (keys ++ pending, es) := by
  induction keys with
  | nil => exact h
  | cons key keys ih => simp [gather, ih]

/-- The rows of an entry begin it and take up no row behind them. -/
theorem gather_rows {rest : List (List String)} (he : e.keys ≠ [])
    (h : gather rest = some ([], es)) : gather (rows .plain e ++ rest) = some ([], e :: es) := by
  obtain ⟨id, keys⟩ := e
  cases keys with
  | nil => exact absurd rfl he
  | cons key keys =>
    simp [rows, gather, gather_keys h, label_ne_empty, labelled?_label]

theorem gather_flatMap (h : ∀ e ∈ es, e.keys ≠ []) :
    gather (es.flatMap (rows .plain)) = some ([], es) := by
  induction es with
  | nil => rfl
  | cons e es ih =>
    obtain ⟨he, hes⟩ := List.forall_mem_cons.mp h
    rw [List.flatMap_cons, gather_rows he (ih hes)]

theorem keys_ne_nil_of_mem (h : e ∈ l.withKeys) : e.keys ≠ [] := by
  simpa using (List.mem_filter.mp h).2

theorem length_rows (t : Theme) (e : KeyEntry) : (rows t e).length = e.keys.length := by
  cases hk : e.keys <;> simp [rows, hk]

-- ---------------------------------------------------------------------------
-- The table
-- ---------------------------------------------------------------------------

theorem regular_of_mem_rows (he : RegularEntry e) {cells : List String}
    (hc : cells ∈ rows .plain e) : cells.length = 3 ∧ ∀ cell ∈ cells, Regular cell := by
  have hempty : Regular "" := by decide
  have hlabel : Regular e.id.kind.label := by cases e.id.kind <;> decide
  have hkeys := he.keys
  cases hk : e.keys with
  | nil => simp [rows, hk] at hc
  | cons key keys =>
    rw [hk, List.forall_mem_cons] at hkeys
    simp only [rows, hk, Theme.paint_plain, List.mem_cons, List.mem_map] at hc
    obtain rfl | ⟨key', hkey', rfl⟩ := hc
    · simp [he.name, hlabel, hkeys.1]
    · simp [hempty, hkeys.2 key' hkey']

theorem full_table (hl : ∀ e ∈ l.withKeys, RegularEntry e) : (table .plain l).Full where
  titles := by
    have htitles : ∀ title ∈ titles, Regular title ∧ Table.isTitle title := by decide
    exact htitles
  rows cells hc := by
    obtain ⟨e, he, hc⟩ := List.mem_flatMap.mp hc
    exact regular_of_mem_rows (hl e he) hc

theorem read_render (hl : ∀ e ∈ l.withKeys, RegularEntry e) :
    Table.read titles (render .plain l) =
      some ((table .plain l).starts, l.withKeys.flatMap (rows .plain)) := by
  rw [render, Theme.icon_plain, Theme.paint_plain, String.empty_append]
  exact (full_table hl).read_titled "Public Keys" (by decide)

/-- Cut at the columns of the table, with a new entry at each row that has a kind,
the text gives back the principals that have keys, and their keys as they were
declared. -/
theorem keys_exact (steps : List Step)
    (h : ∀ e ∈ (run steps).keyListing.withKeys, RegularEntry e) :
    Lists steps (render .plain (run steps).keyListing) where
  rows := by
    refine ⟨_, read_render h, ?_, ?_⟩
    · rw [entries?, gather_flatMap fun e he => keys_ne_nil_of_mem he]
    · simp only [List.length_flatMap, length_rows]
  declared _ _ := mem_withKeys_run
  ordered := (inOrder_keyListing steps).sublist (List.filter_sublist.map _)

/-- Names and keys that are empty, keys that come twice, and a name without keys. -/
def blankKeys : List Step :=
  [.register ⟨.machine, ""⟩ ["", "k  k", "k  k", ""], .register ⟨.user, "日本"⟩ [""],
    .register ⟨.user, "b"⟩ [], .register ⟨.user, ""⟩ ["left", "over"],
    .register ⟨.user, ""⟩ ["", ""]]

theorem keys_exact_blanks :
    (∀ e ∈ (run blankKeys).keyListing.withKeys, RegularEntry e) ∧
      Lists blankKeys (render .plain (run blankKeys).keyListing) :=
  have h : ∀ e ∈ (run blankKeys).keyListing.withKeys, RegularEntry e := by decide +kernel
  ⟨h, keys_exact blankKeys h⟩

end Display.Keys

end SecretAccess
