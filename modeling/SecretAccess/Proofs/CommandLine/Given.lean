import Mathlib
import SecretAccess.CommandLine.Reader

/-!
# What is given

A request seen as what it says of each option. An item adds what it says of its
option and leaves all others alone; where something was said of the option
before, it is refused. So a list of items comes to the same in any order, and
is refused at the first item whose option stands before it (`foldlM_give_ok`,
`foldlM_give_repeated`).
-/

namespace SecretAccess.CommandLine

/-- An option that is given, with its value if it takes one. -/
abbrev Item := Opt × Option String

/-- Items with values that their options take. -/
inductive Admissible : Item → Prop
  | flag {o} : o ∈ [.basic, .table, .keys, .graph, .all, .json, .noSummary, .verbose] →
    Admissible (o, none)
  | path {o value} : o ∈ [.root, .config] → value ≠ "" → Admissible (o, some value)
  | format (f : GraphFormat) : Admissible (.graphFormat, some f.extension)
  | output (value : String) : Admissible (.graphOutput, some value)

/-- An item whose option can be given to a request, with a value just where it
takes one. -/
structure Fits (i : Item) : Prop where
  value : i.2.isSome = i.1.takesValue
  notHelp : i.1 ≠ .help
  notVersion : i.1 ≠ .version

theorem Admissible.fits {i : Item} (h : Admissible i) : Fits i := by
  cases h with
  | flag ho =>
    simp only [List.mem_cons, List.not_mem_nil, or_false] at ho
    rcases ho with rfl | rfl | rfl | rfl | rfl | rfl | rfl | rfl <;>
      exact ⟨rfl, by decide, by decide⟩
  | path ho =>
    simp only [List.mem_cons, List.not_mem_nil, or_false] at ho
    rcases ho with rfl | rfl <;> exact ⟨rfl, nofun, nofun⟩
  | format => exact ⟨rfl, nofun, nofun⟩
  | output => exact ⟨rfl, nofun, nofun⟩

namespace Request

variable {r r' : Request} {i : Item} {is : List Item}

/-- What a request says of an option, if anything: its value, or just that it
is there. -/
def given? (r : Request) : Opt → Option (Option String)
  | .root => r.root.map some
  | .config => r.config.map some
  | .basic => if r.basic then some none else none
  | .table => if r.table then some none else none
  | .keys => if r.keys then some none else none
  | .graph => if r.graph then some none else none
  | .graphFormat => r.graphFormat.map fun f => some f.extension
  | .graphOutput => r.graphOutput.map some
  | .all => if r.all then some none else none
  | .json => if r.json then some none else none
  | .noSummary => if r.noSummary then some none else none
  | .verbose => if r.verbose then some none else none
  | .help | .version => none

/-- All that a request says, option by option. -/
def items (r : Request) : List Item := Opt.every.filterMap fun o => (r.given? o).map (o, ·)

def give (r : Request) (i : Item) : Except UsageError Request :=
  match i.2 with
  | some value => r.setValue i.1 value
  | none => r.raise i.1

/-- A request that says one thing more than another. -/
structure Adds (r : Request) (i : Item) (r' : Request) : Prop where
  shell : r'.shell = r.shell
  given : ∀ o, r'.given? o = if o = i.1 then some i.2 else r.given? o

-- ---------------------------------------------------------------------------
-- A request is what it says
-- ---------------------------------------------------------------------------

theorem extension_injective : Function.Injective GraphFormat.extension := by
  intro f g h
  cases f <;> cases g <;> first | rfl | simp [GraphFormat.extension] at h

theorem named?_extension (f : GraphFormat) : GraphFormat.named? f.extension = some f := by
  cases f <;> rfl

theorem eq_of_given (hs : r'.shell = r.shell) (hg : ∀ o, r'.given? o = r.given? o) : r' = r := by
  have hvalue : ∀ {v v' : Option String}, v'.map some = v.map some → v' = v :=
    fun h => Option.map_injective (Option.some_injective _) h
  have hflag : ∀ {b b' : Bool}, (if b' then some (none : Option String) else none) =
      (if b then some none else none) → b' = b := by
    intro b b' h
    cases b <;> cases b' <;> first | rfl | cases h
  have hformat : r'.graphFormat = r.graphFormat :=
    Option.map_injective ((Option.some_injective _).comp extension_injective) (hg .graphFormat)
  obtain ⟨⟩ := r
  obtain ⟨⟩ := r'
  simp only [Request.mk.injEq]
  exact ⟨hvalue (hg .root), hvalue (hg .config), hflag (hg .basic), hflag (hg .table),
    hflag (hg .keys), hflag (hg .graph), hformat, hvalue (hg .graphOutput), hflag (hg .all),
    hflag (hg .json), hflag (hg .noSummary), hflag (hg .verbose), hs⟩

theorem mem_items {o : Opt} {value : Option String} :
    (o, value) ∈ r.items ↔ r.given? o = some value := by
  have ho : o ∈ Opt.every := by cases o <;> decide
  constructor
  · intro h
    obtain ⟨o', -, h⟩ := List.mem_filterMap.mp h
    obtain ⟨value', h, heq⟩ := Option.map_eq_some_iff.mp h
    cases heq
    exact h
  · intro h
    exact List.mem_filterMap.mpr ⟨o, ho, by rw [h]; rfl⟩

theorem nodup_items (r : Request) : (r.items.map Prod.fst).Nodup := by
  have hs : (r.items.map Prod.fst).Sublist Opt.every := by
    unfold items
    induction Opt.every with
    | nil => exact .slnil
    | cons o os ih =>
      cases h : r.given? o with
      | none => simpa [h] using ih.cons o
      | some value => simpa [h] using ih.cons_cons o
  exact hs.nodup (by decide)

/-- The values of a request are admissible when its paths are not empty. -/
theorem admissible_of_mem_items (hr : r.root ≠ some "") (hc : r.config ≠ some "")
    (hi : i ∈ r.items) : Admissible i := by
  obtain ⟨o, value⟩ := i
  have hg := mem_items.mp hi
  cases o with
  | root =>
    obtain ⟨path, hp, rfl⟩ := Option.map_eq_some_iff.mp hg
    exact .path (by simp) fun he => hr (he ▸ hp)
  | config =>
    obtain ⟨path, hp, rfl⟩ := Option.map_eq_some_iff.mp hg
    exact .path (by simp) fun he => hc (he ▸ hp)
  | graphFormat =>
    obtain ⟨f, -, rfl⟩ := Option.map_eq_some_iff.mp hg
    exact .format f
  | graphOutput =>
    obtain ⟨output, -, rfl⟩ := Option.map_eq_some_iff.mp hg
    exact .output output
  | help => cases hg
  | version => cases hg
  | _ =>
    obtain ⟨-, heq⟩ := Option.ite_none_right_eq_some.mp hg
    cases heq
    exact .flag (by simp)

-- ---------------------------------------------------------------------------
-- One item
-- ---------------------------------------------------------------------------

theorem give_fresh (hi : Admissible i) (hf : r.given? i.1 = none) :
    ∃ r', r.give i = .ok r' ∧ Adds r i r' := by
  cases hi with
  | @flag o ho =>
    simp only [List.mem_cons, List.not_mem_nil, or_false] at ho
    rcases ho with rfl | rfl | rfl | rfl | rfl | rfl | rfl | rfl <;>
    · simp only [given?, ite_eq_right_iff, reduceCtorEq, imp_false, Bool.not_eq_true] at hf
      refine ⟨_, by simp [give, raise, hf]; rfl, ?_⟩
      exact ⟨rfl, fun o => by cases o <;> rfl⟩
  | @path o value ho hv =>
    simp only [List.mem_cons, List.not_mem_nil, or_false] at ho
    rcases ho with rfl | rfl <;>
    · simp only [given?, Option.map_eq_none_iff] at hf
      refine ⟨_, by simp [give, setValue, hf, hv]; rfl, ?_⟩
      exact ⟨rfl, fun o => by cases o <;> rfl⟩
  | format f =>
    simp only [given?, Option.map_eq_none_iff] at hf
    refine ⟨_, by simp [give, setValue, hf, named?_extension]; rfl, ?_⟩
    exact ⟨rfl, fun o => by cases o <;> rfl⟩
  | output value =>
    simp only [given?, Option.map_eq_none_iff] at hf
    refine ⟨_, by simp [give, setValue, hf]; rfl, ?_⟩
    exact ⟨rfl, fun o => by cases o <;> rfl⟩

/-- That an option is repeated is seen before its value is looked at. -/
theorem give_repeated (hi : Fits i) (hg : r.given? i.1 ≠ none) :
    r.give i = .error (.repeated i.1) := by
  obtain ⟨o, value⟩ := i
  obtain ⟨hv, hh, hversion⟩ := hi
  cases value with
  | none =>
    cases o <;> first | contradiction | cases hv
    all_goals
      simp only [given?, ne_eq, ite_eq_right_iff, reduceCtorEq, imp_false, not_not] at hg
      simp [give, raise, hg]
  | some value =>
    cases o <;> first | contradiction | cases hv
    all_goals
      simp only [given?, ne_eq, Option.map_eq_none_iff, ← Option.isSome_iff_ne_none] at hg
      simp [give, setValue, hg]

-- ---------------------------------------------------------------------------
-- Lists of items
-- ---------------------------------------------------------------------------

theorem foldlM_give_ok (hi : ∀ i ∈ is, Admissible i) (hn : (is.map Prod.fst).Nodup)
    (hf : ∀ i ∈ is, r.given? i.1 = none) :
    ∃ r', is.foldlM give r = .ok r' ∧ r'.shell = r.shell ∧
      ∀ o value, r'.given? o = some value ↔ (o, value) ∈ is ∨ r.given? o = some value := by
  induction is generalizing r with
  | nil => exact ⟨r, rfl, rfl, by simp⟩
  | cons i is ih =>
    obtain ⟨hni, hn⟩ := List.nodup_cons.mp hn
    obtain ⟨next, hnext, hadds⟩ := give_fresh (hi i (by simp)) (hf i (by simp))
    -- what is still to come is said of other options
    have hother : ∀ j ∈ is, j.1 ≠ i.1 := fun j hj he =>
      hni (List.mem_map.mpr ⟨j, hj, he⟩)
    obtain ⟨r', hfold, hshell, hgiven⟩ := ih (fun j hj => hi j (by simp [hj])) hn fun j hj => by
      rw [hadds.given, if_neg (hother j hj)]
      exact hf j (by simp [hj])
    refine ⟨r', by rw [List.foldlM_cons, hnext]; exact hfold, hshell.trans hadds.shell, ?_⟩
    intro o value
    rw [hgiven, hadds.given, List.mem_cons]
    by_cases ho : o = i.1
    · subst ho
      have hfresh := hf i (by simp)
      simp [hfresh, Prod.ext_iff, or_comm, eq_comm]
    · simp [ho, Prod.ext_iff]

theorem foldlM_give_repeated {front back : List Item}
    (hf : ∀ j ∈ front, Admissible j) (hi : Fits i) (hn : (front.map Prod.fst).Nodup)
    (hm : i.1 ∈ front.map Prod.fst) :
    (front ++ i :: back).foldlM give .empty = .error (.repeated i.1) := by
  have hempty : ∀ o, Request.empty.given? o = none := fun o => by cases o <;> rfl
  obtain ⟨r, hfold, -, hgiven⟩ := foldlM_give_ok (r := .empty) hf hn fun j _ => hempty j.1
  obtain ⟨⟨o, value⟩, hj, ho⟩ := List.mem_map.mp hm
  have hg : r.given? i.1 = some value := (hgiven _ _).mpr (.inl (ho ▸ hj))
  rw [List.foldlM_append, hfold]
  simp only [bind, Except.bind, List.foldlM_cons]
  rw [give_repeated hi (by simp [hg])]

/-- What a request says, said in any order, makes the request. -/
theorem foldlM_give_items (hs : r.shell = none) (hr : r.root ≠ some "") (hc : r.config ≠ some "")
    (hp : is.Perm r.items) : is.foldlM give .empty = .ok r := by
  have hempty : ∀ o, Request.empty.given? o = none := fun o => by cases o <;> rfl
  obtain ⟨r', hfold, hshell, hgiven⟩ := foldlM_give_ok (r := .empty)
    (fun i hi => admissible_of_mem_items hr hc (hp.mem_iff.mp hi))
    ((hp.map Prod.fst).nodup_iff.mpr r.nodup_items) fun i _ => hempty i.1
  have heq : r' = r := by
    refine eq_of_given (hshell.trans hs.symm) fun o => Option.ext fun value => ?_
    rw [hgiven, hp.mem_iff, mem_items, hempty]
    simp
  rw [hfold, heq]

end Request

end SecretAccess.CommandLine
