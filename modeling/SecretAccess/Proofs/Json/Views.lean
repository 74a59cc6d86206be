import SecretAccess.Proofs.Json.Reader
import SecretAccess.Proofs.Sorted
import SecretAccess.Report
import Std.Data.String.ToNat

/-!
# Rebuilding views

A consumer of a report looks members up by name. This is enough to rebuild
every view exactly (`ofJson?_toJson`), because no object has two members of one
name, also where the members of one record stand among those of another
(`canonical_toJson`). A document that was not printed from a view may have none.
-/

namespace SecretAccess

namespace Json

-- ---------------------------------------------------------------------------
-- Parts of a document
-- ---------------------------------------------------------------------------

/-- What the member of this name holds. -/
def get? {α : Type} (j : Json) (name : String) (ofJson? : Json → Option α) : Option α :=
  match j with
  | .object members => (members.lookup name).bind ofJson?
  | _ => none

def bool? : Json → Option Bool
  | .bool b => some b
  | _ => none

def nat? : Json → Option Nat
  | .number spelling => spelling.toNat?
  | _ => none

def list? {α : Type} (ofJson? : Json → Option α) : Json → Option (List α)
  | .array items => items.mapM ofJson?
  | _ => none

/-- A value that may be missing. -/
def nullable? {α : Type} (ofJson? : Json → Option α) : Json → Option (Option α)
  | .null => some none
  | j => (ofJson? j).map some

def strings? : Json → Option (List String) := list? string?

variable {α : Type} {ofJson? : Json → Option α} {toJson : α → Json}

@[simp] theorem get?_cons (name : String) (j : Json) (members : List (String × Json))
    (wanted : String) : (Json.object ((name, j) :: members)).get? wanted ofJson? =
      if wanted = name then ofJson? j else (Json.object members).get? wanted ofJson? := by
  by_cases h : wanted = name
  · simp [get?, h]
  · simp [get?, List.lookup_cons, beq_false_of_ne h, h]

@[simp] theorem string?_string (s : String) : (Json.string s).string? = some s := rfl

@[simp] theorem bool?_bool (b : Bool) : (Json.bool b).bool? = some b := rfl

@[simp] theorem nat?_ofNat (n : Nat) : (Json.ofNat n).nat? = some n := Nat.toNat?_repr n

theorem list?_map (h : ∀ a, ofJson? (toJson a) = some a) (l : List α) :
    list? ofJson? (.array (l.map toJson)) = some l := by
  change (l.map toJson).mapM ofJson? = some l
  induction l with
  | nil => rfl
  | cons a l ih => simp [List.mapM_cons, h, ih]

@[simp] theorem strings?_strings (l : List String) : (strings l).strings? = some l :=
  list?_map string?_string l

@[simp] theorem nullable?_getD (o : Option String) :
    nullable? string? ((o.map Json.string).getD .null) = some o := by
  cases o <;> rfl

attribute [simp] Canonical.null Canonical.bool Canonical.number Canonical.string

@[simp] theorem canonical_object_iff (members : List (String × Json)) :
    Canonical (.object members) ↔
      (members.map (·.1)).Nodup ∧ ∀ m ∈ members, Canonical m.2 := by
  constructor
  · rintro ⟨⟩
    exact ⟨‹_›, ‹_›⟩
  · exact fun h => .object h.1 h.2

theorem canonical_map (h : ∀ a, Canonical (toJson a)) (l : List α) :
    Canonical (.array (l.map toJson)) := by
  refine .array fun item hitem => ?_
  obtain ⟨a, -, rfl⟩ := List.mem_map.mp hitem
  exact h a

@[simp] theorem canonical_strings (l : List String) : Canonical (strings l) :=
  canonical_map .string l

@[simp] theorem canonical_getD (o : Option String) :
    Canonical ((o.map Json.string).getD .null) := by
  cases o <;> simp

end Json

open Json

-- ---------------------------------------------------------------------------
-- Kinds and sets
-- ---------------------------------------------------------------------------

def PrincipalKind.named? (name : String) : Option PrincipalKind := all.find? (·.name = name)

def NodeKind.named? (name : String) : Option NodeKind := all.find? (·.name = name)

def EdgeKind.named? (name : String) : Option EdgeKind :=
  [member, access].find? (·.name = name)

@[simp] theorem PrincipalKind.named?_name (kind : PrincipalKind) :
    named? kind.name = some kind := by
  cases kind <;> rfl

@[simp] theorem NodeKind.named?_name (kind : NodeKind) : named? kind.name = some kind := by
  cases kind <;> rfl

@[simp] theorem EdgeKind.named?_name (kind : EdgeKind) : named? kind.name = some kind := by
  cases kind <;> rfl

/-- The set with these members, if they are in order. -/
def SortedSet.ofList? {α : Type} [Ord α] (l : List α) : Option (SortedSet α) :=
  if h : l.Pairwise fun a b => compare a b = .lt then
    some ⟨l.map (·, ()), List.pairwise_map.mpr h⟩
  else none

@[simp] theorem SortedSet.ofList?_toList {α : Type} [Ord α] (s : SortedSet α) :
    ofList? s.toList = some s := by
  have hentries : s.toList.map (fun a => (a, ())) = s.entries := by
    simp [toList, SortedMap.keys, Function.comp_def]
  rw [ofList?, dif_pos (pairwise_toList s)]
  cases s
  simpa using hentries

-- ---------------------------------------------------------------------------
-- Principals and what they reach
-- ---------------------------------------------------------------------------

def PrincipalId.ofJson? (j : Json) : Option PrincipalId := do
  let kind ← PrincipalKind.named? (← j.get? "kind" string?)
  some ⟨kind, ← j.get? "name" string?⟩

def AccessRecord.ofJson? (j : Json) : Option AccessRecord := do
  let direct ← j.get? "direct" bool?
  let via ← SortedSet.ofList? (← j.get? "via_groups" strings?)
  some ⟨direct, via⟩

def AccessEntry.ofJson? (j : Json) : Option AccessEntry := do
  some ⟨← j.get? "secret" string?, ← AccessRecord.ofJson? j⟩

theorem AccessEntry.ofJson?_toJson (e : AccessEntry) : ofJson? e.toJson = some e := by
  simp [ofJson?, AccessRecord.ofJson?, toJson, AccessRecord.members]

theorem AccessEntry.canonical_toJson (e : AccessEntry) : e.toJson.Canonical := by
  simp [toJson, AccessRecord.members]

def PrincipalView.ofJson? (j : Json) : Option PrincipalView := do
  some ⟨← PrincipalId.ofJson? j, ← j.get? "public_keys" strings?, ← j.get? "groups" strings?,
    ← j.get? "secrets" (list? AccessEntry.ofJson?)⟩

theorem PrincipalView.ofJson?_toJson (p : PrincipalView) : ofJson? p.toJson = some p := by
  simp [ofJson?, toJson, PrincipalId.members, PrincipalId.ofJson?,
    list?_map AccessEntry.ofJson?_toJson]

theorem PrincipalView.canonical_toJson (p : PrincipalView) : p.toJson.Canonical := by
  simp [toJson, PrincipalId.members, canonical_map AccessEntry.canonical_toJson]

def KeyEntry.ofJson? (j : Json) : Option KeyEntry := do
  some ⟨← PrincipalId.ofJson? j, ← j.get? "keys" strings?⟩

theorem KeyEntry.ofJson?_toJson (e : KeyEntry) : ofJson? e.toJson = some e := by
  simp [ofJson?, toJson, PrincipalId.members, PrincipalId.ofJson?]

theorem KeyEntry.canonical_toJson (e : KeyEntry) : e.toJson.Canonical := by
  simp [toJson, PrincipalId.members]

-- ---------------------------------------------------------------------------
-- Groups and grants
-- ---------------------------------------------------------------------------

def GroupView.ofJson? (j : Json) : Option GroupView := do
  some ⟨← j.get? "name" string?, ← j.get? "users" strings?, ← j.get? "machines" strings?,
    ← j.get? "secrets" strings?⟩

theorem GroupView.ofJson?_toJson (g : GroupView) : ofJson? g.toJson = some g := by
  simp [ofJson?, toJson]

theorem GroupView.canonical_toJson (g : GroupView) : g.toJson.Canonical := by
  simp [toJson]

def GrantRow.ofJson? (j : Json) : Option GrantRow := do
  some ⟨← j.get? "secret" string?, ← j.get? "users" strings?, ← j.get? "machines" strings?,
    ← j.get? "groups" strings?⟩

theorem GrantRow.ofJson?_toJson (r : GrantRow) : ofJson? r.toJson = some r := by
  simp [ofJson?, toJson]

theorem GrantRow.canonical_toJson (r : GrantRow) : r.toJson.Canonical := by
  simp [toJson]

-- ---------------------------------------------------------------------------
-- Nodes and edges
-- ---------------------------------------------------------------------------

def Node.ofJson? (j : Json) : Option Node := do
  let kind ← NodeKind.named? (← j.get? "kind" string?)
  some ⟨← j.get? "id" string?, kind, ← j.get? "name" string?,
    ← j.get? "key_preview" (nullable? string?)⟩

theorem Node.ofJson?_toJson (n : Node) : ofJson? n.toJson = some n := by
  simp [ofJson?, toJson]

theorem Node.canonical_toJson (n : Node) : n.toJson.Canonical := by
  simp [toJson]

def Edge.ofJson? (j : Json) : Option Edge := do
  let kind ← EdgeKind.named? (← j.get? "kind" string?)
  let source ← NodeKind.named? (← j.get? "source" string?)
  some ⟨← j.get? "from" string?, ← j.get? "to" string?, kind, source⟩

theorem Edge.ofJson?_toJson (e : Edge) : ofJson? e.toJson = some e := by
  simp [ofJson?, toJson]

theorem Edge.canonical_toJson (e : Edge) : e.toJson.Canonical := by
  simp [toJson]

-- ---------------------------------------------------------------------------
-- Whole views
-- ---------------------------------------------------------------------------

def HierarchyView.ofJson? (j : Json) : Option HierarchyView := do
  some ⟨← j.get? "users" (list? PrincipalView.ofJson?),
    ← j.get? "machines" (list? PrincipalView.ofJson?),
    ← j.get? "groups" (list? GroupView.ofJson?),
    ← j.get? "secrets" (list? GrantRow.ofJson?)⟩

theorem HierarchyView.ofJson?_toJson (v : HierarchyView) : ofJson? v.toJson = some v := by
  simp [ofJson?, toJson, list?_map PrincipalView.ofJson?_toJson, list?_map GroupView.ofJson?_toJson,
    list?_map GrantRow.ofJson?_toJson]

theorem HierarchyView.canonical_toJson (v : HierarchyView) : v.toJson.Canonical := by
  simp [toJson, canonical_map PrincipalView.canonical_toJson,
    canonical_map GroupView.canonical_toJson, canonical_map GrantRow.canonical_toJson]

def MatrixView.ofJson? (j : Json) : Option MatrixView := do
  some ⟨← j.get? "rows" (list? GrantRow.ofJson?)⟩

theorem MatrixView.ofJson?_toJson (m : MatrixView) : ofJson? m.toJson = some m := by
  simp [ofJson?, toJson, list?_map GrantRow.ofJson?_toJson]

theorem MatrixView.canonical_toJson (m : MatrixView) : m.toJson.Canonical := by
  simp [toJson, canonical_map GrantRow.canonical_toJson]

def KeyListing.ofJson? (j : Json) : Option KeyListing := do
  some ⟨← j.get? "entries" (list? KeyEntry.ofJson?)⟩

theorem KeyListing.ofJson?_toJson (l : KeyListing) : ofJson? l.toJson = some l := by
  simp [ofJson?, toJson, list?_map KeyEntry.ofJson?_toJson]

theorem KeyListing.canonical_toJson (l : KeyListing) : l.toJson.Canonical := by
  simp [toJson, canonical_map KeyEntry.canonical_toJson]

def Graph.ofJson? (j : Json) : Option Graph := do
  some ⟨← j.get? "nodes" (list? Node.ofJson?), ← j.get? "edges" (list? Edge.ofJson?)⟩

theorem Graph.ofJson?_toJson (g : Graph) : ofJson? g.toJson = some g := by
  simp [ofJson?, toJson, list?_map Node.ofJson?_toJson, list?_map Edge.ofJson?_toJson]

theorem Graph.canonical_toJson (g : Graph) : g.toJson.Canonical := by
  simp [toJson, canonical_map Node.canonical_toJson, canonical_map Edge.canonical_toJson]

def Summary.ofJson? (j : Json) : Option Summary := do
  some ⟨← j.get? "users" nat?, ← j.get? "machines" nat?, ← j.get? "groups" nat?,
    ← j.get? "secrets" nat?, ← j.get? "user_grants" nat?, ← j.get? "machine_grants" nat?,
    ← j.get? "group_grants" nat?, ← j.get? "access_records" nat?⟩

theorem Summary.ofJson?_toJson (s : Summary) : ofJson? s.toJson = some s := by
  simp [ofJson?, toJson]

theorem Summary.canonical_toJson (s : Summary) : s.toJson.Canonical := by
  simp [toJson]

end SecretAccess
