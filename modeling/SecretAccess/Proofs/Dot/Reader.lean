import SecretAccess.Proofs.Dot.Drawing
import SecretAccess.Proofs.Reading

/-!
# Reading a drawing

A strict reader of the written graphs. A quoted string ends at the first quote
that is not part of an escape; `\\` stands for a backslash, `\"` for a quote
and `\n` for the line break between the two lines of a label. All else has one
spelling: the opening, the clusters of the kinds in their order, the edges and
the closing brace. What is read from a written graph is the drawing of this
graph (`read_render`).
-/

namespace SecretAccess.Dot

open Reading

/-- What a string is made of. -/
inductive Piece where
  | char (c : Char)
  | lineBreak
deriving DecidableEq, Repr

namespace Reader

/-- What an escape stands for, by the character behind the backslash. -/
def escaped? : Char → Option Piece
  | '\\' => some (.char '\\')
  | '"' => some (.char '"')
  | 'n' => some .lineBreak
  | _ => none

/-- A string from behind its opening quote on. -/
def quoted : List Char → Option (Read (List Piece))
  | [] => none
  | '"' :: cs => some ([], cs)
  | '\\' :: c :: cs => do
    let piece ← escaped? c
    let (pieces, cs) ← quoted cs
    some (piece :: pieces, cs)
  | c :: cs => do
    let (pieces, cs) ← quoted cs
    some (.char c :: pieces, cs)

def string (cs : List Char) : Option (Read (List Piece)) := do
  let cs ← expect ['"'] cs
  quoted cs

/-- The characters up to the first line break, and what stands behind it. -/
def firstLine : List Piece → List Char × Option (List Piece)
  | [] => ([], none)
  | .lineBreak :: pieces => ([], some pieces)
  | .char c :: pieces =>
    let (line, more) := firstLine pieces
    (c :: line, more)

def name? (pieces : List Piece) : Option String :=
  match firstLine pieces with
  | (line, none) => some (String.ofList line)
  | (_, some _) => none

/-- The second line of a label is a key preview in brackets. -/
def preview? (pieces : List Piece) : Option String :=
  match firstLine pieces with
  | ('[' :: line, none) =>
    if line.getLast? = some ']' then some (String.ofList line.dropLast) else none
  | _ => none

def label? (pieces : List Piece) : Option (String × Option String) :=
  match firstLine pieces with
  | (line, none) => some (String.ofList line, none)
  | (line, some pieces) => (preview? pieces).map fun preview => (String.ofList line, some preview)

def node (kind : NodeKind) (cs : List Char) : Option (Read Node) := do
  let cs ← expect "    ".toList cs
  let (pieces, cs) ← string cs
  let id ← name? pieces
  let cs ← expect " [label=".toList cs
  let (pieces, cs) ← string cs
  let (name, preview) ← label? pieces
  let cs ← expect (", " ++ nodeStyle kind ++ "];\n").toList cs
  some (⟨id, kind, name, preview⟩, cs)

/-- The cluster of a kind, or nothing if the text does not go on with one. -/
def cluster (kind : NodeKind) (cs : List Char) : Option (Read (Option Cluster)) :=
  match expect (clusterOpening kind).toList cs with
  | none => some (none, cs)
  | some cs => do
    let (nodes, cs) := many (node kind) cs
    let cs ← expect "  \x7d\n".toList cs
    if nodes.isEmpty then none else some (some ⟨kind, nodes⟩, cs)

def clusters : List NodeKind → List Char → Option (Read (List Cluster))
  | [], cs => some ([], cs)
  | kind :: kinds, cs => do
    let (found, cs) ← cluster kind cs
    let (others, cs) ← clusters kinds cs
    some (found.toList ++ others, cs)

def colour (cs : List Char) : Option (Read EdgeColour) :=
  EdgeColour.all.findSome? fun c =>
    (expect (c.attributes ++ "];\n").toList cs).map fun cs => (c, cs)

def edge (cs : List Char) : Option (Read DrawnEdge) := do
  let cs ← expect "  ".toList cs
  let (pieces, cs) ← string cs
  let start ← name? pieces
  let cs ← expect " -> ".toList cs
  let (pieces, cs) ← string cs
  let target ← name? pieces
  let cs ← expect " [".toList cs
  let (colour, cs) ← colour cs
  some (⟨start, target, colour⟩, cs)

/-- The edges stand behind an empty line, if there are any. -/
def edges (cs : List Char) : Option (Read (List DrawnEdge)) :=
  match expect ['\n'] cs with
  | none => some ([], cs)
  | some cs =>
    let (edges, cs) := many edge cs
    if edges.isEmpty then none else some (edges, cs)

end Reader

/-- The drawing that a text describes, if it is a written graph from its first
character to its last. -/
def read (text : String) : Option Drawing := do
  let cs ← expect opening.toList text.toList
  let (clusters, cs) ← Reader.clusters NodeKind.all cs
  let (edges, cs) ← Reader.edges cs
  let cs ← expect "\x7d\n".toList cs
  if cs.isEmpty then some ⟨clusters, edges⟩ else none

namespace Reader

-- ---------------------------------------------------------------------------
-- Strings
-- ---------------------------------------------------------------------------

theorem quoted_escapeChar (c : Char) (cs : List Char) :
    quoted (escapeChar c ++ cs) = (quoted cs).map fun r => (.char c :: r.1, r.2) := by
  by_cases hb : c = '\\'
  · subst hb
    cases h : quoted cs <;> simp [escapeChar, quoted, escaped?, h]
  · by_cases hq : c = '"'
    · subst hq
      cases h : quoted cs <;> simp [escapeChar, quoted, escaped?, h]
    · rw [escapeChar_eq_self hb hq, List.singleton_append, quoted]
      · cases h : quoted cs <;> simp
      · exact fun h => hq h
      · exact fun _ _ h => absurd h hb

/-- Whatever stands in a name, reading goes on behind it as if it were not there. -/
theorem quoted_escape (s : String) (cs : List Char) :
    quoted ((escape s).toList ++ cs) =
      (quoted cs).map fun r => (s.toList.map .char ++ r.1, r.2) := by
  rw [escape, String.toList_ofList]
  induction s.toList with
  | nil => simp
  | cons c s ih =>
    rw [List.flatMap_cons, List.append_assoc, quoted_escapeChar, ih, Option.map_map]
    rfl

theorem string_quote (s : String) (cs : List Char) :
    string ((quote s).toList ++ cs) = some (s.toList.map .char, cs) := by
  have ht : (quote s).toList ++ cs = ['"'] ++ ((escape s).toList ++ '"' :: cs) := by
    simp [quote]
  rw [ht, string, expect_append, Option.bind_eq_bind, Option.bind_some, quoted_escape]
  simp [quoted]

theorem firstLine_chars (s : List Char) (pieces : List Piece) :
    firstLine (s.map .char ++ pieces) = (s ++ (firstLine pieces).1, (firstLine pieces).2) := by
  induction s with
  | nil => rfl
  | cons c s ih => simp [firstLine, ih]

theorem name?_chars (s : String) : name? (s.toList.map .char) = some s := by
  have h := firstLine_chars s.toList []
  rw [List.append_nil] at h
  simp [name?, h, firstLine]

/-- The pieces of a label. -/
def labelPieces (name : String) : Option String → List Piece
  | none => name.toList.map .char
  | some preview =>
    name.toList.map .char ++ .lineBreak :: ('[' :: preview.toList ++ [']']).map .char

theorem string_label (n : Node) (cs : List Char) :
    string ('"' :: ((label n).toList ++ '"' :: cs)) =
      some (labelPieces n.name n.keyPreview, cs) := by
  have hs : string ('"' :: ((label n).toList ++ '"' :: cs)) =
      quoted ((label n).toList ++ '"' :: cs) := by simp [string, expect]
  rw [hs, label]
  cases n.keyPreview with
  | none =>
    rw [quoted_escape]
    simp [quoted, labelPieces]
  | some preview =>
    simp [quoted_escape, quoted, escaped?, labelPieces]

theorem label?_labelPieces (name : String) (preview : Option String) :
    label? (labelPieces name preview) = some (name, preview) := by
  cases preview with
  | none =>
    have h := firstLine_chars name.toList []
    rw [List.append_nil] at h
    simp [label?, labelPieces, h, firstLine]
  | some preview =>
    have h := firstLine_chars ('[' :: preview.toList ++ [']']) []
    rw [List.append_nil] at h
    simp only [label?, labelPieces, firstLine_chars, firstLine, preview?, h]
    simp

-- ---------------------------------------------------------------------------
-- Statements
-- ---------------------------------------------------------------------------

theorem node_nodeLine (n : Node) (cs : List Char) :
    node n.kind ((nodeLine n).toList ++ cs) = some (n, cs) := by
  simp only [toList_nodeLine, List.append_assoc, List.cons_append, node, expect_append,
    string_quote, name?_chars, string_label, label?_labelPieces, Option.bind_eq_bind,
    Option.bind_some]

/-- No attribute list begins as another one does. -/
theorem colour_attributes (c : EdgeColour) (cs : List Char) :
    colour ((c.attributes ++ "];\n").toList ++ cs) = some (c, cs) := by
  cases c <;> simp [colour, EdgeColour.all, EdgeColour.attributes, expect]

theorem edge_text (e : DrawnEdge) (cs : List Char) : edge (e.text ++ cs) = some (e, cs) := by
  simp only [DrawnEdge.text, List.append_assoc, edge, expect_append, string_quote, name?_chars,
    colour_attributes, Option.bind_eq_bind, Option.bind_some]

-- ---------------------------------------------------------------------------
-- Clusters
-- ---------------------------------------------------------------------------

theorem many_nodeLine {c : Cluster} (hc : c.WellFormed) (cs : List Char) :
    many (node c.kind) (c.nodes.flatMap (fun n => (nodeLine n).toList) ++
      ("  \x7d\n".toList ++ cs)) = (c.nodes, "  \x7d\n".toList ++ cs) := by
  have hread : ∀ n ∈ c.nodes, ∀ rest,
      node c.kind ((nodeLine n).toList ++ rest) = some (n, rest) :=
    fun n hn rest => hc.kinds n hn ▸ node_nodeLine n rest
  exact many_flatMap hread (fun n _ => by simp [nodeLine]) (by simp [node, expect])

theorem cluster_text {c : Cluster} (hc : c.WellFormed) (cs : List Char) :
    cluster c.kind (c.text ++ cs) = some (some c, cs) := by
  have he : c.nodes.isEmpty = false := List.isEmpty_eq_false_iff.mpr hc.nonempty
  simp only [Cluster.text, List.append_assoc, cluster, expect_append, many_nodeLine hc,
    Option.bind_eq_bind, Option.bind_some, he, Bool.false_eq_true, if_false]

theorem cluster_of_expect_eq_none {kind : NodeKind} {cs : List Char}
    (h : expect (clusterOpening kind).toList cs = none) : cluster kind cs = some (none, cs) := by
  rw [cluster, h]

/-- No cluster's name begins as another one's does. -/
theorem expect_clusterName_of_ne {k l : NodeKind} (h : k ≠ l) (es cs : List Char) :
    expect ((clusterName k).toList ++ es) ((clusterName l).toList ++ cs) = none := by
  cases k <;> cases l <;> simp_all [clusterName, expect]

theorem expect_clusterOpening_of_ne {k l : NodeKind} (h : k ≠ l) (cs : List Char) :
    expect (clusterOpening k).toList ((clusterOpening l).toList ++ cs) = none := by
  unfold clusterOpening
  simp only [String.toList_append, List.append_assoc, expect_append_append]
  exact expect_clusterName_of_ne h _ _

/-- Clusters of other kinds, and what comes behind them, do not begin as a
cluster of this kind. -/
theorem expect_clusterOpening_of_not_mem {kind : NodeKind} {found : List Cluster}
    (hk : kind ∉ found.map (·.kind)) {tail : List Char}
    (htail : expect (clusterOpening kind).toList tail = none) :
    expect (clusterOpening kind).toList (found.flatMap Cluster.text ++ tail) = none := by
  cases found with
  | nil => exact htail
  | cons c found =>
    have hne : kind ≠ c.kind := fun h => hk (h ▸ List.mem_cons_self)
    rw [List.flatMap_cons, List.append_assoc, Cluster.text, List.append_assoc]
    exact expect_clusterOpening_of_ne hne _

theorem clusters_text {kinds : List NodeKind} (hkinds : kinds.Nodup) {found : List Cluster}
    (hs : (found.map (·.kind)).Sublist kinds) (hw : ∀ c ∈ found, c.WellFormed) {tail : List Char}
    (htail : ∀ kind, expect (clusterOpening kind).toList tail = none) :
    clusters kinds (found.flatMap Cluster.text ++ tail) = some (found, tail) := by
  induction kinds generalizing found with
  | nil =>
    obtain rfl : found = [] := by simpa using hs
    rfl
  | cons kind kinds ih =>
    obtain ⟨hk, hnodup⟩ := List.nodup_cons.mp hkinds
    rw [clusters]
    rcases List.sublist_cons_iff.mp hs with hs | ⟨ks, hks, hs⟩
    · have hnone := expect_clusterOpening_of_not_mem (fun h => hk (hs.mem h)) (htail kind)
      simp only [cluster_of_expect_eq_none hnone, Option.bind_eq_bind, Option.bind_some,
        ih hnodup hs hw, Option.toList_none, List.nil_append]
    · obtain ⟨c, found, rfl, rfl, rfl⟩ := List.map_eq_cons_iff.mp hks
      obtain ⟨hc, hw⟩ := List.forall_mem_cons.mp hw
      simp only [List.flatMap_cons, List.append_assoc, cluster_text hc, Option.bind_eq_bind,
        Option.bind_some, ih hnodup hs hw, Option.toList_some, List.singleton_append]

-- ---------------------------------------------------------------------------
-- Edges
-- ---------------------------------------------------------------------------

theorem edges_edgesText (es : List DrawnEdge) :
    edges (edgesText es ++ "\x7d\n".toList) = some (es, "\x7d\n".toList) := by
  cases es with
  | nil => simp [edgesText, edges, expect]
  | cons e es =>
    have h := many_flatMap (fun x (_ : x ∈ e :: es) => edge_text x)
      (fun x _ => by simp [DrawnEdge.text])
      (show edge "\x7d\n".toList = none by simp [edge, expect])
    have hn : expect ['\n'] (edgesText (e :: es) ++ "\x7d\n".toList) =
        some ((e :: es).flatMap DrawnEdge.text ++ "\x7d\n".toList) := by
      simp [edgesText, expect]
    simp only [edges, hn, h, List.isEmpty_cons, Bool.false_eq_true, if_false]

theorem expect_clusterOpening_edgesText (es : List DrawnEdge) (kind : NodeKind) :
    expect (clusterOpening kind).toList (edgesText es ++ "\x7d\n".toList) = none := by
  unfold clusterOpening
  cases es with
  | nil => simp [edgesText, expect]
  | cons e es => simp [edgesText, expect, DrawnEdge.text, quote]

end Reader

theorem read_text {d : Drawing} (h : d.WellFormed) : read (String.ofList d.text) = some d := by
  have hc := Reader.clusters_text (by decide) h.kinds h.clusters
    (Reader.expect_clusterOpening_edgesText d.edges)
  have hend : expect "\x7d\n".toList "\x7d\n".toList = some [] := by
    simpa using expect_append "\x7d\n".toList []
  simp only [read, String.toList_ofList, Drawing.text, expect_append, Option.bind_eq_bind,
    Option.bind_some, hc, Reader.edges_edgesText, hend, List.isEmpty_nil, if_true]

/-- A written graph is read as its drawing, whatever its names are. -/
theorem read_render (g : Graph) : read (render g) = some (.ofGraph g) := by
  have h := read_text (wellFormed_ofGraph g)
  rwa [← toList_render, String.ofList_toList] at h

end SecretAccess.Dot
