import SecretAccess.Proofs.Dot.Drawing

/-!
# The outline of a drawing

Braces, brackets and semicolons have a meaning outside of quoted strings only.
What a written graph has outside of its strings is the same whatever its ids,
names and key previews are (`outline_render`), so that no name can open or
close a statement.
-/

namespace SecretAccess

def Node.nameless (n : Node) : Node := ⟨"", n.kind, "", none⟩

def Edge.nameless (e : Edge) : Edge := ⟨"", "", e.kind, e.source⟩

/-- As many nodes and edges of the same kinds, all names left empty. -/
def Graph.nameless (g : Graph) : Graph := ⟨g.nodes.map Node.nameless, g.edges.map Edge.nameless⟩

theorem Graph.nodesOf_nameless (g : Graph) (kind : NodeKind) :
    g.nameless.nodesOf kind = (g.nodesOf kind).map Node.nameless := by
  simp only [nodesOf, nameless, List.filter_map]
  rfl

namespace Dot

def Cluster.nameless (c : Cluster) : Cluster := ⟨c.kind, c.nodes.map .nameless⟩

def DrawnEdge.nameless (e : DrawnEdge) : DrawnEdge := ⟨"", "", e.colour⟩

def Drawing.nameless (d : Drawing) : Drawing :=
  ⟨d.clusters.map .nameless, d.edges.map .nameless⟩

theorem ofGraph?_nameless (g : Graph) (kind : NodeKind) :
    Cluster.ofGraph? g.nameless kind = (Cluster.ofGraph? g kind).map .nameless := by
  rw [Cluster.ofGraph?, Cluster.ofGraph?, Graph.nodesOf_nameless]
  cases g.nodesOf kind <;> rfl

theorem ofGraph_nameless (g : Graph) :
    Drawing.ofGraph g.nameless = (Drawing.ofGraph g).nameless := by
  have hc : NodeKind.all.filterMap (Cluster.ofGraph? g.nameless) =
      (NodeKind.all.filterMap (Cluster.ofGraph? g)).map .nameless := by
    rw [funext (ofGraph?_nameless g), List.map_filterMap]
  have he : g.nameless.edges.map .ofEdge = (g.edges.map .ofEdge).map DrawnEdge.nameless := by
    rw [Graph.nameless, List.map_map, List.map_map]
    rfl
  rw [Drawing.ofGraph, hc, he, Drawing.nameless, Drawing.ofGraph]

/-- Where in a text one is: outside of strings, in one, or behind a backslash
in one. -/
inductive Place where
  | outside
  | inside
  | escaped
deriving DecidableEq, Repr

namespace Place

def step : Place → Char → Place
  | .outside, c => if c = '"' then .inside else .outside
  | .inside, c => if c = '"' then .outside else if c = '\\' then .escaped else .inside
  | .escaped, _ => .inside

def after (p : Place) (cs : List Char) : Place := cs.foldl step p

/-- Of a string only its quotes are shown. -/
def shows : Place → Char → Bool
  | .outside, _ => true
  | .inside, c => c = '"'
  | .escaped, _ => false

def shown (p : Place) : List Char → List Char
  | [] => []
  | c :: cs => if p.shows c then c :: shown (p.step c) cs else shown (p.step c) cs

theorem after_append (p : Place) (cs ds : List Char) :
    p.after (cs ++ ds) = (p.after cs).after ds :=
  List.foldl_append

theorem shown_append (p : Place) (cs ds : List Char) :
    p.shown (cs ++ ds) = p.shown cs ++ (p.after cs).shown ds := by
  induction cs generalizing p with
  | nil => rfl
  | cons c cs ih =>
    rw [List.cons_append, shown, shown, ih, after, after, List.foldl_cons]
    split <;> rfl

end Place

/-- The text outside of strings, of which only the quotes remain. -/
def outline (text : String) : String := String.ofList (Place.outside.shown text.toList)

-- ---------------------------------------------------------------------------
-- Strings
-- ---------------------------------------------------------------------------

/-- In a string the text shows nothing and does not end it. -/
structure StaysInside (text : List Char) : Prop where
  after : Place.inside.after text = .inside
  shown : Place.inside.shown text = []

theorem StaysInside.append {a b : List Char} (ha : StaysInside a) (hb : StaysInside b) :
    StaysInside (a ++ b) where
  after := by rw [Place.after_append, ha.after, hb.after]
  shown := by rw [Place.shown_append, ha.after, ha.shown, hb.shown, List.append_nil]

theorem staysInside_escapeChar (c : Char) : StaysInside (escapeChar c) := by
  by_cases hb : c = '\\'
  · subst hb
    exact ⟨rfl, rfl⟩
  · by_cases hq : c = '"'
    · subst hq
      exact ⟨rfl, rfl⟩
    · have he := escapeChar_eq_self hb hq
      constructor
      · simp [he, Place.after, Place.step, hb, hq]
      · simp [he, Place.shown, Place.shows, hq]

theorem staysInside_escape (s : String) : StaysInside (escape s).toList := by
  rw [escape, String.toList_ofList]
  induction s.toList with
  | nil => exact ⟨rfl, rfl⟩
  | cons c s ih => exact (staysInside_escapeChar c).append ih

theorem staysInside_label (n : Node) : StaysInside (label n).toList := by
  rw [label]
  cases n.keyPreview with
  | none => exact staysInside_escape n.name
  | some preview =>
    have ht : (escape n.name ++ "\\n[" ++ escape preview ++ "]").toList = (escape n.name).toList ++
        (['\\', 'n', '['] ++ ((escape preview).toList ++ [']'])) := by simp
    rw [ht]
    exact (staysInside_escape _).append
      (.append ⟨rfl, rfl⟩ ((staysInside_escape _).append ⟨rfl, rfl⟩))

-- ---------------------------------------------------------------------------
-- Texts with the same outline
-- ---------------------------------------------------------------------------

/-- Both texts begin and end outside of strings, and show the same there. -/
structure AlikeOutside (text text' : List Char) : Prop where
  closed : Place.outside.after text = .outside
  closed' : Place.outside.after text' = .outside
  shown : Place.outside.shown text = Place.outside.shown text'

namespace AlikeOutside

theorem refl {text : List Char} (h : Place.outside.after text = .outside) :
    AlikeOutside text text := ⟨h, h, rfl⟩

theorem append {a a' b b' : List Char} (ha : AlikeOutside a a') (hb : AlikeOutside b b') :
    AlikeOutside (a ++ b) (a' ++ b') where
  closed := by rw [Place.after_append, ha.closed, hb.closed]
  closed' := by rw [Place.after_append, ha.closed', hb.closed']
  shown := by
    rw [Place.shown_append, Place.shown_append, ha.closed, ha.closed', ha.shown, hb.shown]

theorem flatMap {α : Type} {f f' : α → List Char} (h : ∀ a, AlikeOutside (f a) (f' a))
    (as : List α) : AlikeOutside (as.flatMap f) (as.flatMap f') := by
  induction as with
  | nil => exact .refl rfl
  | cons a as ih =>
    rw [List.flatMap_cons, List.flatMap_cons]
    exact (h a).append ih

theorem outside_quoted {s : List Char} (h : StaysInside s) :
    Place.outside.after ('"' :: (s ++ ['"'])) = .outside ∧
      Place.outside.shown ('"' :: (s ++ ['"'])) = ['"', '"'] := by
  have ha : Place.outside.after ('"' :: (s ++ ['"'])) = Place.inside.after (s ++ ['"']) := rfl
  have hs : Place.outside.shown ('"' :: (s ++ ['"'])) =
    '"' :: Place.inside.shown (s ++ ['"']) := rfl
  rw [ha, hs, Place.after_append, Place.shown_append, h.after, h.shown]
  exact ⟨rfl, rfl⟩

/-- Strings are alike whatever they hold. -/
theorem quoted {s s' : List Char} (h : StaysInside s) (h' : StaysInside s') :
    AlikeOutside ('"' :: (s ++ ['"'])) ('"' :: (s' ++ ['"'])) where
  closed := (outside_quoted h).1
  closed' := (outside_quoted h').1
  shown := (outside_quoted h).2.trans (outside_quoted h').2.symm

theorem quoted_append {s s' t t' : List Char} (h : StaysInside s) (h' : StaysInside s')
    (ht : AlikeOutside t t') :
    AlikeOutside ('"' :: (s ++ '"' :: t)) ('"' :: (s' ++ '"' :: t')) := by
  simpa using (quoted h h').append ht

theorem quote (s s' : String) : AlikeOutside (Dot.quote s).toList (Dot.quote s').toList := by
  have ht : ∀ t : String, (Dot.quote t).toList = '"' :: ((escape t).toList ++ ['"']) := by
    simp [Dot.quote]
  rw [ht, ht]
  exact quoted (staysInside_escape s) (staysInside_escape s')

theorem outline_eq {text text' : String} (h : AlikeOutside text.toList text'.toList) :
    outline text = outline text' := by
  rw [outline, outline, h.shown]

end AlikeOutside

-- ---------------------------------------------------------------------------
-- Written graphs
-- ---------------------------------------------------------------------------

theorem alikeOutside_nodeLine (n : Node) :
    AlikeOutside (nodeLine n).toList (nodeLine n.nameless).toList := by
  rw [toList_nodeLine, toList_nodeLine]
  refine .append (.refl ?_) (.append (.quote _ _) (.append (.refl ?_) (.quoted_append
    (staysInside_label n) (staysInside_label _) (.refl ?_))))
  · simp [Place.after, Place.step]
  · simp [Place.after, Place.step]
  · cases n.kind <;> simp [nodeStyle, Place.after, Place.step]

theorem alikeOutside_edge (e : DrawnEdge) : AlikeOutside e.text e.nameless.text := by
  rw [DrawnEdge.text, DrawnEdge.text]
  refine .append (.refl ?_) (.append (.quote _ _) (.append (.refl ?_) (.append (.quote _ _)
    (.append (.refl ?_) (.refl ?_)))))
  · simp [Place.after, Place.step]
  · simp [Place.after, Place.step]
  · simp [Place.after, Place.step]
  · cases e.colour <;> simp [EdgeColour.attributes, Place.after, Place.step]

theorem after_clusterOpening (kind : NodeKind) :
    Place.outside.after (clusterOpening kind).toList = .outside := by
  have hopening : Place.outside.after "\n  subgraph cluster_".toList = .outside := by
    simp [Place.after, Place.step]
  have hname : Place.outside.after (clusterName kind).toList = .outside := by
    cases kind <;> simp [clusterName, Place.after, Place.step]
  have hlabel : Place.outside.after " \x7b\n    label=\"".toList = .inside := by
    simp [Place.after, Place.step]
  have hshown : Place.inside.after (clusterLabel kind).toList = .inside := by
    cases kind <;> simp [clusterLabel, Place.after, Place.step]
  have hstyle : Place.inside.after "\";\n    style=filled;\n    color=lightgrey;\n".toList =
      .outside := by
    simp [Place.after, Place.step]
  unfold clusterOpening
  simp only [String.toList_append, Place.after_append, hopening, hname, hlabel, hshown, hstyle]

theorem alikeOutside_cluster (c : Cluster) : AlikeOutside c.text c.nameless.text := by
  have hclosing : Place.outside.after "  \x7d\n".toList = .outside := by
    simp [Place.after, Place.step]
  simp only [Cluster.text, Cluster.nameless, List.flatMap_map]
  exact (AlikeOutside.refl (after_clusterOpening c.kind)).append
    ((AlikeOutside.flatMap alikeOutside_nodeLine c.nodes).append (.refl hclosing))

theorem alikeOutside_edgesText (es : List DrawnEdge) :
    AlikeOutside (edgesText es) (edgesText (es.map .nameless)) := by
  cases es with
  | nil => exact .refl rfl
  | cons e es =>
    have hbreak : AlikeOutside ['\n'] ['\n'] := .refl rfl
    have hcons : edgesText ((e :: es).map .nameless) =
        ['\n'] ++ (e :: es).flatMap fun e => e.nameless.text := by
      simp only [List.map_cons, edgesText, List.flatMap_cons, List.flatMap_map]
      rfl
    rw [hcons]
    exact hbreak.append (.flatMap alikeOutside_edge (e :: es))

theorem alikeOutside_text (d : Drawing) : AlikeOutside d.text d.nameless.text := by
  have hopening : Place.outside.after opening.toList = .outside := by
    simp [opening, Place.after, Place.step]
  have hclosing : Place.outside.after "\x7d\n".toList = .outside := by
    simp [Place.after, Place.step]
  simp only [Drawing.text, Drawing.nameless, List.flatMap_map]
  exact (AlikeOutside.refl hopening).append
    ((AlikeOutside.flatMap alikeOutside_cluster d.clusters).append
      ((alikeOutside_edgesText d.edges).append (.refl hclosing)))

/-- Outside of its strings a written graph does not depend on any name. -/
theorem outline_render (g : Graph) : outline (render g) = outline (render g.nameless) := by
  refine AlikeOutside.outline_eq ?_
  rw [toList_render, toList_render, ofGraph_nameless]
  exact alikeOutside_text _

end Dot

end SecretAccess
