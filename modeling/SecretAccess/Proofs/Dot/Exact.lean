import SecretAccess.Proofs.Dot.Reader

/-!
# Only written graphs are read

The reader passes over nothing: whatever it read something from is the text of
this thing and what is left. So a text is read exactly when it is a written
graph, as the drawing of this graph (`read_eq_some_iff`).
-/

namespace SecretAccess.Dot

open Reading

/-- How a piece is spelt in a string. -/
def Piece.text : Piece → List Char
  | .char c => escapeChar c
  | .lineBreak => ['\\', 'n']

namespace Reader

-- ---------------------------------------------------------------------------
-- Strings
-- ---------------------------------------------------------------------------

theorem text_of_escaped? {c : Char} {piece : Piece} (h : escaped? c = some piece) :
    piece.text = ['\\', c] := by
  unfold escaped? at h
  split at h
  case h_4 => cases h
  all_goals
    cases h
    rfl

/-- What a string was read from is the spelling of its pieces. -/
theorem eq_of_quoted {cs rest : List Char} {pieces : List Piece}
    (h : quoted cs = some (pieces, rest)) : cs = pieces.flatMap Piece.text ++ '"' :: rest := by
  fun_induction quoted cs generalizing pieces with
  | case1 => cases h
  | case2 cs =>
    cases h
    rfl
  | case3 c cs ih =>
    simp only [Option.bind_eq_bind, Option.bind_eq_some_iff, Option.some.injEq, Prod.mk.injEq,
      Prod.exists] at h
    obtain ⟨piece, hp, others, rest', hq, rfl, rfl⟩ := h
    rw [ih hq, List.flatMap_cons, text_of_escaped? hp]
    rfl
  | case4 c cs hquote hescape ih =>
    simp only [Option.bind_eq_bind, Option.bind_eq_some_iff, Option.some.injEq, Prod.mk.injEq,
      Prod.exists] at h
    obtain ⟨others, rest', hq, rfl, rfl⟩ := h
    -- a backslash at the end of the text would leave the string open
    have hb : c ≠ '\\' := by
      rintro rfl
      cases cs with
      | nil => cases hq
      | cons d ds => exact hescape d ds rfl rfl
    rw [ih hq, List.flatMap_cons, Piece.text, escapeChar_eq_self hb hquote]
    rfl

theorem eq_of_string {cs rest : List Char} {pieces : List Piece}
    (h : string cs = some (pieces, rest)) :
    cs = '"' :: (pieces.flatMap Piece.text ++ '"' :: rest) := by
  rw [string, Option.bind_eq_bind, Option.bind_eq_some_iff] at h
  obtain ⟨behind, he, hq⟩ := h
  rw [eq_append_of_expect he, eq_of_quoted hq]
  rfl

theorem firstLine_append (pieces : List Piece) :
    pieces = (firstLine pieces).1.map .char ++
      ((firstLine pieces).2.map (.lineBreak :: ·)).getD [] := by
  induction pieces with
  | nil => rfl
  | cons piece pieces ih =>
    cases piece with
    | lineBreak => rfl
    | char c => rw [firstLine, List.map_cons, List.cons_append, ← ih]

theorem eq_of_name? {pieces : List Piece} {s : String} (h : name? pieces = some s) :
    pieces = s.toList.map .char := by
  have hl := firstLine_append pieces
  unfold name? at h
  split at h
  case h_2 => cases h
  case h_1 line hf =>
    cases h
    rw [hl, hf]
    simp

theorem eq_of_preview? {pieces : List Piece} {s : String} (h : preview? pieces = some s) :
    pieces = ('[' :: s.toList ++ [']']).map .char := by
  have hl := firstLine_append pieces
  unfold preview? at h
  split at h
  case h_2 => cases h
  case h_1 line hf =>
    split at h
    case isFalse => cases h
    case isTrue hlast =>
      cases h
      obtain ⟨line, rfl⟩ := List.getLast?_eq_some_iff.mp hlast
      rw [hl, hf]
      simp

/-- Labels that are read alike are spelt alike. -/
theorem eq_of_label? {pieces : List Piece} {name : String} {preview : Option String}
    (h : label? pieces = some (name, preview)) : pieces = labelPieces name preview := by
  have hl := firstLine_append pieces
  unfold label? at h
  split at h
  case h_1 line hf =>
    cases h
    rw [hl, hf]
    simp [labelPieces]
  case h_2 line more hf =>
    obtain ⟨s, hs, heq⟩ := Option.map_eq_some_iff.mp h
    cases heq
    rw [hl, hf, eq_of_preview? hs]
    simp [labelPieces]

theorem flatMap_text_chars (s : List Char) :
    (s.map .char).flatMap Piece.text = s.flatMap escapeChar := by
  rw [List.flatMap_map]
  rfl

theorem eq_quote_append {cs rest : List Char} {pieces : List Piece} {s : String}
    (h : string cs = some (pieces, rest)) (hs : name? pieces = some s) :
    cs = (quote s).toList ++ rest := by
  rw [eq_of_string h, eq_of_name? hs, flatMap_text_chars]
  simp [quote, escape]

theorem eq_label_append {cs rest : List Char} {pieces : List Piece} {n : Node}
    (h : string cs = some (pieces, rest)) (hn : label? pieces = some (n.name, n.keyPreview)) :
    cs = '"' :: ((label n).toList ++ '"' :: rest) := by
  rw [eq_of_string h, eq_of_label? hn, label]
  cases n.keyPreview with
  | none => simp [labelPieces, flatMap_text_chars, escape]
  | some preview =>
    simp [labelPieces, flatMap_text_chars, escape, Piece.text, escapeChar]

-- ---------------------------------------------------------------------------
-- Statements
-- ---------------------------------------------------------------------------

theorem eq_of_node {kind : NodeKind} {cs rest : List Char} {n : Node}
    (h : node kind cs = some (n, rest)) : n.kind = kind ∧ cs = (nodeLine n).toList ++ rest := by
  simp only [node, Option.bind_eq_bind, Option.bind_eq_some_iff, Option.some.injEq,
    Prod.mk.injEq, Prod.exists] at h
  obtain ⟨cs₁, h₁, pieces, cs₂, h₂, id, hid, cs₃, h₃, pieces', cs₄, h₄, name, preview, hname,
    cs₅, h₅, rfl, rfl⟩ := h
  refine ⟨rfl, ?_⟩
  have hlabel : label? pieces' = some ((⟨id, kind, name, preview⟩ : Node).name,
    (⟨id, kind, name, preview⟩ : Node).keyPreview) := hname
  rw [eq_append_of_expect h₁, eq_quote_append h₂ hid, eq_append_of_expect h₃,
    eq_label_append h₄ hlabel, eq_append_of_expect h₅, toList_nodeLine]
  simp only [List.append_assoc, List.cons_append]

theorem eq_of_colour {cs rest : List Char} {c : EdgeColour} (h : colour cs = some (c, rest)) :
    cs = (c.attributes ++ "];\n").toList ++ rest := by
  obtain ⟨c', -, hc⟩ := List.exists_of_findSome?_eq_some h
  obtain ⟨cs', he, heq⟩ := Option.map_eq_some_iff.mp hc
  cases heq
  exact eq_append_of_expect he

theorem eq_of_edge {cs rest : List Char} {e : DrawnEdge} (h : edge cs = some (e, rest)) :
    cs = e.text ++ rest := by
  simp only [edge, Option.bind_eq_bind, Option.bind_eq_some_iff, Option.some.injEq,
    Prod.mk.injEq, Prod.exists] at h
  obtain ⟨cs₁, h₁, pieces, cs₂, h₂, start, hstart, cs₃, h₃, pieces', cs₄, h₄, target, htarget,
    cs₅, h₅, c, cs₆, h₆, rfl, rfl⟩ := h
  rw [eq_append_of_expect h₁, eq_quote_append h₂ hstart, eq_append_of_expect h₃,
    eq_quote_append h₄ htarget, eq_append_of_expect h₅, eq_of_colour h₆, DrawnEdge.text]
  simp only [List.append_assoc]

theorem eq_of_cluster {kind : NodeKind} {cs rest : List Char} {found : Option Cluster}
    (h : cluster kind cs = some (found, rest)) :
    (∀ c ∈ found, c.kind = kind ∧ c.WellFormed) ∧
      cs = found.toList.flatMap Cluster.text ++ rest := by
  unfold cluster at h
  split at h
  case h_1 he =>
    cases h
    simp
  case h_2 cs₁ he =>
    rcases hm : many (node kind) cs₁ with ⟨nodes, cs₂⟩
    obtain ⟨hkinds, htext⟩ := of_many eq_of_node hm
    simp only [hm, Option.bind_eq_bind, Option.bind_eq_some_iff] at h
    obtain ⟨cs₃, hclosing, h⟩ := h
    split at h
    case isTrue => cases h
    case isFalse hne =>
      cases h
      have hw : (⟨kind, nodes⟩ : Cluster).WellFormed := ⟨by simpa using hne, hkinds⟩
      refine ⟨by simpa using hw, ?_⟩
      rw [eq_append_of_expect he, htext, eq_append_of_expect hclosing]
      simp only [Option.toList_some, List.flatMap_singleton, Cluster.text, List.append_assoc]

theorem eq_of_clusters {kinds : List NodeKind} {cs rest : List Char} {found : List Cluster}
    (h : clusters kinds cs = some (found, rest)) :
    (found.map (·.kind)).Sublist kinds ∧ (∀ c ∈ found, c.WellFormed) ∧
      cs = found.flatMap Cluster.text ++ rest := by
  induction kinds generalizing cs found with
  | nil =>
    cases h
    simp
  | cons kind kinds ih =>
    simp only [clusters, Option.bind_eq_bind, Option.bind_eq_some_iff, Option.some.injEq,
      Prod.mk.injEq, Prod.exists] at h
    obtain ⟨first, cs₁, h₁, others, cs₂, h₂, rfl, rfl⟩ := h
    obtain ⟨hfirst, htext⟩ := eq_of_cluster h₁
    obtain ⟨hs, hw, hothers⟩ := ih h₂
    subst htext hothers
    cases first with
    | none => exact ⟨hs.cons kind, hw, rfl⟩
    | some c =>
      obtain ⟨rfl, hc⟩ := hfirst c rfl
      refine ⟨hs.cons_cons c.kind, List.forall_mem_cons.mpr ⟨hc, hw⟩, ?_⟩
      simp

theorem eq_of_edges {cs rest : List Char} {es : List DrawnEdge} (h : edges cs = some (es, rest)) :
    cs = edgesText es ++ rest := by
  unfold edges at h
  split at h
  case h_1 =>
    cases h
    rfl
  case h_2 cs₁ he =>
    rcases hm : many edge cs₁ with ⟨es', cs₂⟩
    obtain ⟨-, htext⟩ := of_many (fun h => ⟨trivial, eq_of_edge h⟩) hm
    simp only [hm] at h
    split at h
    case isTrue => cases h
    case isFalse hne =>
      cases h
      rw [eq_append_of_expect he, htext]
      cases es with
      | nil => exact absurd rfl hne
      | cons e es => rfl

end Reader

/-- Only the texts of well-formed drawings are read. -/
theorem eq_of_read {text : String} {d : Drawing} (h : read text = some d) :
    d.WellFormed ∧ text.toList = d.text := by
  simp only [read, Option.bind_eq_bind, Option.bind_eq_some_iff, Prod.exists] at h
  obtain ⟨cs₁, h₁, found, cs₂, h₂, es, cs₃, h₃, cs₄, h₄, h⟩ := h
  split at h
  case isFalse => cases h
  case isTrue hend =>
    cases h
    obtain ⟨hs, hw, htext⟩ := Reader.eq_of_clusters h₂
    refine ⟨⟨hs, hw⟩, ?_⟩
    rw [eq_append_of_expect h₁, htext, Reader.eq_of_edges h₃, eq_append_of_expect h₄,
      List.isEmpty_iff.mp hend, List.append_nil, Drawing.text]

/-- A text is read exactly when it is a written graph, and as its drawing. -/
theorem read_eq_some_iff {text : String} {d : Drawing} :
    read text = some d ↔ ∃ g, render g = text ∧ .ofGraph g = d := by
  constructor
  · intro h
    obtain ⟨hw, htext⟩ := eq_of_read h
    have hd := ofGraph_graph hw
    refine ⟨d.graph, String.toList_inj.mp ?_, hd⟩
    rw [toList_render, hd, htext]
  · rintro ⟨g, rfl, rfl⟩
    exact read_render g

end SecretAccess.Dot
